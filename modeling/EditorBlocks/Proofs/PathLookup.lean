import EditorBlocks.Json.Basic
import EditorBlocks.Violation.Path

/-!
# Following a path

A path leads from a value to one that lies within it, segment by segment: a key
into an object that has it, a position into a list that is long enough.  A path
that was put together from two is followed one part after the other, so what is
known of a part of a document is known of its place in the whole.
-/

namespace EditorBlocks

namespace Json

/-- The value that one segment leads to. -/
def child? : Json → Segment → Option Json
  | .object o, .key name => Object.get? o name
  | .list items, .index position => items[position]?
  | _, _ => none

/-- The value that a path leads to. -/
def at? (value : Json) : Path → Option Json
  | [] => some value
  | segment :: rest => (value.child? segment).bind fun child => child.at? rest

@[simp]
theorem at?_nil (value : Json) : value.at? [] = some value := rfl

@[simp]
theorem at?_cons (value : Json) (segment : Segment) (rest : Path) :
    value.at? (segment :: rest) =
      (value.child? segment).bind fun child => child.at? rest :=
  rfl

@[simp]
theorem child?_key (o : Object) (name : String) :
    (Json.object o).child? (.key name) = o.get? name := rfl

@[simp]
theorem child?_index (items : List Json) (position : Nat) :
    (Json.list items).child? (.index position) = items[position]? := rfl

theorem at?_append (value : Json) (first second : Path) :
    value.at? (first ++ second) =
      (value.at? first).bind fun inner => inner.at? second := by
  induction first generalizing value with
  | nil => rfl
  | cons segment rest ih =>
      rw [List.cons_append, at?_cons, at?_cons, Option.bind_assoc]
      congr 1
      funext child
      exact ih child

end Json

end EditorBlocks
