import EditorBlocks.Violation.Kind
import EditorBlocks.Violation.Path

/-!
# Violations

A broken rule, the place in the document where it is broken, and how much that
matters.  Lists of violations keep the order in which the rules were checked.
-/

namespace EditorBlocks

structure Violation where
  path : Path
  kind : Violation.Kind
  detail : String
  severity : Severity
deriving DecidableEq, Repr

namespace Violation

/-- A violation as severe as its kind is by default. -/
def ofKind (path : Path) (kind : Kind) (detail : String) : Violation :=
  ⟨path, kind, detail, kind.severity⟩

def isError (v : Violation) : Bool := v.severity = .error

/-- The same violation seen from a container of the document. -/
def under (above : Path) (v : Violation) : Violation := { v with path := above ++ v.path }

def toError (v : Violation) : Violation := { v with severity := .error }

@[simp]
theorem isError_under (above : Path) (v : Violation) : (v.under above).isError = v.isError := rfl

@[simp]
theorem isError_toError (v : Violation) : v.toError.isError = true := rfl

@[simp]
theorem under_nil (v : Violation) : v.under [] = v := rfl

theorem under_under (outer inner : Path) (v : Violation) :
    (v.under inner).under outer = v.under (outer ++ inner) := by
  simp [under]

theorem toError_under (above : Path) (v : Violation) :
    (v.under above).toError = v.toError.under above := rfl

def text (v : Violation) : String :=
  v.severity.name ++ " at '" ++ v.path.text ++ "': " ++ v.kind.text ++ ": " ++ v.detail

def toJson (v : Violation) : Json :=
  .object ([("path", .string v.path.text)] ++ v.kind.members ++
    [("detail", .string v.detail), ("severity", .string v.severity.name)])

end Violation

/-- The violations of one or more documents, in order. -/
abbrev Violations := List Violation

namespace Violations

def hasErrors (vs : Violations) : Bool := vs.any Violation.isError

def errors (vs : Violations) : Violations := vs.filter Violation.isError

def warnings (vs : Violations) : Violations := vs.filter fun v => !v.isError

def ofKind (vs : Violations) (kind : Violation.Kind) : Violations := vs.filter (·.kind = kind)

/-- Every warning becomes an error. -/
def toErrors (vs : Violations) : Violations := vs.map Violation.toError

def under (above : Path) (vs : Violations) : Violations := vs.map (Violation.under above)

@[simp]
theorem hasErrors_append (vs ws : Violations) :
    hasErrors (vs ++ ws) = (hasErrors vs || hasErrors ws) :=
  List.any_append

@[simp]
theorem hasErrors_under (above : Path) (vs : Violations) :
    hasErrors (under above vs) = hasErrors vs := by
  simp [hasErrors, under, Function.comp_def]

/-- After promotion, any violation at all is an error. -/
theorem hasErrors_toErrors (vs : Violations) : hasErrors (toErrors vs) = !vs.isEmpty := by
  cases vs <;> simp [hasErrors, toErrors]

@[simp]
theorem nil_under (above : Path) : under above [] = [] := rfl

@[simp]
theorem under_root (vs : Violations) : under [] vs = vs := List.map_id vs

theorem cons_under (above : Path) (v : Violation) (vs : Violations) :
    under above (v :: vs) = v.under above :: under above vs := rfl

theorem under_append (above : Path) (vs ws : Violations) :
    under above (vs ++ ws) = under above vs ++ under above ws :=
  List.map_append

theorem under_under (outer inner : Path) (vs : Violations) :
    under outer (under inner vs) = under (outer ++ inner) vs := by
  simp [under, Function.comp_def, Violation.under_under]

theorem under_flatMap {α : Type} (above : Path) (xs : List α) (f : α → Violations) :
    under above (xs.flatMap f) = xs.flatMap fun x => under above (f x) :=
  List.map_flatMap

theorem toErrors_under (above : Path) (vs : Violations) :
    toErrors (under above vs) = under above (toErrors vs) := by
  simp [toErrors, under, Function.comp_def, Violation.toError_under]

def numberedLines (vs : Violations) : List String :=
  vs.zipIdx.map fun (v, i) => toString (i + 1) ++ ". " ++ v.text

def text : Violations → String
  | [] => "No violations"
  | [v] => v.text
  | vs => "\n".intercalate (s!"{vs.length} violations:" :: numberedLines vs)

end Violations

end EditorBlocks
