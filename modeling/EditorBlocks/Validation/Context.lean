import EditorBlocks.Text.Blank
import EditorBlocks.Violation.Path

/-!
# Validation settings

How thoroughly a document is checked, which names its extensions and its
mutator may have, and where it lies.
-/

namespace EditorBlocks.Validation

inductive Mode where
  /-- Every rule, and a warning is as bad as an error. -/
  | strict
  /-- Every rule, and a definition with warnings is still good. -/
  | tolerant
  /-- Shapes, presence and fixed words only. -/
  | basic
deriving DecidableEq, Repr

namespace Mode

def all : List Mode := [.strict, .tolerant, .basic]

def name : Mode → String
  | .strict => "strict"
  | .tolerant => "partial"
  | .basic => "basic"

/-- The mode of exactly this name. -/
def ofName? (name : String) : Option Mode := all.find? (·.name = name)

@[simp]
theorem ofName?_name (mode : Mode) : ofName? mode.name = some mode := by
  cases mode <;> decide

/-- A name that no mode has, in lower case. -/
structure UnknownName where
  name : String
deriving DecidableEq, Repr

def UnknownName.message (e : UnknownName) : String :=
  "unknown validation mode '" ++ e.name ++ "', expected strict, partial or basic"

/-- The mode of a name in upper or lower case. -/
def read (name : String) : Except UnknownName Mode :=
  let name := Text.lowerAscii name
  match ofName? name with
  | some mode => .ok mode
  | none => .error ⟨name⟩

/-- The rules beyond shapes are checked. -/
def checksRules : Mode → Bool
  | .basic => false
  | _ => true

def warningsBlock : Mode → Bool
  | .strict => true
  | _ => false

end Mode

/-- A set of names, in ascending order. -/
structure Registry where
  names : List String
deriving DecidableEq, Repr

namespace Registry

def insert (name : String) : List String → List String
  | [] => [name]
  | n :: rest =>
    if name < n then name :: n :: rest else if name = n then n :: rest else n :: insert name rest

def ofList (names : List String) : Registry := ⟨names.foldr insert []⟩

def has (r : Registry) (name : String) : Bool := r.names.contains name

theorem mem_insert {name other : String} {names : List String} :
    other ∈ insert name names ↔ other = name ∨ other ∈ names := by
  induction names with
  | nil => simp [insert]
  | cons n rest ih =>
    unfold insert
    split
    · simp
    · split
      · next h => simp [h]
      · simp only [List.mem_cons, ih, or_left_comm]

/-- A registry holds the names that it was made from, in any order and however
often they come. -/
theorem has_ofList {names : List String} {name : String} :
    (ofList names).has name = true ↔ name ∈ names := by
  simp only [has, ofList, List.contains_iff_mem]
  induction names with
  | nil => rfl
  | cons n rest ih => simp only [List.foldr_cons, mem_insert, ih, List.mem_cons]

/-- Without a registry every name is good. -/
def permits (registry : Option Registry) (name : String) : Bool :=
  match registry with
  | none => true
  | some r => r.has name

end Registry

structure Context where
  mode : Mode
  extensions : Option Registry
  mutators : Option Registry
  path : Path
deriving DecidableEq, Repr

namespace Context

/-- The settings of a mode at the root, where every name is good. -/
@[coe]
abbrev ofMode (mode : Mode) : Context := ⟨mode, none, none, []⟩

instance : Coe Mode Context := ⟨ofMode⟩

/-- The settings for the value under a key. -/
def child (c : Context) (key : String) : Context := { c with path := c.path ++ [.key key] }

/-- The settings for the entry of a list. -/
def entry (c : Context) (position : Nat) : Context :=
  { c with path := c.path ++ [.index position] }

@[simp]
theorem mode_child (c : Context) (key : String) : (c.child key).mode = c.mode := rfl

@[simp]
theorem path_child (c : Context) (key : String) : (c.child key).path = c.path ++ [.key key] := rfl

@[simp]
theorem mode_entry (c : Context) (position : Nat) : (c.entry position).mode = c.mode := rfl

@[simp]
theorem path_entry (c : Context) (position : Nat) :
    (c.entry position).path = c.path ++ [.index position] := rfl

end Context

end EditorBlocks.Validation
