import EditorBlocks.Argument.Basic
import EditorBlocks.Validation.Context
import EditorBlocks.Validation.Finding
import EditorBlocks.Validation.Repeats

/-!
# Checking an object against a table

Every constraint of a table is checked in turn: the key has to be there, its
value has to have the shape, and then its rules are applied.  What is found is
reported where the settings say that the object is.
-/

namespace EditorBlocks.Validation

open Schema

/-- What an option stores, also of an entry that is not a proper option. -/
def optionValue? : Json → Option String
  | .list (_ :: value :: _) => value.string?
  | _ => none

/-- The violations of the entry at a position of a list of options. -/
def checkOption (here : Context) (options : List Json) (position : Nat) (option : Json) :
    Violations :=
  let path := (here.entry position).path
  (if (Dropdown.Choice.ofJson? option).isNone
    then [(Finding.malformedOption option).violation path] else []) ++
  (if here.mode.checksRules then
    ((earlier? (options.map optionValue?) position).map
      fun first => (Finding.repeatedOption first).violation path).toList
  else [])

def checkOptions (here : Context) (options : List Json) : Violations :=
  options.zipIdx.flatMap fun (option, position) => checkOption here options position option

def checkNonEmpty (path : Path) (key : String) (items : List Json) : Violations :=
  if items.isEmpty then [(Finding.emptyList key).violation path] else []

def checkListed (path : Path) (key : String) (allowed : List String) (value : String) :
    Violations :=
  if allowed.contains value then [] else [(Finding.notListed value key allowed).violation path]

/-- A list that names no type, and every name that an entry before has. -/
def checkDistinctTypes (path : Path) (key : String) (items : List Json) : Violations :=
  (if items.isEmpty then [(Finding.acceptsNothing key).violation path] else []) ++
  (repeats (items.map Json.string?)).map fun (position, first) =>
    (Finding.repeatedType first).violation (path ++ [.index position])

/-- Fixed words are checked in every mode, all other rules only in a mode that
checks rules.  The options of a dropdown are checked with their shape. -/
def checkRule (here : Context) (key : String) (value : Json) (rule : Rule) : Violations :=
  match rule, value with
  | .oneOf names, .string s => checkListed here.path key names s
  | rule, value =>
    if !here.mode.checksRules then []
    else
      match rule, value with
      | .nonEmpty, .list items => checkNonEmpty here.path key items
      | .nonNegative, .number n =>
        if n.toFloat < 0.0 then [(Finding.negative key n.toFloat).violation here.path] else []
      | .hueInRange, .number n =>
        if 0.0 ≤ n.toFloat ∧ n.toFloat ≤ 360.0 then []
        else [(Finding.hueOutOfRange n.toFloat).violation here.path]
      | .distinctTypes, .list items => checkDistinctTypes here.path key items
      | _, _ => []

/-- The settings are those for the value. -/
def checkValue (here : Context) (c : Constraint) (value : Json) : Violations :=
  if !c.shape.admits value then [(Finding.mismatch c.key c.shape value).violation here.path]
  else
    (match c.shape, value with
      | .options, .list options => checkOptions here options
      | _, _ => []) ++
    c.rules.flatMap (checkRule here c.key value)

def checkConstraint (here : Context) (o : Object) (c : Constraint) : Violations :=
  match o.get? c.key with
  | none =>
    if c.required then [(Finding.missing c.key).violation (here.child c.key).path] else []
  | some value => checkValue (here.child c.key) c value

def checkConstraints (here : Context) (o : Object) (constraints : List Constraint) : Violations :=
  constraints.flatMap (checkConstraint here o)

/-- Keys that nobody knows, in order. -/
def checkUnknownKeys (path : Path) (isKnown : String → Bool) (o : Object) : Violations :=
  (o.keys.filter fun key => !isKnown key).map fun key =>
    (Finding.unknownKey key).violation (path ++ [.key key])

/-- The value under a key, if it has the shape that the key asks for. -/
def shaped? (o : Object) (c : Constraint) : Option Json :=
  (o.get? c.key).filter c.shape.admits

end EditorBlocks.Validation
