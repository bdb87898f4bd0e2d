import EditorBlocks.Validation.Slots

/-!
# Validating a block definition

The rules are checked in a fixed order and every broken one is reported.  A
document without errors is accepted and gives a definition.
-/

namespace EditorBlocks.Validation

open Schema

/-- Of two things that exclude each other one has to be absent. -/
def checkExclusive (path : Path) (first second : Bool) (field other : String) : Violations :=
  if first && second then [(Finding.cannotCombine field other).violation path] else []

/-- Value blocks and statement blocks have different connections. -/
def checkVariant (path : Path) (o : Object) : Violations :=
  checkExclusive path (hasValueKey o) (hasStatementKey o) "output"
    "previousStatement or nextStatement"

/-- What the object is checked and built as.  When its keys say both or neither it
is a statement block. -/
def variant (o : Object) : Variant :=
  if hasValueKey o && !hasStatementKey o then .value else .statement

/-- The constraints on the object: a statement block needs no output. -/
def rootConstraints (o : Object) : List Constraint :=
  if variant o = .value then root
  else root.map fun c =>
    if (valueBlock.find? c.key).isSome then { c with required := false } else c

/-- The value under a key of the block, if it has the right shape. -/
def rootValue? (o : Object) (key : String) : Option Json :=
  (rootConstraint? key).bind (shaped? o)

def checkColours (here : Context) (o : Object) : Violations :=
  if here.mode.checksRules && (rootValue? o "style").isSome && (rootValue? o "colour").isSome
  then [Finding.colourIgnored.violation here.path]
  else []

def checkRegistered (what : String) (registry : Option Registry) (path : Path) (name : String) :
    Violations :=
  if Registry.permits registry name then [] else [(Finding.notRegistered what name).violation path]

def checkExtensions (path : Path) (registry : Option Registry) (o : Object) : Violations :=
  match (rootValue? o "extensions").bind Json.strings? with
  | none => []
  | some names =>
    names.zipIdx.flatMap fun (name, position) =>
      checkRegistered "extension" registry (path ++ [.key "extensions", .index position]) name

def checkMutator (path : Path) (registry : Option Registry) (o : Object) : Violations :=
  match (rootValue? o "mutator").bind Json.string? with
  | none => []
  | some name => checkRegistered "mutator" registry (path ++ [.key "mutator"]) name

/-- The violations of an object where it is, with the severity of each finding. -/
def checkBlock (here : Context) (o : Object) : Violations :=
  checkVariant here.path o ++
    checkConstraints here o (rootConstraints o) ++
    checkUnknownKeys here.path isRootKey o ++
    checkColours here o ++
    checkExtensions here.path here.extensions o ++
    checkMutator here.path here.mutators o ++
    slots.flatMap (checkSlot here o)

def checkDocument (here : Context) : Json → Violations
  | .object o => checkBlock here o
  | value => [(Finding.notABlock value).violation here.path]

/-- The definition of an object without errors, put together from its slots. -/
def builtDefinition? (here : Context) (o : Object) : Option Definition :=
  let outcomes := slots.map (slotOutcome here o)
  if outcomes.contains .broken || (checkBlock here o).hasErrors then none
  else Definition.ofObject? (variant o) o (outcomes.filterMap SlotOutcome.slot?)

/-- The outcome of validating a document. -/
structure Report where
  mode : Mode
  violations : Violations
  /-- There is a definition when no violation is an error. -/
  definition : Option Definition

namespace Report

def isValid (r : Report) : Bool := r.definition.isSome

def result (r : Report) : Except Violations Definition :=
  match r.definition with
  | some definition => .ok definition
  | none => .error r.violations

end Report

/-- Validates a document at the place that the context gives. -/
def validate (c : Context) (document : Json) : Report :=
  let found := checkDocument c document
  let violations := if c.mode.warningsBlock then found.toErrors else found
  { mode := c.mode
    violations
    definition :=
      if violations.hasErrors then none else document.object?.bind (builtDefinition? c) }

end EditorBlocks.Validation
