import EditorBlocks.Validation.Arguments

/-!
# Checking slots

A slot is a message, its list of arguments and its alignment.  The arguments are
checked one by one; then placeholders and arguments have to correspond.
-/

namespace EditorBlocks.Validation

open Schema Template

/-- The number that an oversized placeholder is reported with. -/
def oversizedNumber : Nat := Violation.Kind.numberLimit

/-- The number of a placeholder, and how it is written. -/
def reference? : Token → Option (Nat × String)
  | .placeholder n => some (n, toString n)
  | .oversized digits => some (oversizedNumber, digits)
  | _ => none

/-- The references of a template, in order. -/
def references (tokens : List Token) : List (Nat × String) := tokens.filterMap reference?

/-- How often each argument was named so far, and which of them were reported for
being named again. -/
structure Tally where
  counts : List Nat
  reported : List Nat

namespace Tally

def start (count : Nat) : Tally := ⟨List.replicate count 0, []⟩

/-- Goes on to a reference: a number without an argument is reported each time, and
one that comes again once only. -/
def look (path : Path) (i : Fin slotCount) (count : Nat) (tally : Tally)
    (reference : Nat × String) : Tally × Violations :=
  let (n, written) := reference
  let here := path ++ [.key (messageKey i)]
  if n = 0 ∨ count < n then
    (tally,
      [(Finding.placeholderOutOfRange n written count (argumentsKey i)).violation here])
  else
    let counts := tally.counts.modify (n - 1) (· + 1)
    if 1 < counts.getD (n - 1) 0 ∧ n ∉ tally.reported then
      (⟨counts, tally.reported ++ [n]⟩, [(Finding.duplicatePlaceholder n).violation here])
    else (⟨counts, tally.reported⟩, [])

def lookAll (path : Path) (i : Fin slotCount) (count : Nat) :
    Tally → List (Nat × String) → Tally × Violations
  | tally, [] => (tally, [])
  | tally, reference :: rest =>
    let (tally, found) := tally.look path i count reference
    let (tally, later) := tally.lookAll path i count rest
    (tally, found ++ later)

/-- Arguments that were never named. -/
def checkNamed (path : Path) (i : Fin slotCount) (names : List (Option String))
    (tally : Tally) : Violations :=
  tally.counts.zipIdx.flatMap fun (count, position) =>
    if count = 0 then
      [(Finding.unreferencedArgument (position + 1) names[position]?.join
        (messageKey i)).violation (path ++ [.key (argumentsKey i), .index position])]
    else []

end Tally

/-- Placeholders against the names of as many arguments. -/
def checkPlaceholders (path : Path) (i : Fin slotCount) (tokens : List Token)
    (names : List (Option String)) : Violations :=
  let (tally, found) :=
    (Tally.start names.length).lookAll path i names.length (references tokens)
  found ++ tally.checkNamed path i names

def checkNames (path : Path) (i : Fin slotCount) (names : List (Option String)) : Violations :=
  (repeats names).map fun (position, first) =>
    (Finding.duplicateName ((names[position]?.join).getD "") first).violation
      (path ++ [.key (argumentsKey i), .index position, .key argumentName.key])

/-- Whether a placeholder stands for an input, as far as its argument tells. -/
def isInputAt (kinds : List (Option ArgumentKind)) (number : Nat) : Option Bool :=
  if number = 0 then none else (kinds[number - 1]?.join).map ArgumentKind.isInput

/-- An alignment needs a dummy input to align. -/
def checkAlign (path : Path) (i : Fin slotCount) (o : Object) (tokens : List Token)
    (kinds : List (Option ArgumentKind)) : Violations :=
  if (shaped? o (align i)).isSome && !impliesDummy tokens (isInputAt kinds) then
    [(Finding.idleAlign (alignKey i) (messageKey i)).violation (path ++ [.key (alignKey i)])]
  else []

/-- The settings of a slot without a message are idle. -/
def checkIdle (path : Path) (i : Fin slotCount) (o : Object) : Violations :=
  [arguments i, align i].flatMap fun c =>
    if (shaped? o c).isSome then
      [(Finding.withoutMessage c.key (messageKey i)).violation (path ++ [.key c.key])]
    else []

/-- The entries of the argument list of a slot. -/
def entries (i : Fin slotCount) (o : Object) : List Json :=
  ((o.get? (argumentsKey i)).bind Json.list?).getD []

/-- The settings for the entry of an argument list. -/
def Context.argument (here : Context) (i : Fin slotCount) (position : Nat) : Context :=
  (here.child (argumentsKey i)).entry position

@[simp]
theorem Context.mode_argument (here : Context) (i : Fin slotCount) (position : Nat) :
    (here.argument i position).mode = here.mode := rfl

@[simp]
theorem Context.path_argument (here : Context) (i : Fin slotCount) (position : Nat) :
    (here.argument i position).path =
      here.path ++ [.key (argumentsKey i), .index position] := by
  simp [argument]

def checkEntries (here : Context) (i : Fin slotCount) (items : List Json) : Violations :=
  items.zipIdx.flatMap fun (item, position) => checkArgument (here.argument i position) item

/-- What a message has to agree with. -/
def checkMessage (path : Path) (i : Fin slotCount) (o : Object) (message : String) :
    Violations :=
  let tokens := tokenize message
  let items := entries i o
  checkNames path i (items.map argumentName?) ++
    checkPlaceholders path i tokens (items.map argumentName?) ++
    checkAlign path i o tokens (items.map argumentKind?)

def checkSlot (here : Context) (o : Object) (i : Fin slotCount) : Violations :=
  checkEntries here i (entries i o) ++
    match (o.get? (messageKey i)).bind Json.string? with
    | none => checkIdle here.path i o
    | some message => if here.mode.checksRules then checkMessage here.path i o message else []

/-- What becomes of a slot. -/
inductive SlotOutcome where
  /-- There is no message. -/
  | absent
  | built (slot : Slot)
  /-- Something in the slot is an error, or an argument of it was not built. -/
  | broken
deriving DecidableEq, Repr

namespace SlotOutcome

def slot? : SlotOutcome → Option Slot
  | .built slot => some slot
  | .absent | .broken => none

end SlotOutcome

/-- The arguments of entries without errors. -/
def builtArguments? (here : Context) (i : Fin slotCount) (items : List Json) :
    Option (List Argument) :=
  items.zipIdx.mapM fun (item, position) => builtArgument? (here.argument i position) item

def slotOutcome (here : Context) (o : Object) (i : Fin slotCount) : SlotOutcome :=
  match (o.get? (messageKey i)).bind Json.string? with
  | none => .absent
  | some message =>
    if (checkSlot here o i).hasErrors then .broken
    else
      match builtArguments? here i (entries i o) with
      | none => .broken
      | some arguments =>
        .built ⟨i, message, arguments,
          ((o.get? (alignKey i)).bind Json.string?).bind Align.ofName?⟩

end EditorBlocks.Validation
