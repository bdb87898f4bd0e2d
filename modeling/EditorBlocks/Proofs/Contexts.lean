import EditorBlocks.Validation.Block
import Mathlib.Data.List.Basic

/-!
# Checks and the place they are told

Every check is told where the value that it looks at lies, and hands the place of
a part on to the check of the part.  What it reports is what it reports at the root,
seen from further out; the mode is all else that the check of a value asks of its
settings, and the check of a block asks for the registries as well.
-/

namespace EditorBlocks.Validation

open Schema Violations

/-- The same settings for a document of its own. -/
def Context.atRoot (c : Context) : Context := { c with path := [] }

@[simp]
theorem Context.atRoot_ofMode (mode : Mode) : Context.atRoot mode = mode := rfl

/-! ## Single findings -/

theorem violation_under (f : Finding) (path : Path) :
    f.violation path = (f.violation []).under path := by
  rw [Violation.under, Finding.violation, Finding.violation, List.append_nil]

theorem singleton_under (f : Finding) (path : Path) :
    [f.violation path] = under path [f.violation []] := by
  rw [cons_under, nil_under, ← violation_under]

theorem ite_under (p : Prop) [Decidable p] (path : Path) (vs ws : Violations) :
    (if p then vs.under path else ws.under path) = (if p then vs else ws).under path :=
  (apply_ite (under path) p vs ws).symm

theorem report_under (p : Prop) [Decidable p] (f : Finding) (path : Path) :
    (if p then [f.violation path] else []) = under path (if p then [f.violation []] else []) := by
  rw [← ite_under, nil_under, ← singleton_under]

theorem unless_under (p : Prop) [Decidable p] (f : Finding) (path : Path) :
    (if p then [] else [f.violation path]) = under path (if p then [] else [f.violation []]) := by
  rw [← ite_under, nil_under, ← singleton_under]

/-! ## One key -/

theorem checkOption_under (here : Context) (options : List Json) (position : Nat)
    (option : Json) :
    checkOption here options position option =
      (checkOption here.mode options position option).under here.path := by
  unfold checkOption
  rw [under_append, ← ite_under, ← ite_under]
  cases earlier? (options.map optionValue?) position <;> rfl

theorem checkOptions_under (here : Context) (options : List Json) :
    checkOptions here options = (checkOptions here.mode options).under here.path := by
  unfold checkOptions
  rw [under_flatMap]
  exact List.flatMap_congr fun entry _ => checkOption_under here options entry.2 entry.1

theorem checkNonEmpty_under (path : Path) (key : String) (items : List Json) :
    checkNonEmpty path key items = (checkNonEmpty [] key items).under path :=
  report_under ..

theorem checkListed_under (path : Path) (key : String) (allowed : List String)
    (value : String) :
    checkListed path key allowed value = (checkListed [] key allowed value).under path :=
  unless_under ..

theorem checkDistinctTypes_under (path : Path) (key : String) (items : List Json) :
    checkDistinctTypes path key items = (checkDistinctTypes [] key items).under path := by
  unfold checkDistinctTypes
  rw [under_append, ← report_under]
  congr 1
  rw [under, List.map_map]
  rfl

theorem checkRule_under (here : Context) (key : String) (value : Json) (rule : Rule) :
    checkRule here key value rule = (checkRule here.mode key value rule).under here.path := by
  unfold checkRule
  split
  next => exact checkListed_under ..
  next =>
    rw [← ite_under, nil_under]
    congr 1
    split
    next => exact checkNonEmpty_under ..
    next => exact report_under ..
    next => exact unless_under ..
    next => exact checkDistinctTypes_under ..
    next => rfl

theorem checkValue_under (here : Context) (c : Constraint) (value : Json) :
    checkValue here c value = (checkValue here.mode c value).under here.path := by
  unfold checkValue
  rw [← ite_under, ← singleton_under, under_append, under_flatMap]
  congr 2
  · split
    next => exact checkOptions_under ..
    next => rfl
  · exact List.flatMap_congr fun rule _ => checkRule_under here c.key value rule

theorem checkConstraint_under (here : Context) (o : Object) (c : Constraint) :
    checkConstraint here o c = (checkConstraint here.mode o c).under here.path := by
  unfold checkConstraint
  split
  next =>
    rw [← ite_under]
    rfl
  next =>
    rw [checkValue_under (here.child c.key), checkValue_under (Context.child _ c.key),
      under_under]
    rfl

/-- A value is reported below its key. -/
theorem checkConstraint_root (mode : Mode) (o : Object) (c : Constraint) :
    checkConstraint mode o c =
      match o.get? c.key with
      | none => if c.required then [(Finding.missing c.key).violation [.key c.key]] else []
      | some value => (checkValue mode c value).under [.key c.key] := by
  unfold checkConstraint
  cases o.get? c.key with
  | none => rfl
  | some value => exact checkValue_under (Context.child mode c.key) c value

theorem checkConstraints_under (here : Context) (o : Object) (constraints : List Constraint) :
    checkConstraints here o constraints =
      (checkConstraints here.mode o constraints).under here.path := by
  unfold checkConstraints
  rw [under_flatMap]
  exact List.flatMap_congr fun c _ => checkConstraint_under here o c

theorem checkUnknownKeys_under (path : Path) (isKnown : String → Bool) (o : Object) :
    checkUnknownKeys path isKnown o = (checkUnknownKeys [] isKnown o).under path := by
  rw [checkUnknownKeys, checkUnknownKeys, under, List.map_map]
  rfl

/-! ## Arguments -/

theorem checkOrderedBounds_under (path : Path) (o : Object) :
    checkOrderedBounds path o = (checkOrderedBounds [] o).under path := by
  unfold checkOrderedBounds
  split
  next => exact report_under ..
  next => rfl

theorem checkValueInBounds_under (path : Path) (o : Object) :
    checkValueInBounds path o = (checkValueInBounds [] o).under path := by
  unfold checkValueInBounds
  split
  next => rfl
  next =>
    rw [under_append]
    congr 1
    · split
      next => exact report_under ..
      next => rfl
    · split
      next => exact report_under ..
      next => rfl

theorem checkDefaultType_under (path : Path) (o : Object) :
    checkDefaultType path o = (checkDefaultType [] o).under path := by
  unfold checkDefaultType
  split
  next =>
    rw [← ite_under]
    rfl
  next => rfl

theorem checkJointRule_under (path : Path) (o : Object) (rule : JointRule) :
    checkJointRule path o rule = (checkJointRule [] o rule).under path := by
  cases rule with
  | orderedBounds => exact checkOrderedBounds_under path o
  | valueInBounds => exact checkValueInBounds_under path o
  | defaultTypeListed => exact checkDefaultType_under path o

theorem checkKnownArgument_under (here : Context) (o : Object) (table : Table) :
    checkKnownArgument here o table =
      (checkKnownArgument here.mode o table).under here.path := by
  unfold checkKnownArgument
  rw [under_append, under_append, ← checkConstraints_under, ← ite_under, ← ite_under,
    nil_under, ← checkUnknownKeys_under, under_flatMap]
  congr 2
  exact List.flatMap_congr fun rule _ => checkJointRule_under here.path o rule

theorem checkArgument_under (here : Context) (item : Json) :
    checkArgument here item = (checkArgument here.mode item).under here.path := by
  cases item with
  | object o =>
      simp only [checkArgument]
      cases argumentKind? (.object o) with
      | some kind => exact checkKnownArgument_under here o (argument kind)
      | none =>
          simp only [cons_under]
          rw [checkConstraint_under here]
          rfl
  | null | bool | number | string | list => exact singleton_under ..

theorem builtArgument?_mode (here : Context) (item : Json) :
    builtArgument? here item = builtArgument? here.mode item := by
  rw [builtArgument?, checkArgument_under, hasErrors_under]
  rfl

/-! ## Slots -/

theorem look_under (path : Path) (i : Fin slotCount) (count : Nat) (tally : Tally)
    (reference : Nat × String) :
    tally.look path i count reference =
      ((tally.look [] i count reference).1,
        (tally.look [] i count reference).2.under path) := by
  unfold Tally.look
  simp only []
  split
  next => rfl
  next =>
    split
    next => rfl
    next => rfl

theorem lookAll_under (path : Path) (i : Fin slotCount) (count : Nat) (tally : Tally)
    (references : List (Nat × String)) :
    tally.lookAll path i count references =
      ((tally.lookAll [] i count references).1,
        (tally.lookAll [] i count references).2.under path) := by
  induction references generalizing tally with
  | nil => rfl
  | cons reference rest ih =>
      simp only [Tally.lookAll]
      rw [look_under path]
      simp only [ih, under_append]

theorem checkNamed_under (path : Path) (i : Fin slotCount) (names : List (Option String))
    (tally : Tally) :
    tally.checkNamed path i names = (tally.checkNamed [] i names).under path := by
  unfold Tally.checkNamed
  rw [under_flatMap]
  refine List.flatMap_congr fun entry _ => ?_
  rw [← ite_under]
  rfl

theorem checkPlaceholders_under (path : Path) (i : Fin slotCount)
    (tokens : List Template.Token) (names : List (Option String)) :
    checkPlaceholders path i tokens names = (checkPlaceholders [] i tokens names).under path := by
  simp only [checkPlaceholders]
  rw [under_append, lookAll_under path, checkNamed_under path]

theorem checkNames_under (path : Path) (i : Fin slotCount) (names : List (Option String)) :
    checkNames path i names = (checkNames [] i names).under path := by
  rw [checkNames, checkNames, under, List.map_map]
  rfl

theorem checkAlign_under (path : Path) (i : Fin slotCount) (o : Object)
    (tokens : List Template.Token) (kinds : List (Option ArgumentKind)) :
    checkAlign path i o tokens kinds = (checkAlign [] i o tokens kinds).under path := by
  rw [checkAlign, checkAlign, ← ite_under]
  rfl

theorem checkIdle_under (path : Path) (i : Fin slotCount) (o : Object) :
    checkIdle path i o = (checkIdle [] i o).under path := by
  rw [checkIdle, checkIdle, under_flatMap]
  refine List.flatMap_congr fun c _ => ?_
  rw [← ite_under]
  rfl

theorem checkMessage_under (path : Path) (i : Fin slotCount) (o : Object) (message : String) :
    checkMessage path i o message = (checkMessage [] i o message).under path := by
  simp only [checkMessage]
  rw [under_append, under_append, ← checkNames_under, ← checkPlaceholders_under,
    ← checkAlign_under]

theorem checkEntries_under (here : Context) (i : Fin slotCount) (items : List Json) :
    checkEntries here i items = (checkEntries here.mode i items).under here.path := by
  unfold checkEntries
  rw [under_flatMap]
  refine List.flatMap_congr fun (item, position) _ => ?_
  simp only [checkArgument_under (Context.argument _ i position), under_under]
  simp [Context.argument]

/-- An argument is reported below its position in the list. -/
theorem checkEntries_root (mode : Mode) (i : Fin slotCount) (items : List Json) :
    checkEntries mode i items = items.zipIdx.flatMap fun (item, position) =>
      (checkArgument mode item).under [.key (argumentsKey i), .index position] :=
  List.flatMap_congr fun (item, position) _ =>
    checkArgument_under (Context.argument mode i position) item

theorem checkSlot_under (here : Context) (o : Object) (i : Fin slotCount) :
    checkSlot here o i = (checkSlot here.mode o i).under here.path := by
  unfold checkSlot
  rw [under_append, ← checkEntries_under]
  congr 1
  split
  next => exact checkIdle_under ..
  next =>
    rw [← ite_under, nil_under, ← checkMessage_under]

theorem builtArguments?_eq (here : Context) (i : Fin slotCount) (items : List Json) :
    builtArguments? here i items = items.mapM (builtArgument? here.mode) := by
  have hentry : (fun entry : Json × Nat => builtArgument? (here.argument i entry.2) entry.1) =
      fun entry => builtArgument? here.mode entry.1 :=
    funext fun entry => builtArgument?_mode (here.argument i entry.2) entry.1
  calc builtArguments? here i items
      = items.zipIdx.mapM fun entry => builtArgument? here.mode entry.1 :=
        congrArg items.zipIdx.mapM hentry
    _ = (items.zipIdx.map Prod.fst).mapM (builtArgument? here.mode) := by
        rw [List.mapM_map]
        rfl
    _ = items.mapM (builtArgument? here.mode) := by rw [List.zipIdx_map_fst]

theorem slotOutcome_mode (here : Context) (o : Object) (i : Fin slotCount) :
    slotOutcome here o i = slotOutcome here.mode o i := by
  unfold slotOutcome
  rw [checkSlot_under, hasErrors_under, builtArguments?_eq, builtArguments?_eq]

/-! ## Blocks -/

theorem checkExclusive_under (path : Path) (first second : Bool) (field other : String) :
    checkExclusive path first second field other =
      (checkExclusive [] first second field other).under path :=
  report_under ..

theorem checkColours_under (here : Context) (o : Object) :
    checkColours here o = (checkColours here.mode o).under here.path :=
  report_under ..

theorem checkRegistered_append (what : String) (registry : Option Registry)
    (above path : Path) (name : String) :
    checkRegistered what registry (above ++ path) name =
      (checkRegistered what registry path name).under above := by
  rw [checkRegistered, checkRegistered, ← ite_under]
  rfl

theorem checkExtensions_under (path : Path) (registry : Option Registry) (o : Object) :
    checkExtensions path registry o = (checkExtensions [] registry o).under path := by
  unfold checkExtensions
  split
  next => rfl
  next =>
    rw [under_flatMap]
    exact List.flatMap_congr fun _ _ => checkRegistered_append ..

theorem checkMutator_under (path : Path) (registry : Option Registry) (o : Object) :
    checkMutator path registry o = (checkMutator [] registry o).under path := by
  unfold checkMutator
  split
  next => rfl
  next => exact checkRegistered_append ..

theorem checkBlock_under (here : Context) (o : Object) :
    checkBlock here o = (checkBlock here.atRoot o).under here.path := by
  unfold checkBlock checkVariant
  simp only [under_append, under_flatMap]
  rw [checkExclusive_under, checkConstraints_under, checkUnknownKeys_under, checkColours_under,
    checkExtensions_under, checkMutator_under]
  congr 1
  refine List.flatMap_congr fun i _ => checkSlot_under here o i

theorem checkBlock_atRoot (c : Context) (o : Object) :
    checkBlock c.atRoot o =
      checkVariant [] o ++
        checkConstraints c.mode o (rootConstraints o) ++
        checkUnknownKeys [] isRootKey o ++
        checkColours c.mode o ++
        checkExtensions [] c.extensions o ++
        checkMutator [] c.mutators o ++
        slots.flatMap (checkSlot c.mode o) := by
  have hslot : checkSlot c.atRoot o = checkSlot c.mode o := by
    funext i
    rw [checkSlot_under]
    exact under_root _
  unfold checkBlock
  rw [checkConstraints_under, hslot]
  simp only [Context.atRoot, under_root]
  rfl

theorem hasErrors_checkBlock_atRoot (c : Context) (o : Object) :
    (checkBlock c.atRoot o).hasErrors = (checkBlock c o).hasErrors := by
  rw [checkBlock_under c, hasErrors_under]

theorem checkDocument_under (here : Context) (document : Json) :
    checkDocument here document = (checkDocument here.atRoot document).under here.path := by
  cases document with
  | object o => exact checkBlock_under here o
  | null | bool | number | string | list => exact singleton_under ..

theorem builtDefinition?_atRoot (here : Context) (o : Object) :
    builtDefinition? here o = builtDefinition? here.atRoot o := by
  have houtcome : slotOutcome here o = slotOutcome here.atRoot o := by
    funext i
    rw [slotOutcome_mode, slotOutcome_mode here.atRoot]
    rfl
  unfold builtDefinition?
  rw [checkBlock_under here, hasErrors_under, houtcome]

/-! ## Reports -/

/-- What a mode makes of the findings at a path. -/
def reported (mode : Mode) (path : Path) (vs : Violations) : Violations :=
  if mode.warningsBlock then (vs.under path).toErrors else vs.under path

theorem violations_validate (c : Context) (document : Json) :
    (validate c document).violations =
      reported c.mode c.path (checkDocument c.atRoot document) := by
  rw [reported, ← checkDocument_under]
  rfl

end EditorBlocks.Validation
