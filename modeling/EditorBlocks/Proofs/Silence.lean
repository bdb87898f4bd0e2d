import EditorBlocks.Proofs.Contexts

/-!
# Silent checks

What a document is like when the validator reports no error in it.  The mode
does not matter: shapes, required keys, fixed words and the form of options are
checked in all of them.  `ProperBlock` collects what follows for a whole block.
-/

namespace EditorBlocks

namespace Violations

theorem hasErrors_eq_false_iff {vs : Violations} :
    vs.hasErrors = false ↔ ∀ v ∈ vs, v.severity ≠ .error := by
  simp [hasErrors, Violation.isError]

theorem hasErrors_flatMap_eq_false_iff {α : Type} {xs : List α} {f : α → Violations} :
    hasErrors (xs.flatMap f) = false ↔ ∀ x ∈ xs, hasErrors (f x) = false := by
  simp only [hasErrors, List.any_flatMap, List.any_eq_false, Bool.not_eq_true]

/-- Entries that are checked with their positions. -/
theorem exists_silent_of_mem_zipIdx {α : Type} {xs : List α} {f : α × Nat → Violations}
    (hsilent : hasErrors (xs.zipIdx.flatMap f) = false) {x : α} (hmem : x ∈ xs) :
    ∃ i, hasErrors (f (x, i)) = false := by
  obtain ⟨i, hi⟩ := List.mem_iff_getElem?.1 hmem
  exact ⟨i, hasErrors_flatMap_eq_false_iff.1 hsilent (x, i)
    (List.mk_mem_zipIdx_iff_getElem?.2 hi)⟩

theorem hasErrors_eq_false_of_sublist {vs ws : Violations} (hsub : vs.Sublist ws)
    (hclean : ws.hasErrors = false) : vs.hasErrors = false := by
  rw [hasErrors_eq_false_iff] at hclean ⊢
  exact fun v hv => hclean v (hsub.subset hv)

end Violations

theorem ArgumentKind.name_of_ofName? {name : String} {kind : ArgumentKind}
    (hkind : ofName? name = some kind) : name = kind.name := by
  have hname := List.find?_some hkind
  exact (of_decide_eq_true hname).symm

open Violations

/-! ## One key -/

namespace Schema.Constraint

/-- The value has the shape; options are well formed and fixed words are listed. -/
structure Fits (c : Constraint) (value : Json) : Prop where
  shape : c.shape.admits value = true
  options : ∀ items, c.shape = .options → value = .list items →
    ∀ item ∈ items, (Dropdown.Choice.ofJson? item).isSome
  listed : ∀ names s, .oneOf names ∈ c.rules → value = .string s → s ∈ names

/-- The key is there if it has to be, and its value fits. -/
structure Meets (c : Constraint) (o : Object) : Prop where
  present : c.required = true → ∃ value, o.get? c.key = some value
  fits : ∀ value, o.get? c.key = some value → c.Fits value

theorem Meets.exists_fits {c : Constraint} {o : Object} (hmeets : c.Meets o)
    (hrequired : c.required = true) :
    ∃ value, o.get? c.key = some value ∧ c.Fits value := by
  obtain ⟨value, hvalue⟩ := hmeets.present hrequired
  exact ⟨value, hvalue, hmeets.fits value hvalue⟩

theorem Meets.exists_string {c : Constraint} {o : Object} (hmeets : c.Meets o)
    (hrequired : c.required = true) (hshape : c.shape = .string) :
    ∃ s, o.get? c.key = some (.string s) := by
  obtain ⟨value, hvalue, hfits⟩ := hmeets.exists_fits hrequired
  have hstring := hfits.shape
  rw [hshape, Shape.admits] at hstring
  cases value with
  | string s => exact ⟨s, hvalue⟩
  | _ => contradiction

end Schema.Constraint

namespace Validation

open Schema

theorem hasErrors_violation {f : Finding} {path : Path} (herror : f.severity = .error) :
    hasErrors [f.violation path] = true := by
  simp [hasErrors, Violation.isError, Finding.violation, herror]

/-- Where an error is reported under a condition, silence denies the condition. -/
theorem not_of_silent {p : Prop} [Decidable p] {f : Finding} {path : Path}
    (herror : f.severity = .error)
    (hsilent : hasErrors (if p then [f.violation path] else []) = false) : ¬p := by
  intro hp
  rw [if_pos hp, hasErrors_violation herror] at hsilent
  contradiction

theorem choice_isSome_of_silent {here : Context} {options : List Json}
    (hsilent : (checkOptions here options).hasErrors = false) :
    ∀ option ∈ options, (Dropdown.Choice.ofJson? option).isSome := by
  intro option hmem
  obtain ⟨i, hchecked⟩ := exists_silent_of_mem_zipIdx hsilent hmem
  simp only [checkOption, hasErrors_append, Bool.or_eq_false_iff] at hchecked
  simpa [Option.isSome_iff_ne_none] using not_of_silent rfl hchecked.1

theorem mem_of_silent_checkListed {path : Path} {key : String} {names : List String} {s : String}
    (hsilent : (checkListed path key names s).hasErrors = false) : s ∈ names := by
  rw [checkListed, ← ite_not] at hsilent
  simpa using not_of_silent rfl hsilent

theorem fits_of_silent {here : Context} {c : Constraint} {value : Json}
    (hsilent : (checkValue here c value).hasErrors = false) : c.Fits value := by
  unfold checkValue at hsilent
  split at hsilent
  next hshape =>
    rw [hasErrors_violation rfl] at hsilent
    contradiction
  next hshape =>
    rw [hasErrors_append, Bool.or_eq_false_iff, hasErrors_flatMap_eq_false_iff] at hsilent
    obtain ⟨hoptions, hrules⟩ := hsilent
    refine ⟨by simpa using hshape, ?_, ?_⟩
    · rintro items hc rfl
      rw [hc] at hoptions
      exact choice_isSome_of_silent hoptions
    · rintro names s hrule rfl
      exact mem_of_silent_checkListed (hrules _ hrule)

theorem meets_of_silent {here : Context} {o : Object} {c : Constraint}
    (hsilent : (checkConstraint here o c).hasErrors = false) : c.Meets o := by
  unfold checkConstraint at hsilent
  cases hvalue : o.get? c.key with
  | none =>
      rw [hvalue] at hsilent
      refine ⟨fun hrequired => ?_, by simp [hvalue]⟩
      exact (not_of_silent rfl hsilent hrequired).elim
  | some value =>
      simp only [hvalue] at hsilent
      refine ⟨fun _ => ⟨value, hvalue⟩, fun found hfound => ?_⟩
      obtain rfl : value = found := Option.some.inj (hvalue ▸ hfound)
      exact fits_of_silent hsilent

/-! ## Arguments -/

theorem type_of_argumentKind? {o : Object} {kind : ArgumentKind}
    (hkind : argumentKind? (.object o) = some kind) :
    o.get? "type" = some (.string kind.name) := by
  simp only [argumentKind?, Json.object?, argumentType, Constraint.mandatory,
    Option.bind_eq_bind, Option.bind_some, Option.bind_eq_some_iff] at hkind
  obtain ⟨value, hvalue, name, hname, hkind⟩ := hkind
  cases value with
  | string s =>
      obtain rfl : s = name := Option.some.inj hname
      rw [hvalue, ArgumentKind.name_of_ofName? hkind]
  | _ => simp [Json.string?] at hname

/-- An object of a known kind that meets the constraints of the kind. -/
structure ProperArgument (o : Object) (kind : ArgumentKind) : Prop where
  hasKind : argumentKind? (.object o) = some kind
  meets : ∀ c ∈ (argument kind).constraints, c.Meets o

theorem severity_unknownKind (o : Object) : (unknownKind o).severity = .error := by
  unfold unknownKind
  split <;> rfl

theorem properArgument_of_silent {here : Context} {value : Json}
    (hsilent : (checkArgument here value).hasErrors = false) :
    ∃ o kind, value = .object o ∧ ProperArgument o kind := by
  cases value with
  | object o =>
      unfold checkArgument at hsilent
      cases hkind : argumentKind? (.object o) with
      | some kind =>
          simp only [hkind, checkKnownArgument, hasErrors_append,
            Bool.or_eq_false_iff] at hsilent
          refine ⟨o, kind, rfl, hkind, fun c hc => ?_⟩
          exact meets_of_silent (hasErrors_flatMap_eq_false_iff.1 hsilent.1.1 c hc)
      | none =>
          simp only [hkind] at hsilent
          rw [← List.singleton_append, hasErrors_append,
            hasErrors_violation (severity_unknownKind o)] at hsilent
          contradiction
  | null | bool | number | string | list =>
      rw [checkArgument, hasErrors_violation rfl] at hsilent
      · contradiction
      · intro o hobject
        contradiction

/-! ## Blocks -/

/-- What every block without errors is like. -/
structure ProperBlock (o : Object) : Prop where
  exclusive : ¬(hasValueKey o = true ∧ hasStatementKey o = true)
  hasType : ∃ type, o.get? blockType.key = some (.string type)
  fits : ∀ c ∈ root, ∀ value, o.get? c.key = some value → c.Fits value
  arguments : ∀ i, ∀ item ∈ entries i o,
    ∃ members kind, item = .object members ∧ ProperArgument members kind

theorem silent_entry_of_silent {here : Context} {o : Object} {i : Fin slotCount}
    (hsilent : (checkSlot here o i).hasErrors = false) :
    ∀ item ∈ entries i o, (checkArgument here.mode item).hasErrors = false := by
  intro item hmem
  rw [checkSlot, hasErrors_append, Bool.or_eq_false_iff] at hsilent
  obtain ⟨position, hchecked⟩ := exists_silent_of_mem_zipIdx hsilent.1 hmem
  simpa only [checkArgument_under (here.argument i position), hasErrors_under,
    Context.mode_argument] using hchecked

/-- The constraints on a block are those of the table, but for what is required. -/
theorem exists_mem_rootConstraints (o : Object) {c : Constraint} (hc : c ∈ root) :
    ∃ required, { c with required } ∈ rootConstraints o := by
  unfold rootConstraints
  split
  · exact ⟨c.required, hc⟩
  · by_cases hvalue : (valueBlock.find? c.key).isSome = true
    · exact ⟨false, List.mem_map.2 ⟨c, hc, if_pos hvalue⟩⟩
    · exact ⟨c.required, List.mem_map.2 ⟨c, hc, if_neg hvalue⟩⟩

theorem blockType_mem_rootConstraints (o : Object) : blockType ∈ rootConstraints o := by
  unfold rootConstraints
  split
  · exact List.mem_cons_self
  · exact List.mem_cons_self

theorem properBlock_of_silent {c : Context} {o : Object}
    (hsilent : (checkBlock c o).hasErrors = false) : ProperBlock o := by
  simp only [checkBlock, hasErrors_append, Bool.or_eq_false_iff] at hsilent
  obtain ⟨⟨⟨⟨⟨⟨hvariant, hroot⟩, -⟩, -⟩, -⟩, -⟩, hslots⟩ := hsilent
  have hmeets : ∀ constraint ∈ rootConstraints o, constraint.Meets o :=
    fun constraint hmem => meets_of_silent
      (hasErrors_flatMap_eq_false_iff.1 hroot constraint hmem)
  refine ⟨?_, ?_, ?_, ?_⟩
  · simpa using not_of_silent rfl hvariant
  · exact (hmeets _ (blockType_mem_rootConstraints o)).exists_string rfl rfl
  · intro constraint hmem value hvalue
    obtain ⟨required, hmem⟩ := exists_mem_rootConstraints o hmem
    obtain ⟨hshape, hoptions, hlisted⟩ := (hmeets _ hmem).fits value hvalue
    exact ⟨hshape, hoptions, hlisted⟩
  · intro i item hmem
    have hslot := hasErrors_flatMap_eq_false_iff.1 hslots i (List.mem_finRange i)
    exact properArgument_of_silent (silent_entry_of_silent hslot item hmem)

/-- Only an object passes. -/
theorem exists_object_of_silent {c : Context} {document : Json}
    (hsilent : (checkDocument c document).hasErrors = false) :
    ∃ o, document = .object o ∧ (checkBlock c o).hasErrors = false := by
  cases document with
  | object o => exact ⟨o, rfl, hsilent⟩
  | null | bool | number | string | list =>
      rw [checkDocument, hasErrors_violation rfl] at hsilent
      · contradiction
      · nofun

end Validation

end EditorBlocks
