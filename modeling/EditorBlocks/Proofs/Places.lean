import EditorBlocks.Proofs.Contexts
import EditorBlocks.Proofs.NormalForm
import Mathlib.Data.List.Infix

/-!
# Where violations lie

Every check reports at the key it is about or below it.  So the violations that
lie within some keys are those of the checks of these keys, in the order in
which the checks are made, and the place of a document within a larger one
changes nothing about this.
-/

namespace EditorBlocks

namespace Violations

/-- The violations at one of the places, or below it. -/
def within (places : List Path) (vs : Violations) : Violations :=
  vs.filter fun v => places.any fun place => place.isPrefixOf v.path

/-- All violations lie at the place or below it. -/
def LieUnder (place : Path) (vs : Violations) : Prop := ∀ v ∈ vs, place <+: v.path

section

variable {places : List Path} {vs ws : Violations}

theorem within_append :
    within places (vs ++ ws) = within places vs ++ within places ws :=
  List.filter_append _ _

theorem within_flatMap {α : Type} {f : α → Violations} {xs : List α} :
    within places (xs.flatMap f) = xs.flatMap fun x => within places (f x) :=
  List.filter_flatMap

theorem within_under {above : Path} :
    within (places.map (above ++ ·)) (under above vs) = under above (within places vs) := by
  have hpath : ∀ v : Violation,
      (places.map (above ++ ·)).any (fun place => place.isPrefixOf (v.under above).path) =
        places.any fun place => place.isPrefixOf v.path := by
    intro v
    rw [List.any_map]
    congr 1
    funext place
    rw [Function.comp_apply, Bool.eq_iff_iff, List.isPrefixOf_iff_prefix,
      List.isPrefixOf_iff_prefix]
    exact List.prefix_append_right_inj above
  simp only [within, under, List.filter_map, Function.comp_def, hpath]

theorem within_toErrors : within places vs.toErrors = (within places vs).toErrors := by
  simp only [within, toErrors, List.filter_map, Function.comp_def, Violation.toError]

/-- Looking at places below others loses nothing by looking at the others first. -/
theorem within_within {lower : List Path}
    (hlower : ∀ place ∈ lower, ∃ above ∈ places, above <+: place) :
    within lower (within places vs) = within lower vs := by
  rw [within, within, List.filter_filter]
  apply List.filter_congr
  intro v _
  rw [Bool.and_eq_left_iff_imp]
  simp only [List.any_eq_true, List.isPrefixOf_iff_prefix]
  rintro ⟨place, hmem, hprefix⟩
  obtain ⟨above, habove, hplace⟩ := hlower place hmem
  exact ⟨above, habove, hplace.trans hprefix⟩

end

theorem lieUnder_under (place : Path) (vs : Violations) : LieUnder place (under place vs) := by
  intro v hv
  obtain ⟨below, -, rfl⟩ := List.mem_map.1 hv
  exact List.prefix_append _ _

/-! ## Keys of the root -/

/-- The places of the keys of an object. -/
def keyPlaces (keys : List String) : List Path := keys.map fun key => [.key key]

theorem key_unique {first second : String} {path : Path} (hfirst : [.key first] <+: path)
    (hsecond : [.key second] <+: path) : first = second := by
  have hsame := List.prefix_of_prefix_length_le hfirst hsecond (by simp)
  simpa using hsame

theorem isWithin_keyPlaces {keys : List String} {key : String} {v : Violation}
    (hkey : [.key key] <+: v.path) :
    ((keyPlaces keys).any fun place => place.isPrefixOf v.path) = true ↔ key ∈ keys := by
  simp only [keyPlaces, List.any_map, List.any_eq_true, Function.comp_apply,
    List.isPrefixOf_iff_prefix]
  constructor
  · rintro ⟨other, hother, hprefix⟩
    exact key_unique hprefix hkey ▸ hother
  · exact fun hmem => ⟨key, hmem, hkey⟩

theorem within_keyPlaces_eq_self {keys : List String} {key : String} {vs : Violations}
    (hkey : key ∈ keys) (hlie : LieUnder [.key key] vs) : within (keyPlaces keys) vs = vs := by
  rw [within, List.filter_eq_self]
  exact fun v hv => (isWithin_keyPlaces (hlie v hv)).2 hkey

theorem within_keyPlaces_eq_nil {keys : List String} {key : String} {vs : Violations}
    (hkey : key ∉ keys) (hlie : LieUnder [.key key] vs) : within (keyPlaces keys) vs = [] := by
  rw [within, List.filter_eq_nil_iff]
  exact fun v hv hwithin => hkey ((isWithin_keyPlaces (hlie v hv)).1 hwithin)

theorem within_keyPlaces_of_path_nil {keys : List String} {vs : Violations}
    (hroot : ∀ v ∈ vs, v.path = []) : within (keyPlaces keys) vs = [] := by
  rw [within, List.filter_eq_nil_iff]
  intro v hv
  simp [hroot v hv, keyPlaces]

end Violations

/-! ## Checks -/

namespace Validation

open Schema Violations

theorem lieUnder_checkConstraint (mode : Mode) (o : Object) (c : Constraint) :
    LieUnder [.key c.key] (checkConstraint mode o c) := by
  rw [checkConstraint_root]
  split
  · split
    · exact fun v hv => List.mem_singleton.1 hv ▸ List.prefix_rfl
    · exact fun v hv => absurd hv List.not_mem_nil
  · exact lieUnder_under _ _

theorem lieUnder_checkRegistered {what name : String} {registry : Option Registry}
    {place path : Path} (hplace : place <+: path) :
    LieUnder place (checkRegistered what registry path name) := by
  unfold checkRegistered
  split
  · exact fun v hv => absurd hv List.not_mem_nil
  · exact fun v hv => List.mem_singleton.1 hv ▸ hplace

theorem lieUnder_checkExtensions (registry : Option Registry) (o : Object) :
    LieUnder [.key "extensions"] (checkExtensions [] registry o) := by
  unfold checkExtensions
  split
  · exact fun v hv => absurd hv List.not_mem_nil
  · intro v hv
    obtain ⟨entry, -, hentry⟩ := List.mem_flatMap.1 hv
    exact lieUnder_checkRegistered (List.prefix_append [_] [_]) v hentry

theorem lieUnder_checkMutator (registry : Option Registry) (o : Object) :
    LieUnder [.key "mutator"] (checkMutator [] registry o) := by
  unfold checkMutator
  split
  · exact fun v hv => absurd hv List.not_mem_nil
  · exact lieUnder_checkRegistered List.prefix_rfl

theorem path_checkVariant (o : Object) : ∀ v ∈ checkVariant [] o, v.path = [] := by
  unfold checkVariant checkExclusive
  split
  · simp [Finding.violation]
  · simp

theorem path_checkColours (mode : Mode) (o : Object) :
    ∀ v ∈ checkColours mode o, v.path = [] := by
  unfold checkColours
  split
  · simp [Finding.violation]
  · simp

theorem within_checkUnknownKeys {keys : List String} {isKnown : String → Bool}
    (hknown : ∀ key ∈ keys, isKnown key = true) (o : Object) :
    within (keyPlaces keys) (checkUnknownKeys [] isKnown o) = [] := by
  rw [within, List.filter_eq_nil_iff]
  intro v hv hwithin
  obtain ⟨key, hkey, rfl⟩ := List.mem_map.1 hv
  obtain ⟨-, hunknown⟩ := List.mem_filter.1 hkey
  have hmem : key ∈ keys := (isWithin_keyPlaces List.prefix_rfl).1 hwithin
  simp [hknown key hmem] at hunknown

/-- Of some constraints only those on the keys report within the keys. -/
theorem within_checkConstraints (mode : Mode) (o : Object) (keys : List String)
    (constraints : List Constraint) :
    within (keyPlaces keys) (checkConstraints mode o constraints) =
      checkConstraints mode o (constraints.filter fun c => keys.contains c.key) := by
  induction constraints with
  | nil => rfl
  | cons c rest ih =>
      have hlie := lieUnder_checkConstraint mode o c
      simp only [checkConstraints, List.flatMap_cons, within_append] at ih ⊢
      by_cases hmem : c.key ∈ keys
      · rw [within_keyPlaces_eq_self hmem hlie, ih,
          List.filter_cons_of_pos (by simpa using hmem), List.flatMap_cons]
      · rw [within_keyPlaces_eq_nil hmem hlie, ih, List.nil_append,
          List.filter_cons_of_neg (by simpa using hmem)]

end Validation

end EditorBlocks
