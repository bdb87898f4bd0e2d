import EditorBlocks.Argument.Basic

/-!
# Compatible connections

A check that lists names is the set of its names, and two such checks fit when
the sets meet.  So neither end of a connection counts more than the other, and
neither the order of the names nor a repeated one counts at all.
-/

namespace EditorBlocks

namespace ConnectionCheck

/-- Both checks take any type, or they list the same names. -/
structure SameNames (a b : ConnectionCheck) : Prop where
  any_iff : a = .any ↔ b = .any
  accepts_eq : ∀ type, a.accepts type = b.accepts type

theorem accepts_eq_contains {a : ConnectionCheck} (ha : a ≠ .any) (type : String) :
    a.accepts type = a.typeNames.contains type := by
  cases a with
  | any => contradiction
  | single name => simp [accepts, typeNames, eq_comm]
  | anyOf names => rfl

theorem any_compatible (a : ConnectionCheck) : ConnectionCheck.any.compatible a = true := by
  cases a <;> rfl

theorem compatible_any (a : ConnectionCheck) : a.compatible .any = true := by
  cases a <;> rfl

theorem compatible_of_ne {a b : ConnectionCheck} (ha : a ≠ .any) (hb : b ≠ .any) :
    a.compatible b = a.typeNames.any b.accepts := by
  cases a with
  | any => contradiction
  | single name =>
      cases b with
      | any => contradiction
      | single other => rfl
      | anyOf names => rfl
  | anyOf names =>
      cases b with
      | any => contradiction
      | single other => rfl
      | anyOf others => rfl

/-- Two checks fit when one of them takes any type or both take a common one. -/
theorem compatible_eq_true_iff (a b : ConnectionCheck) :
    a.compatible b = true ↔
      a = .any ∨ b = .any ∨ ∃ type, a.accepts type = true ∧ b.accepts type = true := by
  by_cases ha : a = .any
  · subst a
    exact iff_of_true (any_compatible b) (.inl rfl)
  by_cases hb : b = .any
  · subst b
    exact iff_of_true (compatible_any a) (.inr (.inl rfl))
  rw [compatible_of_ne ha hb, List.any_eq_true]
  simp only [ha, hb, false_or, accepts_eq_contains ha, List.contains_iff_mem]

theorem compatible_comm (a b : ConnectionCheck) : a.compatible b = b.compatible a := by
  rw [Bool.eq_iff_iff, compatible_eq_true_iff, compatible_eq_true_iff, or_left_comm]
  simp only [and_comm]

theorem compatible_congr {a a' b b' : ConnectionCheck}
    (ha : a.SameNames a') (hb : b.SameNames b') :
    a.compatible b = a'.compatible b' := by
  rw [Bool.eq_iff_iff, compatible_eq_true_iff, compatible_eq_true_iff, ha.any_iff, hb.any_iff]
  simp only [ha.accepts_eq, hb.accepts_eq]

namespace SameNames

theorem refl (a : ConnectionCheck) : a.SameNames a := ⟨Iff.rfl, fun _ => rfl⟩

theorem anyOf {names others : List String}
    (hsame : ∀ type, type ∈ names ↔ type ∈ others) :
    (ConnectionCheck.anyOf names).SameNames (.anyOf others) := by
  refine ⟨iff_of_false nofun nofun, fun type => ?_⟩
  rw [Bool.eq_iff_iff, accepts, accepts, List.contains_iff_mem, List.contains_iff_mem]
  exact hsame type

theorem single (name : String) :
    (ConnectionCheck.single name).SameNames (.anyOf [name]) := by
  have hne : ConnectionCheck.single name ≠ .any := nofun
  exact ⟨iff_of_false hne nofun, accepts_eq_contains hne⟩

end SameNames

/-- Two checks that no connection tells apart, whichever end it asks from. -/
def Interchangeable (a b : ConnectionCheck) : Prop :=
  ∀ other, a.compatible other = b.compatible other ∧ other.compatible a = other.compatible b

theorem SameNames.interchangeable {a b : ConnectionCheck} (hsame : a.SameNames b) :
    a.Interchangeable b := by
  intro other
  constructor
  · exact compatible_congr hsame (.refl other)
  · exact compatible_congr (.refl other) hsame

theorem anyOf_nil_compatible_iff (b : ConnectionCheck) :
    (ConnectionCheck.anyOf []).compatible b = true ↔ b = .any := by
  rw [compatible_eq_true_iff]
  simp [accepts]

/-- Compatibility is overlap: it does not matter from which end one asks, in which
order or how often the names are listed, and whether a name stands in a list of
its own.  An empty list fits only what takes any type, and an input without a check
takes what one for any type takes. -/
theorem compatible_iff_overlap :
    (∀ a b : ConnectionCheck, a.compatible b = true ↔
      a = .any ∨ b = .any ∨ ∃ type, a.accepts type = true ∧ b.accepts type = true) ∧
    (∀ a b : ConnectionCheck, a.compatible b = b.compatible a) ∧
    (∀ names others : List String, (∀ type, type ∈ names ↔ type ∈ others) →
      (ConnectionCheck.anyOf names).Interchangeable (.anyOf others)) ∧
    (∀ name, (ConnectionCheck.single name).Interchangeable (.anyOf [name])) ∧
    (∀ a : ConnectionCheck, (ConnectionCheck.anyOf []).compatible a = true ↔ a = .any) ∧
    ∀ output, InputKind.accepts none output = InputKind.accepts (some .any) output := by
  refine ⟨compatible_eq_true_iff, compatible_comm, ?_, ?_, anyOf_nil_compatible_iff, ?_⟩
  · intro names others hsame
    exact (SameNames.anyOf hsame).interchangeable
  · intro name
    exact (SameNames.single name).interchangeable
  · intro output
    exact (any_compatible output).symm

/-- The same two names, in another order and one of them twice. -/
theorem compatible_iff_overlap_repeated :
    let names := ["Number", "String"]
    let others := ["String", "Number", "String"]
    (∀ type, type ∈ names ↔ type ∈ others) ∧
      (ConnectionCheck.anyOf names).Interchangeable (.anyOf others) ∧
      (ConnectionCheck.anyOf others).compatible (.single "Number") = true ∧
      (ConnectionCheck.anyOf others).compatible (.anyOf ["Array"]) = false := by
  intro names others
  have hsame : ∀ type, type ∈ names ↔ type ∈ others := by
    intro type
    by_cases hnumber : type = "Number"
    · simp [names, others, hnumber]
    · simp [names, others, hnumber]
  have hoverlap := compatible_iff_overlap
  refine ⟨hsame, hoverlap.2.2.1 names others hsame, ?_, ?_⟩
  · rw [hoverlap.1]
    exact .inr (.inr ⟨"Number", by decide, by decide⟩)
  · decide

end ConnectionCheck

end EditorBlocks
