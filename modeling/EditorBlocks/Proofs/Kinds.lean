import EditorBlocks.Proofs.Contexts

/-!
# Which kinds of violations a check reports

The checks of a single value tell of that value alone, and so do the checks of
an argument.  The kinds that compare the arguments of a slot with one another,
or with its message, come from the checks of the slot.
-/

namespace EditorBlocks.Validation

open Schema

/-- The kinds of violations of a value under a key. -/
def valueKinds : List Violation.Kind :=
  [.structuralMismatch, .outOfRange, .notListed, .repeatedEntry]

section Kinds

variable {mode : Mode} {o : Object} {v : Violation}

theorem report_of_mem_checkOptions {options : List Json} (hv : v ∈ checkOptions mode options) :
    (∃ position, v.path = [.index position]) ∧
      (v.kind = .structuralMismatch ∨ v.kind = .repeatedEntry) := by
  obtain ⟨⟨option, position⟩, -, hv⟩ := List.mem_flatMap.1 hv
  simp only [checkOption, List.mem_append] at hv
  rcases hv with hform | hrepeated
  · split at hform
    next =>
      obtain rfl := List.mem_singleton.1 hform
      exact ⟨⟨position, rfl⟩, .inl rfl⟩
    next => contradiction
  · split at hrepeated
    next =>
      simp only [Option.mem_toList, Option.map_eq_some_iff] at hrepeated
      obtain ⟨first, -, rfl⟩ := hrepeated
      exact ⟨⟨position, rfl⟩, .inr rfl⟩
    next => contradiction

theorem report_of_mem_checkRule {key : String} {value : Json} {rule : Rule}
    (hv : v ∈ checkRule mode key value rule) :
    v.path = [] ∧ (v.kind = .outOfRange ∨ v.kind = .notListed) ∨
      (∃ position, v.path = [.index position]) ∧ v.kind = .repeatedEntry := by
  unfold checkRule at hv
  split at hv
  next =>
    unfold checkListed at hv
    split at hv
    next => contradiction
    next => exact .inl (List.mem_singleton.1 hv ▸ ⟨rfl, .inr rfl⟩)
  next =>
    split at hv
    next => contradiction
    next =>
      split at hv
      next =>
        unfold checkNonEmpty at hv
        split at hv
        next => exact .inl (List.mem_singleton.1 hv ▸ ⟨rfl, .inl rfl⟩)
        next => contradiction
      next =>
        split at hv
        next => exact .inl (List.mem_singleton.1 hv ▸ ⟨rfl, .inl rfl⟩)
        next => contradiction
      next =>
        split at hv
        next => contradiction
        next => exact .inl (List.mem_singleton.1 hv ▸ ⟨rfl, .inl rfl⟩)
      next =>
        rw [checkDistinctTypes, List.mem_append] at hv
        rcases hv with hempty | hagain
        · split at hempty
          next => exact .inl (List.mem_singleton.1 hempty ▸ ⟨rfl, .inl rfl⟩)
          next => contradiction
        · obtain ⟨⟨position, first⟩, -, rfl⟩ := List.mem_map.1 hagain
          exact .inr ⟨⟨position, rfl⟩, rfl⟩
      next => contradiction

/-- A value is reported itself, or as a list one of whose entries is. -/
theorem report_of_mem_checkValue {c : Constraint} {value : Json}
    (hv : v ∈ checkValue mode c value) :
    v.path = [] ∧ v.kind ∈ [.structuralMismatch, .outOfRange, .notListed] ∨
      (∃ position, v.path = [.index position]) ∧
        (v.kind = .repeatedEntry ∨ c.shape = .options ∧ v.kind = .structuralMismatch) := by
  unfold checkValue at hv
  split at hv
  next =>
    obtain rfl := List.mem_singleton.1 hv
    exact .inl ⟨rfl, List.mem_cons_self⟩
  next =>
    rw [List.mem_append] at hv
    rcases hv with hoption | hrule
    · split at hoption
      next hshape _ =>
        obtain ⟨hpath, hkind | hkind⟩ := report_of_mem_checkOptions hoption
        · exact .inr ⟨hpath, .inr ⟨hshape, hkind⟩⟩
        · exact .inr ⟨hpath, .inl hkind⟩
      next => contradiction
    · obtain ⟨rule, -, hrule⟩ := List.mem_flatMap.1 hrule
      rcases report_of_mem_checkRule hrule with ⟨hpath, hkind⟩ | ⟨hpath, hkind⟩
      · exact .inl ⟨hpath, by rcases hkind with hkind | hkind <;> simp [hkind]⟩
      · exact .inr ⟨hpath, .inl hkind⟩

/-- A key is reported as missing, or its value is reported below it. -/
theorem report_of_mem_checkConstraint {c : Constraint} (hv : v ∈ checkConstraint mode o c) :
    v.path = [.key c.key] ∧
        v.kind ∈ [.missingField, .structuralMismatch, .outOfRange, .notListed] ∨
      (∃ position, v.path = [.key c.key, .index position]) ∧
        (v.kind = .repeatedEntry ∨ c.shape = .options ∧ v.kind = .structuralMismatch) := by
  rw [checkConstraint_root] at hv
  split at hv
  next =>
    split at hv
    next =>
      obtain rfl := List.mem_singleton.1 hv
      exact .inl ⟨rfl, List.mem_cons_self⟩
    next => contradiction
  next =>
    obtain ⟨found, hfound, rfl⟩ := List.mem_map.1 hv
    rcases report_of_mem_checkValue hfound with ⟨hpath, hkind⟩ | ⟨⟨position, hpath⟩, hkind⟩
    · exact .inl ⟨by rw [Violation.under, hpath, List.append_nil],
        List.mem_cons_of_mem _ hkind⟩
    · exact .inr ⟨⟨position, by rw [Violation.under, hpath, List.singleton_append]⟩, hkind⟩

theorem kind_of_mem_checkConstraint {c : Constraint} (hv : v ∈ checkConstraint mode o c) :
    v.kind ∈ .missingField :: valueKinds := by
  rcases report_of_mem_checkConstraint hv with ⟨-, hkind⟩ | ⟨-, hkind | ⟨-, hkind⟩⟩
  · simp only [List.mem_cons, List.not_mem_nil, or_false] at hkind
    rcases hkind with hkind | hkind | hkind | hkind <;> simp [hkind, valueKinds]
  · simp [hkind, valueKinds]
  · simp [hkind, valueKinds]

theorem kind_of_mem_checkJointRule {rule : JointRule} (hv : v ∈ checkJointRule [] o rule) :
    v.kind ∈ valueKinds := by
  have hranged : Violation.Kind.outOfRange ∈ valueKinds := by decide
  have hlisted : Violation.Kind.notListed ∈ valueKinds := by decide
  cases rule with
  | orderedBounds =>
      simp only [checkJointRule, checkOrderedBounds] at hv
      split at hv
      next =>
        split at hv
        next => exact List.mem_singleton.1 hv ▸ hranged
        next => contradiction
      next => contradiction
  | valueInBounds =>
      simp only [checkJointRule, checkValueInBounds] at hv
      split at hv
      next => contradiction
      next =>
        rw [List.mem_append] at hv
        rcases hv with hbelow | habove
        · split at hbelow
          next =>
            split at hbelow
            next => exact List.mem_singleton.1 hbelow ▸ hranged
            next => contradiction
          next => contradiction
        · split at habove
          next =>
            split at habove
            next => exact List.mem_singleton.1 habove ▸ hranged
            next => contradiction
          next => contradiction
  | defaultTypeListed =>
      simp only [checkJointRule, checkDefaultType] at hv
      split at hv
      next =>
        split at hv
        next => contradiction
        next => exact List.mem_singleton.1 hv ▸ hlisted
      next => contradiction

theorem kind_unknownKind (o : Object) :
    (unknownKind o).kind ∈ .missingField :: valueKinds := by
  unfold unknownKind
  split <;> simp [Finding.kind, valueKinds]

/-- No violation of an argument by itself is of a kind that compares entries. -/
theorem kind_of_mem_checkArgument {item : Json} (hv : v ∈ checkArgument mode item) :
    v.kind ∈ .unknownField :: .missingField :: valueKinds := by
  cases item with
  | object o =>
      unfold checkArgument at hv
      cases hkind : argumentKind? (.object o) with
      | none =>
          simp only [hkind, List.mem_cons] at hv
          rcases hv with rfl | hname
          · exact List.mem_cons_of_mem _ (kind_unknownKind o)
          · exact List.mem_cons_of_mem _ (kind_of_mem_checkConstraint hname)
      | some kind =>
          simp only [hkind, checkKnownArgument, List.mem_append] at hv
          rcases hv with (hconstraint | hunknown) | hrule
          · obtain ⟨c, -, hc⟩ := List.mem_flatMap.1 hconstraint
            exact List.mem_cons_of_mem _ (kind_of_mem_checkConstraint hc)
          · split at hunknown
            next => contradiction
            next =>
              obtain ⟨key, -, rfl⟩ := List.mem_map.1 hunknown
              exact List.mem_cons_self
          · split at hrule
            next =>
              obtain ⟨rule, -, hrule⟩ := List.mem_flatMap.1 hrule
              exact List.mem_cons_of_mem _
                (List.mem_cons_of_mem _ (kind_of_mem_checkJointRule hrule))
            next => contradiction
  | null | bool | number | string | list =>
      rw [checkArgument] at hv
      · obtain rfl := List.mem_singleton.1 hv
        simp [Finding.violation, Finding.kind, valueKinds]
      · intro o hobject
        contradiction

end Kinds

end EditorBlocks.Validation
