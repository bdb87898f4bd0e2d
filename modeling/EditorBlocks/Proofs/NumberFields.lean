import EditorBlocks.Proofs.FiniteNumbers
import EditorBlocks.Proofs.KeptRules

/-!
# Number fields

The bounds of a number field are in order and its value lies within them, so a
number is brought within the bounds by clamping it, once and for all.
-/

namespace EditorBlocks

open Schema Validation Violations

namespace NumberBounds

def Contains (bounds : NumberBounds) (x : Float) : Prop :=
  (∀ min, bounds.min = some min → min ≤ x) ∧ ∀ max, bounds.max = some max → x ≤ max

structure Consistent (bounds : NumberBounds) : Prop where
  finite : ∀ x, some x ∈ [bounds.value, bounds.min, bounds.max, bounds.precision] →
    x.isFinite = true
  ordered : ∀ min max, bounds.min = some min → bounds.max = some max → min ≤ max
  value : ∀ value, bounds.value = some value → bounds.Contains value
  precision : ∀ x, bounds.precision = some x → 0.0 ≤ x

def atLeast (bound? : Option Float) (x : Float) : Float :=
  match bound? with
  | none => x
  | some bound => if x < bound then bound else x

def atMost (bound? : Option Float) (x : Float) : Float :=
  match bound? with
  | none => x
  | some bound => if bound < x then bound else x

variable {bounds : NumberBounds} {x : Float}

theorem clamp_eq (bounds : NumberBounds) (x : Float) :
    bounds.clamp x = atMost bounds.max (atLeast bounds.min x) :=
  rfl

theorem clamp_of_contains (hcontains : bounds.Contains x) : bounds.clamp x = x := by
  have hlower : atLeast bounds.min x = x := by
    unfold atLeast
    split
    next => rfl
    next min hmin => exact if_neg (Float.not_lt_of_le (hcontains.1 min hmin))
  rw [clamp_eq, hlower]
  unfold atMost
  split
  next => rfl
  next max hmax => exact if_neg (Float.not_lt_of_le (hcontains.2 max hmax))

/-- The lower bound also holds where the upper one wins, since they are in order. -/
theorem contains_clamp (hbounds : bounds.Consistent) (hx : x.isFinite = true) :
    bounds.Contains (bounds.clamp x) := by
  have hfinite := hbounds.finite
  have hlower : (atLeast bounds.min x).isFinite = true ∧
      ∀ min, bounds.min = some min → min ≤ atLeast bounds.min x := by
    cases hmin : bounds.min with
    | none => exact ⟨hx, nofun⟩
    | some min =>
        have hfiniteMin : min.isFinite = true := hfinite min (by simp [hmin])
        simp only [Option.some.injEq, forall_eq']
        by_cases hbelow : x < min
        · simp [atLeast, hbelow, hfiniteMin, Float.le_refl hfiniteMin]
        · simp [atLeast, hbelow, hx, Float.le_of_not_lt hx hfiniteMin hbelow]
  rw [clamp_eq]
  generalize atLeast bounds.min x = lower at hlower
  obtain ⟨hfiniteLower, hmin⟩ := hlower
  unfold Contains
  cases hmax : bounds.max with
  | none => exact ⟨hmin, nofun⟩
  | some max =>
      have hfiniteMax : max.isFinite = true := hfinite max (by simp [hmax])
      simp only [Option.some.injEq, forall_eq']
      by_cases habove : max < lower
      · simp only [atMost, habove, if_true]
        exact ⟨fun min h => hbounds.ordered min max h hmax, Float.le_refl hfiniteMax⟩
      · simp only [atMost, habove, if_false]
        exact ⟨hmin, Float.le_of_not_lt hfiniteMax hfiniteLower habove⟩

structure Clamps (bounds : NumberBounds) : Prop where
  keepsDefault : ∀ value, bounds.value = some value → bounds.clamp value = value
  contains : ∀ x, x.isFinite = true → bounds.Contains (bounds.clamp x)
  idempotent : ∀ x, x.isFinite = true → bounds.clamp (bounds.clamp x) = bounds.clamp x

theorem Consistent.clamps (hbounds : bounds.Consistent) : bounds.Clamps where
  keepsDefault value hvalue := clamp_of_contains (hbounds.value value hvalue)
  contains _ hx := contains_clamp hbounds hx
  idempotent _ hx := clamp_of_contains (contains_clamp hbounds hx)

end NumberBounds

namespace Validation

theorem consistent_of_silent {mode : Mode} {o : Object} {bounds : NumberBounds}
    (hrules : mode.checksRules = true)
    (hfinite : (Json.object o).Finite) (hkind : argumentKind? (.object o) = some .number)
    (hsilent : (checkArgument mode (.object o)).hasErrors = false)
    (hread : FieldContent.ofObject? o .number = some (.number bounds)) :
    bounds.Consistent := by
  have hbounds : bounds = ⟨numberAt? o "value", numberAt? o "min", numberAt? o "max",
      numberAt? o "precision"⟩ := by
    simpa [FieldContent.ofObject?, numberAt?, eq_comm] using hread
  have hnumber : ∀ key x, numberAt? o key = some x → x.isFinite = true := by
    intro key x hx
    obtain ⟨value, hvalue, hfloat⟩ := Option.bind_eq_some_iff.1 hx
    exact (hfinite.get? hvalue).float? hfloat
  have hordered := silent_jointRule hrules hkind hsilent .orderedBounds
    (by simp [argument, field])
  have hinside := silent_jointRule hrules hkind hsilent .valueInBounds
    (by simp [argument, field])
  subst hbounds
  refine ⟨?_, ?_, ?_, ?_⟩
  · intro x hx
    simp only [List.mem_cons, List.not_mem_nil, or_false] at hx
    rcases hx with hx | hx | hx | hx <;> exact hnumber _ x hx.symm
  · intro min max hmin hmax
    dsimp only at hmin hmax
    simp only [checkJointRule, checkOrderedBounds, hmin, hmax] at hordered
    exact Float.le_of_not_lt (hnumber _ max hmax) (hnumber _ min hmin)
      (not_of_silent rfl hordered)
  · intro value hvalue
    dsimp only at hvalue
    simp only [checkJointRule, checkValueInBounds, hvalue, hasErrors_append,
      Bool.or_eq_false_iff] at hinside
    constructor
    · intro min hmin
      dsimp only at hmin
      simp only [hmin] at hinside
      exact Float.le_of_not_lt (hnumber _ value hvalue) (hnumber _ min hmin)
        (not_of_silent rfl hinside.1)
    · intro max hmax
      dsimp only at hmax
      simp only [hmax] at hinside
      exact Float.le_of_not_lt (hnumber _ max hmax) (hnumber _ value hvalue)
        (not_of_silent rfl hinside.2)
  · intro x hx
    obtain ⟨value, hvalue, hfloat⟩ := Option.bind_eq_some_iff.1 hx
    cases value with
    | number n =>
        obtain rfl : n.toFloat = x := Option.some.inj hfloat
        have hconstraint := silent_constraint hkind hsilent
          (c := .optional "precision" .number [.nonNegative]) (by simp [argument, field])
        have hrule := silent_rule hconstraint hvalue .nonNegative
          (by simp [Constraint.optional])
        exact Float.le_of_not_lt (hnumber _ _ hx) (by decide +kernel)
          (not_negative_of_nonNegative hrules hrule)
    | _ => contradiction

end Validation

end EditorBlocks
