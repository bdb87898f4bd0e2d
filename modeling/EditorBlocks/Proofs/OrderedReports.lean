import EditorBlocks.Violation.Basic
import Mathlib.Data.List.Forall2

/-!
# Reports in order

A check that looks at things one after the other reports them in that order.  Of
a report that has at most one violation for each thing it is told which things
are at fault and that they ascend, which leaves one list of places and kinds; of
a report that may have several for each, that they are grouped.
-/

namespace EditorBlocks

/-- Where a violation lies, and of which kind it is. -/
def Violation.mark (v : Violation) : Path × Violation.Kind := (v.path, v.kind)

namespace Violations

def marks (vs : Violations) : List (Path × Violation.Kind) := vs.map Violation.mark

@[simp]
theorem marks_nil : marks [] = [] := rfl

theorem marks_append (vs ws : Violations) : marks (vs ++ ws) = marks vs ++ marks ws :=
  List.map_append

theorem marks_flatMap {α : Type} {f : α → Violations} {xs : List α} :
    marks (xs.flatMap f) = xs.flatMap fun x => marks (f x) :=
  List.map_flatMap

/-- Everything at fault is reported once, at its place and in ascending order. -/
def ReportedInOrder {α : Type} [LT α] (fault : α → Violation.Kind → Prop) (place : α → Path)
    (vs : Violations) : Prop :=
  ∃ found : List (α × Violation.Kind),
    (found.map Prod.fst).Pairwise (· < ·) ∧
    (∀ x kind, (x, kind) ∈ found ↔ fault x kind) ∧
    vs.marks = found.map fun entry => (place entry.1, entry.2)

/-- The report has a group for each thing, in the order of the things. -/
def GroupedBy {α : Type} (belongs : α → Violation → Prop) (xs : List α) (vs : Violations) :
    Prop :=
  ∃ groups : List Violations,
    vs = groups.flatten ∧ List.Forall₂ (fun x group => ∀ v ∈ group, belongs x v) xs groups

section

variable {α β : Type}

theorem groupedBy_flatMap {belongs : α → Violation → Prop} {xs : List β} (key : β → α)
    {f : β → Violations} (heach : ∀ x ∈ xs, ∀ v ∈ f x, belongs (key x) v) :
    GroupedBy belongs (xs.map key) (xs.flatMap f) := by
  refine ⟨xs.map f, List.flatMap_def, ?_⟩
  rw [List.forall₂_map_left_iff, List.forall₂_map_right_iff, List.forall₂_same]
  exact heach

/-- What is found in a list, each with the key of the entry where it is found. -/
def foundAt {γ : Type} (key : β → α) (found? : β → Option γ) (xs : List β) : List (α × γ) :=
  xs.filterMap fun x => (found? x).map fun found => (key x, found)

theorem mem_foundAt_iff {γ : Type} {key : β → α} {found? : β → Option γ} {xs : List β} {k : α}
    {found : γ} :
    (k, found) ∈ foundAt key found? xs ↔ ∃ x ∈ xs, key x = k ∧ found? x = some found := by
  simp only [foundAt, List.mem_filterMap, Option.map_eq_some_iff, Prod.mk.injEq]
  constructor
  · rintro ⟨x, hx, other, hfound, rfl, rfl⟩
    exact ⟨x, hx, rfl, hfound⟩
  · rintro ⟨x, hx, rfl, hfound⟩
    exact ⟨x, hx, found, hfound, rfl, rfl⟩

variable [LT α] {fault : α → Violation.Kind → Prop} {place : α → Path}

theorem pairwise_foundAt {γ : Type} {key : β → α} {found? : β → Option γ} {xs : List β}
    (hkeys : (xs.map key).Pairwise (· < ·)) :
    ((foundAt key found? xs).map Prod.fst).Pairwise (· < ·) := by
  unfold foundAt
  rw [List.pairwise_map, List.pairwise_filterMap]
  refine (List.pairwise_map.1 hkeys).imp fun {a b} hlt first hfirst second hsecond => ?_
  obtain ⟨-, -, rfl⟩ := Option.map_eq_some_iff.1 hfirst
  obtain ⟨-, -, rfl⟩ := Option.map_eq_some_iff.1 hsecond
  exact hlt

theorem reportedInOrder_nil (hnone : ∀ x kind, ¬fault x kind) :
    ReportedInOrder fault place [] :=
  ⟨[], .nil, fun x kind => iff_of_false List.not_mem_nil (hnone x kind), rfl⟩

/-- Things that are looked at in ascending order, each of which gives at most one
violation. -/
theorem reportedInOrder_flatMap {xs : List β} {f : β → Violations} (key : β → α)
    (kind? : β → Option Violation.Kind) (hkeys : (xs.map key).Pairwise (· < ·))
    (hmarks : ∀ x ∈ xs, (f x).marks = ((kind? x).map fun kind => (place (key x), kind)).toList)
    (hfault : ∀ k kind, fault k kind ↔ ∃ x ∈ xs, key x = k ∧ kind? x = some kind) :
    ReportedInOrder fault place (xs.flatMap f) := by
  refine ⟨foundAt key kind? xs, pairwise_foundAt hkeys, ?_, ?_⟩
  · intro k kind
    rw [hfault, mem_foundAt_iff]
  · rw [marks_flatMap, foundAt, List.map_filterMap, List.filterMap_eq_flatMap_toList]
    apply List.flatMap_congr
    intro x hx
    rw [hmarks x hx, Option.map_map]
    rfl

end

/-- Entries of a list that are looked at one after the other. -/
theorem reportedInOrder_zipIdx {β : Type} {fault : Nat → Violation.Kind → Prop}
    {place : Nat → Path} {xs : List β} {f : β × Nat → Violations}
    (kind? : β → Nat → Option Violation.Kind)
    (hmarks : ∀ x position, xs[position]? = some x →
      marks (f (x, position)) = ((kind? x position).map fun kind => (place position, kind)).toList)
    (hfault : ∀ position kind, fault position kind ↔
      ∃ x, xs[position]? = some x ∧ kind? x position = some kind) :
    ReportedInOrder fault place (xs.zipIdx.flatMap f) := by
  refine reportedInOrder_flatMap Prod.snd (fun entry => kind? entry.1 entry.2) ?_ ?_ ?_
  · rw [List.zipIdx_map_snd]
    exact List.pairwise_lt_range'
  · rintro ⟨x, position⟩ hentry
    exact hmarks x position (List.mk_mem_zipIdx_iff_getElem?.1 hentry)
  · intro position kind
    rw [hfault]
    constructor
    · rintro ⟨x, hx, hkind⟩
      exact ⟨(x, position), List.mk_mem_zipIdx_iff_getElem?.2 hx, rfl, hkind⟩
    · rintro ⟨⟨x, p⟩, hentry, rfl, hkind⟩
      exact ⟨x, List.mk_mem_zipIdx_iff_getElem?.1 hentry, hkind⟩

end Violations

end EditorBlocks
