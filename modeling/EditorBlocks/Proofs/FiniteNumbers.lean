import EditorBlocks.Proofs.Objects
import Mathlib.Order.Basic

/-!
# Finite numbers

A number of a document is neither infinite nor the absence of a number, since
there is no way to write one that is.  This is what makes comparisons say as
much as they seem to: of two numbers that are not below one another in one
direction, the other direction holds.
-/

namespace Float.Model.UnpackedFloat

theorem swap_compare (x y : UnpackedFloat) :
    (x.compare y).map Ordering.swap = y.compare x := by
  cases x with
  | notANumber => cases y <;> rfl
  | infinity s =>
      cases y with
      | infinity t => cases s <;> cases t <;> rfl
      | _ => cases s <;> rfl
  | zero s =>
      cases y with
      | infinity t | finite t => cases t <;> rfl
      | _ => rfl
  | finite s m e =>
      cases y with
      | notANumber | zero => cases s <;> rfl
      | infinity t => cases s <;> cases t <;> rfl
      | finite t n f =>
          have hswap : ((Ord.compare e f).then (Ord.compare m n)).swap =
              (Ord.compare f e).then (Ord.compare n m) := by
            rw [Ordering.swap_then, ← Std.OrientedCmp.eq_swap, ← Std.OrientedCmp.eq_swap]
          cases s with
          | positive =>
              cases t with
              | positive => exact congrArg some hswap
              | negative => rfl
          | negative =>
              cases t with
              | positive => rfl
              | negative => exact congrArg (some ·.swap) hswap

theorem exists_compare {x y : UnpackedFloat} (hx : x.isFinite = true)
    (hy : y.isFinite = true) :
    ∃ order, x.compare y = some order := by
  rw [← Option.isSome_iff_exists]
  cases x with
  | infinity | notANumber => contradiction
  | zero s =>
      cases y with
      | infinity | notANumber => contradiction
      | zero => rfl
      | finite t => cases t <;> rfl
  | finite s m e =>
      cases y with
      | infinity | notANumber => contradiction
      | zero => cases s <;> rfl
      | finite t => cases s <;> cases t <;> rfl

end Float.Model.UnpackedFloat

namespace Float

open Model.UnpackedFloat (swap_compare exists_compare)

theorem lt_iff_compare {x y : Float} :
    x < y ↔ x.toModel.unpack.compare y.toModel.unpack = some .lt := by
  change decide (Model.lt x.toModel y.toModel = true) = true ↔ _
  rw [decide_eq_true_iff, Model.lt, Model.UnpackedFloat.lt, beq_iff_eq]

theorem le_iff_compare {x y : Float} :
    x ≤ y ↔ (x.toModel.unpack.compare y.toModel.unpack).any Ordering.isLE = true := by
  change decide (Model.le x.toModel y.toModel = true) = true ↔ _
  rw [decide_eq_true_iff]
  rfl

theorem not_lt_of_le {x y : Float} (hle : x ≤ y) : ¬y < x := by
  intro hlt
  rw [lt_iff_compare] at hlt
  rw [le_iff_compare, ← swap_compare, hlt] at hle
  contradiction

theorem le_of_not_lt {x y : Float} (hx : x.isFinite = true) (hy : y.isFinite = true)
    (hlt : ¬x < y) : y ≤ x := by
  obtain ⟨order, horder⟩ : ∃ order, x.toModel.unpack.compare y.toModel.unpack = some order :=
    exists_compare hx hy
  rw [lt_iff_compare, horder] at hlt
  rw [le_iff_compare, ← swap_compare, horder]
  cases order with
  | lt => contradiction
  | eq | gt => rfl

theorem le_refl {x : Float} (hx : x.isFinite = true) : x ≤ x := by
  apply le_of_not_lt hx hx
  intro hlt
  rw [lt_iff_compare] at hlt
  have hswap := swap_compare x.toModel.unpack x.toModel.unpack
  rw [hlt] at hswap
  contradiction

end Float

namespace EditorBlocks

namespace Json

mutual

/-- The numbers in a value, at any depth. -/
def numbers : Json → List Number
  | .number n => [n]
  | .list items => itemNumbers items
  | .object members => memberNumbers members
  | .null | .bool _ | .string _ => []

def itemNumbers : List Json → List Number
  | [] => []
  | item :: rest => numbers item ++ itemNumbers rest

def memberNumbers : List (String × Json) → List Number
  | [] => []
  | (_, value) :: rest => numbers value ++ memberNumbers rest

end

def Finite (value : Json) : Prop := ∀ n ∈ value.numbers, n.toFloat.isFinite = true

instance (value : Json) : Decidable value.Finite :=
  inferInstanceAs (Decidable (∀ n ∈ value.numbers, n.toFloat.isFinite = true))

theorem mem_itemNumbers {items : List Json} {n : Number} :
    n ∈ itemNumbers items ↔ ∃ item ∈ items, n ∈ item.numbers := by
  induction items with
  | nil => simp [itemNumbers]
  | cons first rest ih => simp [itemNumbers, ih]

theorem mem_memberNumbers {o : Object} {n : Number} :
    n ∈ memberNumbers o ↔ ∃ m ∈ o, n ∈ m.2.numbers := by
  induction o with
  | nil => simp [memberNumbers]
  | cons first rest ih =>
      obtain ⟨key, value⟩ := first
      simp [memberNumbers, ih]

theorem finite_list {items : List Json} :
    (Json.list items).Finite ↔ ∀ item ∈ items, item.Finite := by
  constructor
  · intro hfinite item hmem n hn
    exact hfinite n (mem_itemNumbers.2 ⟨item, hmem, hn⟩)
  · intro hitems n hn
    obtain ⟨item, hmem, hitem⟩ := mem_itemNumbers.1 hn
    exact hitems item hmem n hitem

theorem finite_object {o : Object} :
    (Json.object o).Finite ↔ ∀ m ∈ o, m.2.Finite := by
  constructor
  · intro hfinite m hmem n hn
    exact hfinite n (mem_memberNumbers.2 ⟨m, hmem, hn⟩)
  · intro hmembers n hn
    obtain ⟨m, hmem, hm⟩ := mem_memberNumbers.1 hn
    exact hmembers m hmem n hm

theorem finite_ofMembers {members : List (String × Json)}
    (hmembers : ∀ m ∈ members, m.2.Finite) : (ofMembers members).Finite :=
  finite_object.2 fun m hmem => hmembers m (Object.mem_of_mem_ofList hmem)

theorem finite_string (s : String) : (Json.string s).Finite := by
  intro n hn
  contradiction

theorem finite_ofFloat {x : Float} (hx : x.isFinite = true) : (ofFloat x).Finite := by
  intro n hn
  obtain rfl := List.mem_singleton.1 hn
  exact hx

namespace Finite

theorem get? {o : Object} {key : String} {value : Json}
    (hfinite : (Json.object o).Finite) (hvalue : o.get? key = some value) : value.Finite :=
  finite_object.1 hfinite _ (Object.mem_of_get? hvalue)

theorem float? {value : Json} {x : Float} (hfinite : value.Finite)
    (hx : value.float? = some x) : x.isFinite = true := by
  cases value with
  | number n =>
      obtain rfl : n.toFloat = x := Option.some.inj hx
      exact hfinite n (by simp [numbers])
  | _ => contradiction

end Finite

end Json

end EditorBlocks
