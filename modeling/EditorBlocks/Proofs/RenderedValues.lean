import EditorBlocks.Proofs.NormalForm
import EditorBlocks.Proofs.PathLookup

/-!
# Values that are written with floats for numbers

A definition stores its numbers as floats, so a value that went through one is
the value it was but for the numbers in it.  Every path into the value is a path
into what is written, and leads to what was there, written in the same way.
-/

namespace EditorBlocks

namespace Json

mutual

/-- The value itself, but that numbers in it may have become floats. -/
def RenderedAs : Json → Json → Prop
  | .null, written => written = .null
  | .bool b, written => written = .bool b
  | .number n, written => written = .number n ∨ written = .ofFloat n.toFloat
  | .string s, written => written = .string s
  | .list items, written => ∃ others, written = .list others ∧ RenderedItems items others
  | .object members, written =>
    ∃ others, written = .object others ∧ RenderedMembers members others

def RenderedItems : List Json → List Json → Prop
  | [], others => others = []
  | item :: rest, others =>
    ∃ other tail, others = other :: tail ∧ RenderedAs item other ∧ RenderedItems rest tail

def RenderedMembers : List (String × Json) → List (String × Json) → Prop
  | [], others => others = []
  | (key, value) :: rest, others =>
    ∃ other tail, others = (key, other) :: tail ∧ RenderedAs value other ∧
      RenderedMembers rest tail

end

mutual

theorem renderedAs_refl : (value : Json) → value.RenderedAs value
  | .null | .bool _ | .string _ => by rw [RenderedAs]
  | .number _ => by
      rw [RenderedAs]
      exact .inl rfl
  | .list items => by
      rw [RenderedAs]
      exact ⟨items, rfl, renderedItems_refl items⟩
  | .object members => by
      rw [RenderedAs]
      exact ⟨members, rfl, renderedMembers_refl members⟩

theorem renderedItems_refl : (items : List Json) → RenderedItems items items
  | [] => by rw [RenderedItems]
  | item :: rest => by
      rw [RenderedItems]
      exact ⟨item, rest, rfl, renderedAs_refl item, renderedItems_refl rest⟩

theorem renderedMembers_refl : (members : List (String × Json)) →
    RenderedMembers members members
  | [] => by rw [RenderedMembers]
  | (key, value) :: rest => by
      rw [RenderedMembers]
      exact ⟨value, rest, rfl, renderedAs_refl value, renderedMembers_refl rest⟩

end

theorem renderedAs_asFloat (value : Json) : value.RenderedAs value.asFloat := by
  cases value with
  | number n =>
      rw [RenderedAs]
      exact .inr rfl
  | _ => exact renderedAs_refl _

theorem renderedItems_map {change : Json → Json} {items : List Json}
    (heach : ∀ item ∈ items, item.RenderedAs (change item)) :
    RenderedItems items (items.map change) := by
  induction items with
  | nil => rw [RenderedItems, List.map_nil]
  | cons item rest ih =>
      obtain ⟨hitem, hrest⟩ := List.forall_mem_cons.1 heach
      rw [RenderedItems]
      exact ⟨change item, rest.map change, rfl, hitem, ih hrest⟩

theorem renderedAs_mapItems {change : Json → Json} {value : Json}
    (heach : ∀ items, value = .list items → ∀ item ∈ items, item.RenderedAs (change item)) :
    value.RenderedAs (value.mapItems change) := by
  cases value with
  | list items =>
      rw [RenderedAs]
      exact ⟨items.map change, rfl, renderedItems_map (heach items rfl)⟩
  | _ => exact renderedAs_refl _

/-- An object of which every key is kept. -/
theorem renderedAs_refine {keep : String → Bool} {change : String → Json → Json} {o : Object}
    (hasc : o.Ascending) (hkeep : ∀ key ∈ o.keys, keep key = true)
    (heach : ∀ key value, o.get? key = some value → value.RenderedAs (change key value)) :
    (Json.object o).RenderedAs (.object (o.refine keep change)) := by
  have hall : ∀ m ∈ o, keep m.1 = true ∧ m.2.RenderedAs (change m.1 m.2) := fun m hm =>
    ⟨hkeep m.1 (Object.mem_keys_of_mem hm), heach m.1 m.2 (hasc.get?_eq_some_iff.2 hm)⟩
  have hmembers : ∀ part : Object, (∀ m ∈ part, m ∈ o) →
      RenderedMembers part (part.refine keep change) := by
    intro part hpart
    induction part with
    | nil => rw [RenderedMembers, Object.refine, List.filter_nil, List.map_nil]
    | cons m rest ih =>
        obtain ⟨hm, hrest⟩ := List.forall_mem_cons.1 hpart
        obtain ⟨hkept, hrendered⟩ := hall m hm
        have hcons : Object.refine keep change (m :: rest) =
            (m.1, change m.1 m.2) :: Object.refine keep change rest := by
          simp [Object.refine, hkept]
        rw [RenderedMembers]
        exact ⟨change m.1 m.2, _, hcons, hrendered, ih hrest⟩
  rw [RenderedAs]
  exact ⟨_, rfl, hmembers o fun _ hm => hm⟩

/-! ## Paths -/

theorem RenderedItems.getElem? {items others : List Json} (hitems : RenderedItems items others)
    {position : Nat} {item : Json} (hitem : items[position]? = some item) :
    ∃ other, others[position]? = some other ∧ item.RenderedAs other := by
  induction items generalizing others position with
  | nil => contradiction
  | cons first rest ih =>
      rw [RenderedItems] at hitems
      obtain ⟨other, tail, rfl, hfirst, hrest⟩ := hitems
      cases position with
      | zero =>
          obtain rfl : first = item := by simpa using hitem
          exact ⟨other, rfl, hfirst⟩
      | succ position => simpa using ih hrest (by simpa using hitem)

theorem RenderedMembers.get? {o other : Object} (hmembers : RenderedMembers o other)
    {key : String} {value : Json} (hvalue : o.get? key = some value) :
    ∃ written, Object.get? other key = some written ∧ value.RenderedAs written := by
  induction o generalizing other with
  | nil => contradiction
  | cons m rest ih =>
      rw [RenderedMembers] at hmembers
      obtain ⟨first, tail, rfl, hfirst, hrest⟩ := hmembers
      rw [Object.get?_cons] at hvalue
      by_cases hkey : key = m.1
      · rw [if_pos hkey, Option.some.injEq] at hvalue
        refine ⟨first, ?_, hvalue ▸ hfirst⟩
        rw [Object.get?_cons, if_pos hkey]
      · rw [if_neg hkey] at hvalue
        obtain ⟨written, hwritten, hrendered⟩ := ih hrest hvalue
        refine ⟨written, ?_, hrendered⟩
        rwa [Object.get?_cons, if_neg hkey]

theorem RenderedAs.child? {value written : Json} (hrendered : value.RenderedAs written)
    {segment : Segment} {part : Json} (hpart : value.child? segment = some part) :
    ∃ found, written.child? segment = some found ∧ part.RenderedAs found := by
  cases value with
  | object o =>
      rw [RenderedAs] at hrendered
      obtain ⟨other, rfl, hmembers⟩ := hrendered
      cases segment with
      | key name => exact hmembers.get? hpart
      | index position => contradiction
  | list items =>
      rw [RenderedAs] at hrendered
      obtain ⟨others, rfl, hitems⟩ := hrendered
      cases segment with
      | key name => contradiction
      | index position => exact hitems.getElem? hpart
  | _ => contradiction

theorem RenderedAs.at? {value written : Json} (hrendered : value.RenderedAs written)
    {path : Path} {part : Json} (hpart : value.at? path = some part) :
    ∃ found, written.at? path = some found ∧ part.RenderedAs found := by
  induction path generalizing value written with
  | nil =>
      obtain rfl : value = part := Option.some.inj hpart
      exact ⟨written, rfl, hrendered⟩
  | cons segment rest ih =>
      obtain ⟨child, hchild, hbelow⟩ := Option.bind_eq_some_iff.1 hpart
      obtain ⟨other, hother, hchildren⟩ := hrendered.child? hchild
      obtain ⟨found, hfound, hresult⟩ := ih hchildren hbelow
      refine ⟨found, ?_, hresult⟩
      rw [at?_cons, hother, Option.bind_some, hfound]

end Json

end EditorBlocks
