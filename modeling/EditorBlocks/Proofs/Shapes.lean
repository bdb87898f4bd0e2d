import EditorBlocks.Block
import EditorBlocks.Schema.Constraint

/-!
# Reading and writing values of a shape

A value of a shape is read by the reader of the shape, and writing the result
gives the value back.  Only numbers change on the way: the library keeps them
as floats.
-/

namespace EditorBlocks

/-! ## Lists that are read item by item -/

section Lists

variable {α β γ : Type} {f : α → Option β}

theorem isSome_mapM {xs : List α} (hsome : ∀ x ∈ xs, (f x).isSome) :
    (xs.mapM f).isSome := by
  induction xs with
  | nil => rfl
  | cons x rest ih =>
      obtain ⟨hx, hrest⟩ := List.forall_mem_cons.1 hsome
      obtain ⟨y, hy⟩ := Option.isSome_iff_exists.1 hx
      obtain ⟨ys, hys⟩ := Option.isSome_iff_exists.1 (ih hrest)
      simp [hy, hys]

theorem mapM_congr {g : α → Option β} {xs : List α} (heach : ∀ x ∈ xs, f x = g x) :
    xs.mapM f = xs.mapM g := by
  induction xs with
  | nil => rfl
  | cons x rest ih =>
      obtain ⟨hx, hrest⟩ := List.forall_mem_cons.1 heach
      rw [List.mapM_cons, List.mapM_cons, hx, ih hrest]

theorem map_of_mapM {g : β → γ} {h : α → γ} {xs : List α} {ys : List β}
    (hread : xs.mapM f = some ys)
    (heach : ∀ x ∈ xs, ∀ y, f x = some y → g y = h x) :
    ys.map g = xs.map h := by
  induction xs generalizing ys with
  | nil => simp_all
  | cons x rest ih =>
      obtain ⟨hx, hrest⟩ := List.forall_mem_cons.1 heach
      simp only [List.mapM_cons, Option.bind_eq_bind, Option.bind_eq_some_iff] at hread
      obtain ⟨y, hy, zs, hzs, heq⟩ := hread
      obtain rfl : y :: zs = ys := Option.some.inj heq
      rw [List.map_cons, List.map_cons, hx y hy, ih hzs hrest]

end Lists

namespace Json

/-- A number as a float; every other value stays as it is. -/
def asFloat : Json → Json
  | .number n => .ofFloat n.toFloat
  | value => value

theorem eq_of_string? {value : Json} {s : String} (hs : value.string? = some s) :
    value = .string s := by
  cases value with
  | string t => exact congrArg Json.string (Option.some.inj hs)
  | _ => contradiction

theorem eq_of_list? {value : Json} {items : List Json} (hitems : value.list? = some items) :
    value = .list items := by
  cases value with
  | list found => exact congrArg Json.list (Option.some.inj hitems)
  | _ => contradiction

theorem isString_iff {value : Json} : value.isString = true ↔ ∃ s, value = .string s := by
  cases value <;> simp [isString]

theorem isNumber_iff {value : Json} : value.isNumber = true ↔ ∃ n, value = .number n := by
  cases value <;> simp [isNumber]

theorem exists_of_float? {value : Json} {x : Float} (hx : value.float? = some x) :
    ∃ n, value = .number n := by
  cases value with
  | number n => exact ⟨n, rfl⟩
  | _ => contradiction

theorem asFloat_of_float? {value : Json} {x : Float} (hx : value.float? = some x) :
    value.asFloat = .ofFloat x := by
  cases value with
  | number n => exact congrArg ofFloat (Option.some.inj hx)
  | _ => contradiction

theorem map_string? {value : Json} (hshape : value.isString = true) :
    value.string?.map Json.string = some value := by
  cases value <;> simp_all [isString, string?]

theorem map_bool? {value : Json} (hshape : value.isBool = true) :
    value.bool?.map Json.bool = some value := by
  cases value <;> simp_all [isBool, bool?]

theorem map_float? {value : Json} (hshape : value.isNumber = true) :
    value.float?.map ofFloat = some value.asFloat := by
  cases value <;> simp_all [isNumber, float?, number?, asFloat]

theorem mapM_string? (names : List String) :
    (names.map Json.string).mapM string? = some names := by
  induction names with
  | nil => rfl
  | cons name rest ih => simp [ih, string?]

theorem exists_mapM_string? {items : List Json} (hshape : items.all isString = true) :
    ∃ names, items.mapM string? = some names ∧ names.map Json.string = items := by
  rw [List.all_eq_true] at hshape
  have hsome : (items.mapM string?).isSome := by
    refine isSome_mapM fun item hmem => ?_
    obtain ⟨s, hs, -⟩ := Option.map_eq_some_iff.1 (map_string? (hshape item hmem))
    rw [hs, Option.isSome_some]
  obtain ⟨names, hnames⟩ := Option.isSome_iff_exists.1 hsome
  refine ⟨names, hnames, ?_⟩
  rw [map_of_mapM hnames (h := id), List.map_id]
  intro item hmem s hs
  have hmap := map_string? (hshape item hmem)
  rw [hs] at hmap
  exact Option.some.inj hmap

theorem map_strings? {value : Json} (hshape : Schema.Shape.strings.admits value = true) :
    value.strings?.map ofStrings = some value := by
  cases value with
  | list items =>
      obtain ⟨names, hread, hwrite⟩ := exists_mapM_string? hshape
      simp [strings?, list?, hread, ofStrings, hwrite]
  | _ => simp [Schema.Shape.admits] at hshape

end Json

theorem ConnectionCheck.map_ofJson? {value : Json}
    (hshape : Schema.Shape.connectionCheck.admits value = true) :
    (ofJson? value).map toJson = some value := by
  cases value with
  | null => rfl
  | string s => rfl
  | list items =>
      obtain ⟨names, hread, hwrite⟩ := Json.exists_mapM_string? hshape
      simp [ofJson?, hread, toJson, Json.ofStrings, hwrite]
  | _ => simp [Schema.Shape.admits] at hshape

theorem ConnectionCheck.toJson_of_ofJson? {value : Json} {c : ConnectionCheck}
    (hread : ofJson? value = some c) : c.toJson = value := by
  cases value with
  | null | string =>
      obtain rfl := Option.some.inj hread
      rfl
  | list items =>
      obtain ⟨names, hnames, rfl⟩ := Option.map_eq_some_iff.1 hread
      have hwritten : names.map Json.string = items.map id :=
        map_of_mapM hnames fun _ _ _ hread => (Json.eq_of_string? hread).symm
      rw [toJson, Json.ofStrings, hwritten, List.map_id]
  | _ => contradiction

theorem Colour.map_ofJson? {value : Json}
    (hshape : Schema.Shape.colour.admits value = true) :
    (ofJson? value).map toJson = some value.asFloat := by
  cases value <;> simp_all [Schema.Shape.admits, Json.isString, Json.isNumber,
    ofJson?, toJson, Json.asFloat]

theorem Dropdown.Image.isSome_ofObject?_iff {o : Object} :
    (ofObject? o).isSome = true ↔
      (∃ src, o.get? "src" = some (.string src)) ∧
        (∃ width, o.get? "width" = some (.number width)) ∧
        (∃ height, o.get? "height" = some (.number height)) ∧
        ∀ alt, o.get? "alt" = some alt → alt.isString = true := by
  constructor
  · intro hsome
    obtain ⟨image, himage⟩ := Option.isSome_iff_exists.1 hsome
    simp only [ofObject?, Option.bind_eq_bind, Option.bind_eq_some_iff] at himage
    obtain ⟨srcValue, hsrcValue, src, hsrc, widthValue, hwidthValue, x, hx,
      heightValue, hheightValue, y, hy, halt⟩ := himage
    obtain ⟨width, rfl⟩ := Json.exists_of_float? hx
    obtain ⟨height, rfl⟩ := Json.exists_of_float? hy
    obtain rfl := Json.eq_of_string? hsrc
    refine ⟨⟨src, hsrcValue⟩, ⟨width, hwidthValue⟩, ⟨height, hheightValue⟩, ?_⟩
    intro alt hvalue
    simp only [hvalue, Option.bind_eq_some_iff] at halt
    obtain ⟨s, hs, -⟩ := halt
    exact Json.isString_iff.2 ⟨s, Json.eq_of_string? hs⟩
  · rintro ⟨⟨src, hsrc⟩, ⟨width, hwidth⟩, ⟨height, hheight⟩, halt⟩
    simp only [ofObject?, hsrc, hwidth, hheight, Json.string?, Json.float?, Json.number?,
      Option.bind_eq_bind, Option.bind_some, Option.map_some]
    cases hvalue : o.get? "alt" with
    | none => rfl
    | some alt =>
        obtain ⟨s, rfl⟩ := Json.isString_iff.1 (halt alt hvalue)
        rfl

theorem Align.map_ofName? {value : Json} (hshape : value.isString = true)
    (hlisted : ∀ s, value = .string s → s ∈ all.map name) :
    (value.string?.bind ofName?).map (fun align => Json.string align.name) =
      some value := by
  obtain ⟨s, hs, rfl⟩ := Option.map_eq_some_iff.1 (Json.map_string? hshape)
  obtain ⟨align, -, rfl⟩ := List.mem_map.1 (hlisted s rfl)
  simp [Json.string?]

end EditorBlocks
