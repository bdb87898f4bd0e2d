import EditorBlocks.Argument.Dropdown
import EditorBlocks.Proofs.FiniteNumbers
import EditorBlocks.Proofs.Shapes

/-!
# Connection checks and options that are written

A value has the shape of a connection check exactly when one is read from it, and
writing it gives the value back.  From an option that is written the same option is
read, though its image is an object made anew and the sizes have become floats.
-/

namespace EditorBlocks

open Schema

/-! ## Connection checks -/

namespace ConnectionCheck

theorem ofJson?_toJson (c : ConnectionCheck) : ofJson? c.toJson = some c := by
  cases c with
  | any => rfl
  | single name => rfl
  | anyOf names => exact congrArg (Option.map anyOf) (Json.mapM_string? names)

theorem admits_toJson (c : ConnectionCheck) :
    Shape.connectionCheck.admits c.toJson = true := by
  cases c with
  | any => rfl
  | single name => rfl
  | anyOf names => simp [toJson, Json.ofStrings, Shape.admits, Json.isString]

theorem admits_iff_exists (value : Json) :
    Shape.connectionCheck.admits value = true ↔ ∃ c, ofJson? value = some c := by
  constructor
  · intro hshape
    obtain ⟨c, hread, -⟩ := Option.map_eq_some_iff.1 (map_ofJson? hshape)
    exact ⟨c, hread⟩
  · rintro ⟨c, hread⟩
    rw [← toJson_of_ofJson? hread]
    exact c.admits_toJson

end ConnectionCheck

/-! ## Options -/

namespace Dropdown

namespace Image

/-- Both sizes are numbers that a document can hold. -/
def Finite (image : Image) : Prop :=
  image.width.isFinite = true ∧ image.height.isFinite = true

instance (image : Image) : Decidable image.Finite := inferInstanceAs (Decidable (_ ∧ _))

theorem finite_toJson {image : Image} (hfinite : image.Finite) : image.toJson.Finite := by
  apply Json.finite_ofMembers
  intro m hmem
  rcases List.mem_append.1 hmem with hfixed | halt
  · simp only [List.mem_cons, List.not_mem_nil, or_false] at hfixed
    rcases hfixed with rfl | rfl | rfl
    · exact Json.finite_string _
    · exact Json.finite_ofFloat hfinite.1
    · exact Json.finite_ofFloat hfinite.2
  · obtain ⟨alt, -, rfl⟩ := Option.map_eq_some_iff.1 (Option.mem_toList.1 halt)
    exact Json.finite_string alt

theorem finite_of_ofObject? {o : Object} {image : Image} (hfinite : (Json.object o).Finite)
    (hread : ofObject? o = some image) : image.Finite := by
  simp only [ofObject?, Option.bind_eq_bind, Option.bind_eq_some_iff] at hread
  obtain ⟨_, -, src, -, _, hwidth, width, hw, _, hheight, height, hh, hread⟩ := hread
  have hsizes : image.width = width ∧ image.height = height := by
    cases halt : o.get? "alt" with
    | none =>
        simp only [halt] at hread
        obtain rfl := Option.some.inj hread
        exact ⟨rfl, rfl⟩
    | some value =>
        simp only [halt, Option.bind_eq_some_iff] at hread
        obtain ⟨alt, -, hread⟩ := hread
        obtain rfl := Option.some.inj hread
        exact ⟨rfl, rfl⟩
  rw [Finite, hsizes.1, hsizes.2]
  exact ⟨(hfinite.get? hwidth).float? hw, (hfinite.get? hheight).float? hh⟩

theorem ofJson?_toJson (image : Image) : Label.ofJson? image.toJson = some (.image image) := by
  obtain ⟨src, width, height, alt⟩ := image
  cases alt with
  | none | some alt =>
      simp [Label.ofJson?, toJson, Json.ofMembers, ofObject?, Object.get?_ofList,
        Object.get?_cons, Json.string?, Json.float?, Json.ofFloat, Json.number?, Number.toFloat]

end Image

namespace Label

def Finite : Label → Prop
  | .text _ => True
  | .image i => i.Finite

instance : (label : Label) → Decidable label.Finite
  | .text _ => inferInstanceAs (Decidable True)
  | .image i => inferInstanceAs (Decidable i.Finite)

theorem ofJson?_toJson (label : Label) : ofJson? label.toJson = some label := by
  cases label with
  | text s => rfl
  | image i => exact i.ofJson?_toJson

theorem finite_toJson {label : Label} (hfinite : label.Finite) : label.toJson.Finite := by
  cases label with
  | text s => exact Json.finite_string s
  | image i => exact Image.finite_toJson hfinite

theorem finite_of_ofJson? {value : Json} {label : Label} (hfinite : value.Finite)
    (hread : ofJson? value = some label) : label.Finite := by
  cases value with
  | string s =>
      obtain rfl := Option.some.inj hread
      trivial
  | object o =>
      obtain ⟨i, hi, rfl⟩ := Option.map_eq_some_iff.1 hread
      exact Image.finite_of_ofObject? hfinite hi
  | _ => contradiction

end Label

namespace Choice

theorem ofJson?_toJson (choice : Choice) : ofJson? choice.toJson = some choice := by
  simp [ofJson?, toJson, choice.label.ofJson?_toJson, Json.string?]

theorem finite_toJson {choice : Choice} (hfinite : choice.label.Finite) :
    choice.toJson.Finite := by
  refine Json.finite_list.2 fun item hitem => ?_
  simp only [List.mem_cons, List.not_mem_nil, or_false] at hitem
  rcases hitem with rfl | rfl
  · exact Label.finite_toJson hfinite
  · exact Json.finite_string _

theorem finite_of_ofJson? {value : Json} {choice : Choice} (hfinite : value.Finite)
    (hread : ofJson? value = some choice) : choice.label.Finite := by
  unfold ofJson? at hread
  split at hread
  next label stored =>
    simp only [Option.bind_eq_bind, Option.bind_eq_some_iff] at hread
    obtain ⟨found, hlabel, s, -, heq⟩ := hread
    obtain rfl := Option.some.inj heq
    exact Label.finite_of_ofJson? (Json.finite_list.1 hfinite label List.mem_cons_self) hlabel
  next => contradiction

end Choice

end Dropdown

/-- A value has the shape of a connection check exactly when one is read from it; what
is read is written as the very value, and what is written is read as the same check.
An option with sizes that a document can hold is written as a document, and read from
it again.  So it is with each option that was read, and in a document its sizes are
always such. -/
theorem written_values_read_back :
    (∀ value, Shape.connectionCheck.admits value = true ↔
      ∃ c, ConnectionCheck.ofJson? value = some c) ∧
    (∀ value c, ConnectionCheck.ofJson? value = some c → c.toJson = value) ∧
    (∀ c : ConnectionCheck, ConnectionCheck.ofJson? c.toJson = some c) ∧
    (∀ choice : Dropdown.Choice, choice.label.Finite →
      choice.toJson.Finite ∧ Dropdown.Choice.ofJson? choice.toJson = some choice) ∧
    ∀ value choice, Dropdown.Choice.ofJson? value = some choice →
      Dropdown.Choice.ofJson? choice.toJson = some choice ∧
        (value.Finite → choice.label.Finite) := by
  refine ⟨ConnectionCheck.admits_iff_exists, ?_, ConnectionCheck.ofJson?_toJson, ?_, ?_⟩
  · intro value c hread
    exact ConnectionCheck.toJson_of_ofJson? hread
  · intro choice hfinite
    exact ⟨Dropdown.Choice.finite_toJson hfinite, choice.ofJson?_toJson⟩
  · intro value choice hread
    exact ⟨choice.ofJson?_toJson, fun hfinite => Dropdown.Choice.finite_of_ofJson? hfinite hread⟩

/-- The width is an integer in the document, and there is a key that is not kept. -/
theorem written_values_read_back_image :
    let value := Json.list [.object [("height", .number (.float (Float.ofInt 2))),
      ("src", .string "box.png"), ("title", .string "a box"), ("width", .number (.int 3))],
      .string "BOX"]
    let choice : Dropdown.Choice :=
      ⟨.image ⟨"box.png", Float.ofInt 3, Float.ofInt 2, none⟩, "BOX"⟩
    let check : ConnectionCheck := .anyOf ["Number", "Number"]
    ConnectionCheck.ofJson? (.list [.string "Number", .string "Number"]) = some check ∧
      check.toJson = .list [.string "Number", .string "Number"] ∧
      value.Finite ∧ Dropdown.Choice.ofJson? value = some choice ∧ choice.label.Finite ∧
      choice.toJson.Finite ∧ choice.toJson ≠ value ∧
      Dropdown.Choice.ofJson? choice.toJson = some choice := by
  intro value choice check
  have hcheck : ConnectionCheck.ofJson? (.list [.string "Number", .string "Number"]) =
      some check := by decide
  have hfinite : value.Finite := by decide +kernel
  have hread : Dropdown.Choice.ofJson? value = some choice := by decide +kernel
  obtain ⟨-, hwritten, -, hchoice, hagain⟩ := written_values_read_back
  have hlabel : choice.label.Finite := (hagain value choice hread).2 hfinite
  exact ⟨hcheck, hwritten _ check hcheck, hfinite, hread, hlabel, (hchoice choice hlabel).1,
    by decide +kernel, (hagain value choice hread).1⟩

end EditorBlocks
