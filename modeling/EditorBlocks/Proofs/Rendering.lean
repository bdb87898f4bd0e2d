import EditorBlocks.Proofs.ArgumentRendering

/-!
# Writing definitions

A definition that was read from an accepted document is written back as the
normal form of the document: slot by slot, then the settings, then the
connections.  No mode, registry or path has a say in it.
-/

namespace EditorBlocks

open Schema Validation

/-- Slots that are read one by one and of which some are left out. -/
theorem flatMap_filterMap_of_mapM {α β γ : Type} {f : α → Option (Option β)}
    {g : β → List γ} {h : α → List γ} {xs : List α} {ys : List (Option β)}
    (hread : xs.mapM f = some ys)
    (heach : ∀ x ∈ xs, ∀ y, f x = some y → y.toList.flatMap g = h x) :
    (ys.filterMap id).flatMap g = xs.flatMap h := by
  induction xs generalizing ys with
  | nil => simp_all
  | cons x rest ih =>
      obtain ⟨hx, hrest⟩ := List.forall_mem_cons.1 heach
      simp only [List.mapM_cons, Option.bind_eq_bind, Option.bind_eq_some_iff] at hread
      obtain ⟨y, hy, zs, hzs, heq⟩ := hread
      obtain rfl : y :: zs = ys := Option.some.inj heq
      rw [List.flatMap_cons, ← hx y hy, ← ih hzs hrest]
      cases y <;> simp

namespace NormalForm

section Blocks

variable {o : Object}

/-- A setting of a block is written as it was read. -/
theorem member_block {α : Type} (c : Constraint) (change : Json → Json)
    {read : Json → Option α} {write : α → Json} (hproper : ProperBlock o) (hc : c ∈ root)
    (hget : (block o).get? c.key = (o.get? c.key).map change)
    (hvalue : ∀ value, c.Fits value → (read value).map write = some (change value)) :
    (block o).member c.key =
      (((o.get? c.key).bind read).map fun x => (c.key, write x)).toList :=
  Object.member_eq_of_read hget fun value hthere =>
    hvalue value (hproper.fits c hc value hthere)

theorem member_block_plain {α : Type} (c : Constraint) {read : Json → Option α}
    {write : α → Json} (hproper : ProperBlock o) (hc : c ∈ root)
    (hkey : c.key ∈ "type" :: plainKeys) (hcolour : c.key ≠ "colour")
    (hvalue : ∀ value, c.Fits value → (read value).map write = some value) :
    (block o).member c.key =
      (((o.get? c.key).bind read).map fun x => (c.key, write x)).toList :=
  member_block c id hproper hc
    (by rw [get?_block_plain c.key hkey hcolour, Option.map_id, id]) hvalue

theorem member_text (hproper : ProperBlock o) :
    ∀ key ∈ ["helpUrl", "style", "tooltip", "mutator"],
      (block o).member key =
        (((o.get? key).bind Json.string?).map fun s => (key, Json.string s)).toList := by
  intro key hkey
  have htext : ∀ key ∈ ["helpUrl", "style", "tooltip", "mutator"],
      .optional key .string ∈ root ∧ key ∈ "type" :: plainKeys ∧ key ≠ "colour" := by
    decide
  obtain ⟨hc, hplain, hcolour⟩ := htext key hkey
  exact member_block_plain (.optional key .string) hproper hc hplain hcolour
    fun _ hfits => Json.map_string? hfits.shape

theorem member_colour (hproper : ProperBlock o) :
    (block o).member "colour" =
      (((o.get? "colour").bind Colour.ofJson?).map fun c => ("colour", c.toJson)).toList :=
  member_block (.optional "colour" .colour [.hueInRange]) Json.asFloat hproper (by decide)
    (get?_block_colour o) fun _ hfits => Colour.map_ofJson? hfits.shape

/-! ## Connections -/

theorem member_check (hproper : ProperBlock o) :
    ∀ key ∈ ["previousStatement", "nextStatement"],
      (block o).member key =
        (((o.get? key).bind ConnectionCheck.ofJson?).map fun c => (key, c.toJson)).toList := by
  intro key hkey
  have hcheck : ∀ key ∈ ["previousStatement", "nextStatement"],
      .optional key .connectionCheck [.distinctTypes] ∈ root ∧
        key ∈ "type" :: plainKeys ∧ key ≠ "colour" := by
    decide
  obtain ⟨hc, hplain, hcolour⟩ := hcheck key hkey
  exact member_block_plain (.optional key .connectionCheck [.distinctTypes]) hproper hc hplain
    hcolour fun _ hfits => ConnectionCheck.map_ofJson? hfits.shape

/-- A block has an output or connections of a statement, so either is written. -/
theorem members_connections {connections : Connections} (hproper : ProperBlock o)
    (hread : Connections.ofObject? (variant o) o = some connections) :
    connections.members =
      ["output", "previousStatement", "nextStatement"].flatMap (block o).member := by
  have hcheck := member_check hproper
  have hget := get?_block_plain "output" (by decide) (by decide) o
  rw [Connections.ofObject?_variant hproper.exclusive] at hread
  cases houtput : o.get? "output" with
  | none =>
      simp only [houtput, Option.some.injEq] at hread
      have hmember : (block o).member "output" = [] :=
        Object.member_of_none (hget.trans houtput)
      simp [← hread, Connections.members, hmember, hcheck]
  | some value =>
      simp only [houtput, Option.map_eq_some_iff] at hread
      obtain ⟨check, houtputCheck, rfl⟩ := hread
      have hmember : (block o).member "output" = [("output", value)] :=
        Object.member_of_get? (hget.trans houtput)
      have hvalue : hasValueKey o = true := by
        rw [hasValueKey_eq, Object.has, houtput, Option.isSome_some]
      have hstatement : hasStatementKey o = false := by
        simpa using fun h => hproper.exclusive ⟨hvalue, h⟩
      have hnone : o.get? "previousStatement" = none ∧ o.get? "nextStatement" = none := by
        simpa [hasStatementKey_eq, Object.has] using hstatement
      simp [Connections.members, hmember, hcheck, hnone,
        ConnectionCheck.toJson_of_ofJson? houtputCheck]

/-! ## Slots -/

variable {i : Fin slotCount}

theorem member_alignKey (hproper : ProperBlock o) (hhas : o.has (messageKey i) = true) :
    (block o).member (alignKey i) =
      ((((o.get? (alignKey i)).bind Json.string?).bind Align.ofName?).map
        fun align => (alignKey i, Json.string align.name)).toList := by
  have hget : (block o).get? (alignKey i) = (o.get? (alignKey i)).map id := by
    rw [get?_block_alignKey, if_pos hhas, Option.map_id, id]
  have hvalue : ∀ value, (align i).Fits value →
      (value.string?.bind Align.ofName?).map (fun align => Json.string align.name) =
        some value :=
    fun value hfits => Align.map_ofName? hfits.shape
      fun s => hfits.listed (Align.all.map Align.name) s (List.mem_singleton.2 rfl)
  rw [Option.bind_assoc]
  exact member_block (align i) id hproper (by simp [root, slots]) hget hvalue

/-- Without arguments nothing is written, as an empty list of them is dropped. -/
theorem member_argumentsKey {arguments : List Argument}
    (hordered : (Json.object o).Ordered) (hproper : ProperBlock o)
    (hhas : o.has (messageKey i) = true)
    (hread : (entries i o).mapM Argument.ofJson? = some arguments) :
    (block o).member (argumentsKey i) =
      if arguments.isEmpty then []
      else [(argumentsKey i, .list (arguments.map Argument.toJson))] := by
  have hget := get?_block_argumentsKey o i
  rcases hproper.get?_argumentsKey i with ⟨hnone, hempty⟩ | hlist
  · have harguments : arguments = [] := by simpa [hempty] using hread.symm
    rw [harguments]
    exact Object.member_of_none (by simp [hget, hnone])
  · have hwritten : arguments.map Argument.toJson = (entries i o).map ofArgument := by
      refine map_of_mapM hread fun item hmem _ hread => ?_
      exact toJson_argument (Json.ordered_list.1 (hordered.of_get? hlist) item hmem)
        (hproper.arguments i item hmem) hread
    cases arguments with
    | nil =>
        have hempty : entries i o = [] := List.map_eq_nil_iff.1 hwritten.symm
        exact Object.member_of_none (by simp [hget, hlist, hempty])
    | cons argument rest =>
        have hne : entries i o ≠ [] := by
          intro hempty
          simp [hempty] at hwritten
        rw [hwritten]
        exact Object.member_of_get? (by simp [hget, hhas, hlist, hne, Json.mapItems])

/-- A slot with a message has the arguments of its list, if there is one. -/
theorem read_slot {text : String} {slot? : Option Slot} (hproper : ProperBlock o)
    (hmessage : o.get? (messageKey i) = some (.string text))
    (hread : Slot.ofObject? o i = some slot?) :
    ∃ arguments, (entries i o).mapM Argument.ofJson? = some arguments ∧
      slot? = some ⟨i, text, arguments,
        ((o.get? (alignKey i)).bind Json.string?).bind Align.ofName?⟩ := by
  simp only [Slot.ofObject?, hmessage, Option.bind_some, Json.string?] at hread
  rcases hproper.get?_argumentsKey i with ⟨hnone, hempty⟩ | hlist
  · simp only [hnone, Option.bind_eq_bind, Option.bind_some, Option.some.injEq] at hread
    exact ⟨[], by rw [hempty]; rfl, hread.symm⟩
  · simp only [hlist, Json.list?, Option.bind_eq_bind, Option.bind_some,
      Option.bind_eq_some_iff, Option.some.injEq] at hread
    obtain ⟨arguments, harguments, heq⟩ := hread
    exact ⟨arguments, harguments, heq.symm⟩

theorem members_slot {slot? : Option Slot}
    (hordered : (Json.object o).Ordered) (hproper : ProperBlock o)
    (hread : Slot.ofObject? o i = some slot?) :
    slot?.toList.flatMap Slot.members = (slotKeys i).flatMap (block o).member := by
  cases hmessage : o.get? (messageKey i) with
  | none =>
      have hhas : o.has (messageKey i) = false := by rw [Object.has, hmessage, Option.isSome_none]
      have hnone : ∀ key ∈ slotKeys i, (block o).member key = [] := by
        intro key hkey
        refine Object.member_of_none ?_
        simp only [slotKeys, List.mem_cons, List.not_mem_nil, or_false] at hkey
        rcases hkey with rfl | rfl | rfl
        · rw [get?_block_messageKey, hmessage]
        · rw [get?_block_argumentsKey, hhas]
          simp
        · rw [get?_block_alignKey, hhas]
          simp
      have hslot : slot? = none := by
        simpa [Slot.ofObject?, hmessage] using hread.symm
      rw [hslot, List.flatMap_congr hnone]
      simp
  | some value =>
      have hhas : o.has (messageKey i) = true := by rw [Object.has, hmessage, Option.isSome_some]
      have hfits := hproper.fits (message i) (by simp [root, slots]) value hmessage
      obtain ⟨text, htext, rfl⟩ := Option.map_eq_some_iff.1 (Json.map_string? hfits.shape)
      have hmemberMessage : (block o).member (messageKey i) =
          [(messageKey i, .string text)] :=
        Object.member_of_get? (by rw [get?_block_messageKey, hmessage])
      obtain ⟨arguments, harguments, rfl⟩ := read_slot hproper hmessage hread
      simp [Slot.members, slotKeys, hmemberMessage, member_alignKey hproper hhas,
        member_argumentsKey hordered hproper hhas harguments]

/-! ## Definitions -/

theorem toJson_definition {d : Definition} (hordered : (Json.object o).Ordered)
    (hproper : ProperBlock o) (hread : Definition.ofJson? (.object o) = some d) :
    d.toJson = .object (block o) := by
  obtain ⟨type, htype⟩ := hproper.hasType
  simp only [blockType, Constraint.mandatory] at htype
  simp only [Definition.ofJson?, Definition.ofObject?, Json.object?, htype, Json.string?,
    Option.bind_eq_bind, Option.bind_some, Option.bind_eq_some_iff, Option.some.injEq] at hread
  obtain ⟨found, hfound, connections, hconnections, rfl⟩ := hread
  have hmemberType : (block o).member "type" = [("type", .string type)] :=
    Object.member_of_get? (by rw [get?_block_plain "type" (by decide) (by decide), htype])
  have hslots : (found.filterMap id).flatMap Slot.members =
      (slots.flatMap slotKeys).flatMap (block o).member := by
    rw [List.flatMap_assoc]
    exact flatMap_filterMap_of_mapM hfound fun i _ _ hread =>
      members_slot hordered hproper hread
  have hinline := member_block_plain (.optional "inputsInline" .bool) hproper (by decide)
    (by decide) (by decide) fun _ hfits => Json.map_bool? hfits.shape
  have hextensions := member_block_plain (.optional "extensions" .strings) hproper (by decide)
    (by decide) (by decide) fun _ hfits => Json.map_strings? hfits.shape
  have htext := member_text hproper
  have hcheck := members_connections hproper hconnections
  have hkeys : ∀ key, keeps o key = true →
      key ∈ "type" :: slots.flatMap slotKeys ++ plainKeys := by
    intro key hkey
    simp only [keeps, Bool.and_eq_true] at hkey
    exact mem_keys_of_isRootKey hkey.1
  refine (Json.ordered_object.1 hordered).1.ofMembers_eq_refine hkeys ?_
  change ("type" :: slots.flatMap slotKeys ++ plainKeys).flatMap (block o).member = _
  rw [List.flatMap_append, List.flatMap_cons, hmemberType, ← hslots, hcheck]
  simp only [Constraint.optional] at hinline hextensions
  simp [plainKeys, hinline, hextensions, htext, member_colour hproper]

end Blocks

end NormalForm

/-- An accepted definition is written back as the normal form of its document.
That documents are ordered is no restriction, since the readers give no other. -/
theorem Definition.toJson_eq_normalForm (c : Context) {document : Json} {d : Definition}
    (hordered : document.Ordered) (haccepted : (validate c document).definition = some d) :
    d.toJson = NormalForm.ofBlock document := by
  obtain ⟨o, rfl, hproper, hread⟩ := proper_of_accepted haccepted
  exact NormalForm.toJson_definition hordered hproper hread

/-- A document with something to drop or to convert at every level. -/
def looseDocument : Json :=
  .object [
    ("args0", .list [
      .object [
        ("comment", .null),
        ("name", .string "SHAPE"),
        ("options", .list [
          .list [
            .object [("height", .number (.int 2)), ("src", .string "box.png"), ("title", .null),
              ("width", .number (.int 3))],
            .string "BOX"]]),
        ("type", .string "field_dropdown")],
      .object [("angle", .number (.int 90)), ("name", .string "TURN"),
        ("type", .string "field_angle")]]),
    ("args1", .list []),
    ("args2", .list [.object [("name", .string "X"), ("type", .string "input_dummy")]]),
    ("colour", .number (.int 20)),
    ("lastDummyAlign2", .string "LEFT"),
    ("message0", .string "%1 %2"),
    ("message1", .string "done"),
    ("note", .null),
    ("type", .string "draw_shape")]

def looseDefinition : Definition where
  type := "draw_shape"
  connections := .statement none none
  slots := [
    ⟨⟨0, by decide⟩, "%1 %2",
      [.field "SHAPE" none
          (.dropdown [⟨.image ⟨"box.png", Float.ofInt 3, Float.ofInt 2, none⟩, "BOX"⟩]),
        .field "TURN" none (.freeForm .angle [("angle", .number (.int 90))])], none⟩,
    ⟨⟨1, by decide⟩, "done", [], none⟩]
  inputsInline := none
  helpUrl := none
  style := none
  colour := some (.hue (Float.ofInt 20))
  tooltip := none
  extensions := none
  mutator := none

theorem toJson_looseDefinition :
    looseDocument.Ordered ∧
      (validate ⟨.tolerant, none, none, []⟩ looseDocument).definition = some looseDefinition ∧
      looseDefinition.toJson = NormalForm.ofBlock looseDocument := by
  have hordered : looseDocument.Ordered := by
    decide +kernel
  have haccepted : (validate ⟨.tolerant, none, none, []⟩ looseDocument).definition =
      some looseDefinition := by
    decide +kernel
  exact ⟨hordered, haccepted, Definition.toJson_eq_normalForm _ hordered haccepted⟩

end EditorBlocks
