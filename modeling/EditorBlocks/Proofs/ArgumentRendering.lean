import EditorBlocks.Proofs.Acceptance
import EditorBlocks.Proofs.NormalReading
import EditorBlocks.Proofs.Ordered
import Mathlib.Data.List.Basic

/-!
# Writing arguments

An argument that was read from one without errors is written back as the normal
form of the latter.  The members that are written are those of the normal form,
listed in the order of the writer; since both objects ascend, the order does not
matter.
-/

namespace EditorBlocks

open Schema Validation

namespace NormalForm

/-! ## Dropdown options -/

theorem toJson_image {o : Object} {i : Dropdown.Image} (hasc : o.Ascending)
    (hread : Dropdown.Image.ofObject? o = some i) : i.toJson = .object (image o) := by
  simp only [Dropdown.Image.ofObject?, Option.bind_eq_bind, Option.bind_eq_some_iff] at hread
  obtain ⟨_, hsrc, src, hs, _, hwidth, width, hw, _, hheight, height, hh, hread⟩ := hread
  obtain rfl := Json.eq_of_string? hs
  have hget : ∀ key ∈ imageKeys,
      (image o).get? key = (o.get? key).map (imageValue key) := by
    intro key hkey
    rw [image, Object.get?_refine, if_pos (by simpa using hkey)]
  have hmemberSrc : (image o).member "src" = [("src", .string src)] := by
    refine Object.member_of_get? ?_
    rw [hget "src" (by decide), hsrc]
    rfl
  have hmemberWidth : (image o).member "width" = [("width", .ofFloat width)] := by
    refine Object.member_of_get? ?_
    rw [hget "width" (by decide), hwidth, ← Json.asFloat_of_float? hw]
    rfl
  have hmemberHeight : (image o).member "height" = [("height", .ofFloat height)] := by
    refine Object.member_of_get? ?_
    rw [hget "height" (by decide), hheight, ← Json.asFloat_of_float? hh]
    rfl
  have hmemberAlt : ∃ alt, i = ⟨src, width, height, alt⟩ ∧
      (image o).member "alt" = (alt.map fun alt => ("alt", Json.string alt)).toList := by
    have hgetAlt := hget "alt" (by decide)
    cases halt : o.get? "alt" with
    | none =>
        simp only [halt, Option.some.injEq] at hread
        exact ⟨none, hread.symm, Object.member_of_none (by rw [hgetAlt, halt, Option.map_none])⟩
    | some value =>
        simp only [halt, Option.bind_eq_some_iff, Option.some.injEq] at hread
        obtain ⟨alt, ha, heq⟩ := hread
        obtain rfl := Json.eq_of_string? ha
        exact ⟨some alt, heq.symm, Object.member_of_get? (by rw [hgetAlt, halt]; rfl)⟩
  obtain ⟨alt, rfl, hmemberAlt⟩ := hmemberAlt
  refine hasc.ofMembers_eq_refine (fun key hkey => List.contains_iff_mem.1 hkey) ?_
  change imageKeys.flatMap (image o).member = _
  simp [imageKeys, hmemberSrc, hmemberWidth, hmemberHeight, hmemberAlt]

theorem toJson_label {value : Json} {l : Dropdown.Label} (hordered : value.Ordered)
    (hread : Dropdown.Label.ofJson? value = some l) : l.toJson = ofLabel value := by
  cases value with
  | string s =>
      obtain rfl := Option.some.inj hread
      rfl
  | object o =>
      obtain ⟨i, hi, rfl⟩ := Option.map_eq_some_iff.1 hread
      exact toJson_image (Json.ordered_object.1 hordered).1 hi
  | _ => contradiction

theorem toJson_choice {value : Json} {c : Dropdown.Choice} (hordered : value.Ordered)
    (hread : Dropdown.Choice.ofJson? value = some c) : c.toJson = ofChoice value := by
  unfold Dropdown.Choice.ofJson? at hread
  split at hread
  next label stored =>
    simp only [Option.bind_eq_bind, Option.bind_eq_some_iff] at hread
    obtain ⟨l, hl, s, hs, heq⟩ := hread
    obtain rfl := Option.some.inj heq
    have hlabel : label.Ordered := Json.ordered_list.1 hordered label List.mem_cons_self
    rw [Json.eq_of_string? hs, Dropdown.Choice.toJson, toJson_label hlabel hl]
    rfl
  next => contradiction

/-! ## Arguments -/

theorem mem_of_isArgumentKey {kind : ArgumentKind} {key : String}
    (hkey : isArgumentKey kind key = true) :
    key ∈ "type" :: (argument kind).constraints.map Constraint.key := by
  simp only [isArgumentKey, Bool.or_eq_true, decide_eq_true_eq] at hkey
  rcases hkey with rfl | hfound
  · exact List.mem_cons_self
  · obtain ⟨c, hc, heq⟩ := List.find?_isSome.1 hfound
    obtain rfl : c.key = key := of_decide_eq_true heq
    exact List.mem_cons_of_mem _ (List.mem_map_of_mem hc)

section Arguments

variable {o : Object} {kind : ArgumentKind}

/-- A key of an argument is written as it was read. -/
theorem member_knownArgument {α : Type} (c : Constraint) {read : Json → Option α}
    {write : α → Json} (hproper : ProperArgument o kind)
    (hc : c ∈ (argument kind).constraints)
    (hvalue : ∀ value, o.get? c.key = some value → c.Fits value →
      (read value).map write = some (argumentValue kind c.key value)) :
    (knownArgument kind o).member c.key =
      (((o.get? c.key).bind read).map fun x => (c.key, write x)).toList := by
  refine Object.member_eq_of_read (get?_knownArgument (isArgumentKey_of_mem hc) o) ?_
  exact fun value hthere => hvalue value hthere ((hproper.meets c hc).fits value hthere)

theorem member_knownArgument_of_get? (c : Constraint)
    (hc : c ∈ (argument kind).constraints) {value : Json} (hthere : o.get? c.key = some value) :
    (knownArgument kind o).member c.key =
      [(c.key, argumentValue kind c.key value)] := by
  refine Object.member_of_get? ?_
  rw [get?_knownArgument (isArgumentKey_of_mem hc), hthere, Option.map_some]

theorem member_type_knownArgument (hproper : ProperArgument o kind) :
    (knownArgument kind o).member "type" = [("type", .string kind.name)] := by
  refine Object.member_of_get? ?_
  rw [get?_type_knownArgument, hproper.type]

theorem member_name_knownArgument {name : String}
    (hname : o.get? "name" = some (.string name)) :
    (knownArgument kind o).member "name" = [("name", .string name)] := by
  refine Object.member_of_get? ?_
  rw [get?_name_knownArgument, hname]

theorem member_colour_knownArgument (hproper : ProperArgument o kind)
    (hfield : kind.isInput = false) :
    (knownArgument kind o).member "colour" =
      (((o.get? "colour").bind Json.string?).map fun c => ("colour", Json.string c)).toList := by
  have hcolour : fieldColour ∈ (argument kind).constraints := by
    cases kind with
    | input kind => contradiction
    | _ => exact List.mem_cons_of_mem _ List.mem_cons_self
  refine member_knownArgument fieldColour hproper hcolour fun value _ hfits => ?_
  rw [Json.map_string? hfits.shape]
  exact congrArg some (congrFun (argumentValue_colour kind) value).symm

/-- The keys that only some kinds of fields have. -/
theorem members_content {content : FieldContent} (hordered : (Json.object o).Ordered)
    (hproper : ProperArgument o kind) (hform : kind.isFreeForm = false)
    (hread : FieldContent.ofObject? o kind = some content) :
    ((argument kind).constraints.drop 2).flatMap
        (fun c => (knownArgument kind o).member c.key) = content.members := by
  cases kind with
  | freeForm kind => contradiction
  | input kind => contradiction
  | checkbox =>
      obtain rfl := Option.some.inj hread
      have hchecked := member_knownArgument (.optional "checked" .bool) hproper
        (by simp [argument, field]) (fun value _ hfits => Json.map_bool? hfits.shape)
      exact (List.append_nil _).trans hchecked
  | number =>
      obtain rfl := Option.some.inj hread
      have hnumber : ∀ c ∈ (argument .number).constraints.drop 2,
          c ∈ (argument .number).constraints ∧ c.shape = .number ∧ c.key ∈ boundKeys := by
        decide
      have hmember : ∀ c ∈ (argument .number).constraints.drop 2,
          (knownArgument .number o).member c.key =
            (((o.get? c.key).bind Json.float?).map
              fun x => (c.key, Json.ofFloat x)).toList := by
        intro c hc
        obtain ⟨hc, hshape, hkey⟩ := hnumber c hc
        refine member_knownArgument c hproper hc fun value _ hfits => ?_
        have hfloat : value.isNumber = true := by simpa [hshape, Shape.admits] using hfits.shape
        rw [Json.map_float? hfloat, argumentValue, if_pos hkey]
      rw [List.flatMap_congr hmember, FieldContent.members, NumberBounds.members,
        List.filterMap_eq_flatMap_toList]
      rfl
  | text =>
      simp only [FieldContent.ofObject?, Option.bind_eq_bind, Option.bind_eq_some_iff] at hread
      obtain ⟨value, hthere, text, htext, heq⟩ := hread
      obtain rfl := Option.some.inj heq
      obtain rfl := Json.eq_of_string? htext
      have hmember : (knownArgument .text o).member "text" = [("text", .string text)] :=
        member_knownArgument_of_get? (.mandatory "text" .string)
          (by simp [argument, field]) hthere
      exact (List.append_nil _).trans hmember
  | dropdown =>
      simp only [FieldContent.ofObject?, Option.bind_eq_bind, Option.bind_eq_some_iff] at hread
      obtain ⟨value, hthere, items, hitems, choices, hchoices, heq⟩ := hread
      obtain rfl := Option.some.inj heq
      obtain rfl := Json.eq_of_list? hitems
      have hitem : ∀ item ∈ items, item.Ordered :=
        Json.ordered_list.1 (hordered.of_get? hthere)
      have hwritten : choices.map Dropdown.Choice.toJson = items.map ofChoice :=
        map_of_mapM hchoices fun item hmem _ hread => toJson_choice (hitem item hmem) hread
      have hmember : (knownArgument .dropdown o).member "options" =
          [("options", .list (items.map ofChoice))] :=
        member_knownArgument_of_get?
          (.mandatory "options" .options [.nonEmpty, .distinctOptions])
          (by simp [argument, field]) hthere
      rw [FieldContent.members, hwritten, ← hmember]
      exact List.append_nil _
  | «variable» =>
      simp only [FieldContent.ofObject?, Option.bind_eq_bind, Option.bind_eq_some_iff] at hread
      obtain ⟨_, hthere, name, hname, value, hvalue, types, htypes, _, hdefault, text, htext,
        heq⟩ := hread
      obtain rfl := Option.some.inj heq
      obtain rfl := Json.eq_of_string? hname
      obtain rfl := Json.eq_of_string? htext
      have hmemberName : (knownArgument .variable o).member "variable" =
          [("variable", .string name)] :=
        member_knownArgument_of_get? (.mandatory "variable" .string)
          (by simp [argument, field]) hthere
      have hmemberTypes : (knownArgument .variable o).member "variableTypes" =
          [("variableTypes", value)] :=
        member_knownArgument_of_get?
          (.mandatory "variableTypes" .connectionCheck [.distinctTypes])
          (by simp [argument, field]) hvalue
      have hmemberDefault : (knownArgument .variable o).member "defaultType" =
          [("defaultType", .string text)] :=
        member_knownArgument_of_get? (.mandatory "defaultType" .string)
          (by simp [argument, field]) hdefault
      simp [argument, field, Constraint.mandatory, FieldContent.members, hmemberName,
        hmemberTypes, hmemberDefault, ConnectionCheck.toJson_of_ofJson? htypes]

theorem kind_of_ofObject? {content : FieldContent}
    (hread : FieldContent.ofObject? o kind = some content) : content.kind = kind := by
  cases kind with
  | input kind => contradiction
  | checkbox | number | freeForm =>
      obtain rfl := Option.some.inj hread
      rfl
  | dropdown | text | «variable» =>
      -- However much is read first, the content comes last.
      simp only [FieldContent.ofObject?, Option.bind_eq_bind, Option.bind_eq_some_iff,
        Option.some.injEq] at hread
      grind [FieldContent.kind]

theorem toJson_field {name : String} {content : FieldContent}
    (hordered : (Json.object o).Ordered) (hproper : ProperArgument o kind)
    (hfield : kind.isInput = false) (hform : kind.isFreeForm = false)
    (hname : o.get? "name" = some (.string name))
    (hread : FieldContent.ofObject? o kind = some content) :
    (Argument.field name ((o.get? "colour").bind Json.string?) content).toJson =
      .object (knownArgument kind o) := by
  have hconstraints : (argument kind).constraints =
      argumentName :: fieldColour :: (argument kind).constraints.drop 2 := by
    cases kind with
    | input kind => contradiction
    | _ => rfl
  have hmembers : ("type" :: (argument kind).constraints.map Constraint.key).flatMap
      (knownArgument kind o).member =
        [("type", .string kind.name), ("name", .string name)] ++
          (((o.get? "colour").bind Json.string?).map
            fun c => ("colour", Json.string c)).toList ++ content.members := by
    rw [List.flatMap_cons, List.flatMap_map, hconstraints,
      ← members_content hordered hproper hform hread]
    simp [argumentName, fieldColour, Constraint.mandatory, Constraint.optional,
      member_type_knownArgument hproper, member_name_knownArgument hname,
      member_colour_knownArgument hproper hfield]
  have hknown : knownArgument kind o = o.refine (isArgumentKey kind) (argumentValue kind) := by
    simp [knownArgument, hform]
  rw [Argument.toJson, kind_of_ofObject? hread, hknown]
  rw [hknown] at hmembers
  exact (Json.ordered_object.1 hordered).1.ofMembers_eq_refine
    (fun _ => mem_of_isArgumentKey) hmembers

/-- A free-form argument comes back with every key and value it had. -/
theorem toJson_freeForm {name : String} {form : FreeFormKind} {properties : Object}
    (hordered : (Json.object o).Ordered) (hproper : ProperArgument o (.freeForm form))
    (hname : o.get? "name" = some (.string name))
    (hproperties : properties = o.filter fun m => !FieldContent.sharedKeys.contains m.1) :
    (Argument.field name ((o.get? "colour").bind Json.string?)
      (.freeForm form properties)).toJson = .object o := by
  have hasc : o.Ascending := (Json.ordered_object.1 hordered).1
  have htype : o.member "type" = [("type", .string form.name)] :=
    member_type_knownArgument hproper
  have hmemberName : o.member "name" = [("name", .string name)] :=
    Object.member_of_get? hname
  have hcolour : o.member "colour" =
      (((o.get? "colour").bind Json.string?).map fun c => ("colour", Json.string c)).toList :=
    member_colour_knownArgument hproper rfl
  have hrest : properties.keys.flatMap o.member = properties := by
    refine hasc.flatMap_member fun m hmem => ?_
    rw [hproperties] at hmem
    exact (List.mem_filter.1 hmem).1
  have hall : ∀ key ∈ o.keys, key ∈ FieldContent.sharedKeys ++ properties.keys := by
    intro key hkey
    obtain ⟨m, hmem, rfl⟩ := List.mem_map.1 hkey
    by_cases hshared : m.1 ∈ FieldContent.sharedKeys
    · exact List.mem_append_left _ hshared
    · refine List.mem_append_right _ (Object.mem_keys_of_mem ?_)
      rw [hproperties]
      exact List.mem_filter.2 ⟨hmem, by simpa using hshared⟩
  have hmembers : (FieldContent.sharedKeys ++ properties.keys).flatMap o.member =
      [("type", .string form.name), ("name", .string name)] ++
        (((o.get? "colour").bind Json.string?).map
          fun c => ("colour", Json.string c)).toList ++ properties := by
    rw [List.flatMap_append, hrest]
    simp [FieldContent.sharedKeys, htype, hmemberName, hcolour]
  rw [Argument.toJson, FieldContent.members, FieldContent.kind, ArgumentKind.name, ← hmembers,
    Json.ofMembers, hasc.ofList_flatMap_member hall]

theorem toJson_input {name : String} {form : InputKind}
    (hordered : (Json.object o).Ordered) (hproper : ProperArgument o (.input form))
    (hname : o.get? "name" = some (.string name)) :
    (Argument.input name form ((o.get? "check").bind ConnectionCheck.ofJson?)).toJson =
      .object (knownArgument (.input form) o) := by
  have hcheck : (knownArgument (.input form) o).member "check" =
      (((o.get? "check").bind ConnectionCheck.ofJson?).map
        fun c => ("check", c.toJson)).toList :=
    member_knownArgument (.optional "check" .connectionCheck [.distinctTypes]) hproper
      (by simp [argument]) fun _ _ hfits => ConnectionCheck.map_ofJson? hfits.shape
  have hmembers : ("type" :: (argument (.input form)).constraints.map Constraint.key).flatMap
      (knownArgument (.input form) o).member =
        [("type", .string form.name), ("name", .string name)] ++
          (((o.get? "check").bind ConnectionCheck.ofJson?).map
            fun c => ("check", c.toJson)).toList := by
    simp [argument, argumentName, Constraint.mandatory, Constraint.optional,
      member_type_knownArgument hproper, member_name_knownArgument hname, hcheck,
      ArgumentKind.name]
  exact (Json.ordered_object.1 hordered).1.ofMembers_eq_refine
    (fun _ => mem_of_isArgumentKey) hmembers

end Arguments

theorem toJson_argument {value : Json} {a : Argument} (hordered : value.Ordered)
    (hproper : ∃ o kind, value = .object o ∧ ProperArgument o kind)
    (hread : Argument.ofJson? value = some a) : a.toJson = ofArgument value := by
  obtain ⟨o, kind, rfl, hproper⟩ := hproper
  obtain ⟨name, hname⟩ := hproper.name
  have hnormal : ofArgument (.object o) = .object (knownArgument kind o) := by
    simp only [ofArgument, hproper.hasKind]
  rw [hnormal]
  simp only [Argument.ofJson?, Json.object?, hname, hproper.type, Json.string?,
    Option.bind_eq_bind, Option.bind_some, ArgumentKind.ofName?_name] at hread
  cases kind with
  | input form =>
      obtain rfl := Option.some.inj hread
      exact toJson_input hordered hproper hname
  | freeForm form =>
      obtain rfl := Option.some.inj hread
      exact toJson_freeForm hordered hproper hname rfl
  | _ =>
      obtain ⟨content, hcontent, heq⟩ := Option.bind_eq_some_iff.1 hread
      obtain rfl := Option.some.inj heq
      exact toJson_field hordered hproper rfl rfl hname hcontent

end NormalForm

end EditorBlocks
