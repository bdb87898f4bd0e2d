import EditorBlocks.Proofs.ReportOrder
import EditorBlocks.Proofs.UnknownKeys

/-!
# Registered names

Extensions and mutators are called by their names, and a validation may be told
which names there are.  A list of names adds one report for each name that is
called and not listed, at its place, and takes no report away.  So a document is
accepted when it is accepted without the lists and its names are in them; and the
more names are listed the less is reported, in whatever order they are listed.
-/

namespace EditorBlocks.Validation

open Violations

/-- Without a list every name is registered. -/
def Registered (known : Option (List String)) (name : String) : Prop :=
  ∀ names ∈ known, name ∈ names

instance (known : Option (List String)) (name : String) : Decidable (Registered known name) :=
  inferInstanceAs (Decidable (∀ names ∈ known, name ∈ names))

/-! ## The names that a document calls -/

def namedExtensions (document : Json) : List String :=
  ((member? document "extensions").bind Json.strings?).getD []

def namedMutator? (document : Json) : Option String :=
  (member? document "mutator").bind Json.string?

/-- The names of the extensions with their places. -/
def extensionPlaces (path : Path) (document : Json) : List (String × Path) :=
  (namedExtensions document).zipIdx.map fun (name, position) =>
    (name, path ++ [.key "extensions", .index position])

def mutatorPlaces (path : Path) (document : Json) : List (String × Path) :=
  (namedMutator? document).toList.map fun name => (name, path ++ [.key "mutator"])

/-! ## What is reported of names -/

def unregisteredReport (what name : String) (place : Path) : Violation :=
  ⟨place, .notListed, what ++ " '" ++ name ++ "' is not registered", .error⟩

/-- One report at the place of every name that is not registered. -/
def unregistered (what : String) (known : Option (List String))
    (places : List (String × Path)) : Violations :=
  (places.filter fun called => ¬Registered known called.1).map fun called =>
    unregisteredReport what called.1 called.2

section Reports

variable {what : String} {known : Option (List String)}

theorem permits_iff_registered {name : String} :
    Registry.permits (known.map .ofList) name = true ↔ Registered known name := by
  cases known with
  | none => simp [Registry.permits, Registered]
  | some names => simp [Registry.permits, Registered, Registry.has_ofList]

theorem unregistered_none (places : List (String × Path)) : unregistered what none places = [] := by
  have hall : ∀ name, Registered none name := by
    intro name names hnames
    contradiction
  simp [unregistered, hall]

theorem checkRegistered_eq (place : Path) (name : String) :
    checkRegistered what (known.map .ofList) place name =
      if Registered known name then [] else [unregisteredReport what name place] := by
  rw [checkRegistered]
  by_cases hknown : Registered known name
  · rw [if_pos hknown, if_pos (permits_iff_registered.2 hknown)]
  · rw [if_neg hknown, if_neg (mt permits_iff_registered.1 hknown)]
    rfl

theorem unregistered_cons (called : String × Path) (places : List (String × Path)) :
    unregistered what known (called :: places) =
      (if Registered known called.1 then [] else [unregisteredReport what called.1 called.2]) ++
        unregistered what known places := by
  by_cases hknown : Registered known called.1
  · simp [unregistered, hknown]
  · simp [unregistered, hknown]

theorem flatMap_checkRegistered (places : List (String × Path)) :
    places.flatMap (fun called =>
      checkRegistered what (known.map .ofList) called.2 called.1) =
      unregistered what known places := by
  induction places with
  | nil => rfl
  | cons called rest ih => rw [List.flatMap_cons, ih, checkRegistered_eq, unregistered_cons]

/-- They are errors already, so promotion leaves them as they are. -/
theorem reported_unregistered (mode : Mode) (path : Path) (places : List (String × Path)) :
    reported mode path (unregistered what known places) =
      unregistered what known (places.map fun called => (called.1, path ++ called.2)) := by
  unfold reported
  by_cases hblock : mode.warningsBlock = true
  · rw [if_pos hblock]
    simp only [unregistered, under, toErrors, List.filter_map, List.map_map]
    rfl
  · rw [if_neg hblock]
    simp only [unregistered, under, List.filter_map, List.map_map]
    rfl

theorem hasErrors_unregistered (places : List (String × Path)) :
    (unregistered what known places).hasErrors = false ↔
      ∀ name ∈ places.map Prod.fst, Registered known name := by
  induction places with
  | nil => simp [unregistered, hasErrors]
  | cons called rest ih =>
      rw [unregistered_cons, hasErrors_append, Bool.or_eq_false_iff, ih, List.map_cons,
        List.forall_mem_cons]
      refine and_congr_left fun _ => ?_
      by_cases hknown : Registered known called.1
      · rw [if_pos hknown]
        exact iff_of_true rfl hknown
      · have herror : hasErrors [unregisteredReport what called.1 called.2] = true := rfl
        rw [if_neg hknown, herror]
        exact iff_of_false (by decide) hknown

theorem unregistered_sublist {more : Option (List String)}
    (hmore : ∀ name, Registered known name → Registered more name)
    (places : List (String × Path)) :
    (unregistered what more places).Sublist (unregistered what known places) := by
  refine List.Sublist.map _ (List.monotone_filter_right places fun called hunknown => ?_)
  rw [decide_eq_true_iff] at hunknown ⊢
  exact fun hknown => hunknown (hmore called.1 hknown)

end Reports

/-! ## The checks of a block -/

section Blocks

variable (known : Option (List String)) (o : Object)

theorem checkExtensions_eq :
    checkExtensions [] (known.map .ofList) o =
      unregistered "extension" known (extensionPlaces [] (.object o)) := by
  rw [checkExtensions, strings?_rootValue?, extensionPlaces, namedExtensions, member?_eq,
    ← flatMap_checkRegistered, List.flatMap_map]
  change _ = ((((o.get? "extensions").bind Json.strings?).getD []).zipIdx).flatMap _
  cases (o.get? "extensions").bind Json.strings? with
  | none => rfl
  | some names => rfl

theorem checkMutator_eq :
    checkMutator [] (known.map .ofList) o =
      unregistered "mutator" known (mutatorPlaces [] (.object o)) := by
  rw [checkMutator, string?_rootValue?, mutatorPlaces, namedMutator?, member?_eq,
    ← flatMap_checkRegistered, List.flatMap_map]
  change _ = (((o.get? "mutator").bind Json.string?).toList).flatMap _
  cases (o.get? "mutator").bind Json.string? with
  | none => rfl
  | some name => simp

end Blocks

/-! ## Documents -/

theorem map_extensionPlaces (path : Path) (document : Json) :
    (extensionPlaces [] document).map (fun called => (called.1, path ++ called.2)) =
      extensionPlaces path document := by
  rw [extensionPlaces, extensionPlaces, List.map_map]
  rfl

theorem map_mutatorPlaces (path : Path) (document : Json) :
    (mutatorPlaces [] document).map (fun called => (called.1, path ++ called.2)) =
      mutatorPlaces path document := by
  rw [mutatorPlaces, mutatorPlaces, List.map_map]
  rfl

theorem names_extensionPlaces (path : Path) (document : Json) :
    (extensionPlaces path document).map Prod.fst = namedExtensions document := by
  rw [extensionPlaces, List.map_map]
  exact List.zipIdx_map_fst 0 _

theorem names_mutatorPlaces (path : Path) (document : Json) :
    (mutatorPlaces path document).map Prod.fst = (namedMutator? document).toList := by
  rw [mutatorPlaces, List.map_map]
  exact List.map_id _

/-- Only what is said of names depends on the lists of names. -/
theorem exists_checkDocument_eq (mode : Mode) (path : Path) (document : Json) :
    ∃ before after : Violations, ∀ extensions mutators : Option (List String),
      checkDocument
          (Context.atRoot ⟨mode, extensions.map .ofList, mutators.map .ofList, path⟩) document =
        before ++ unregistered "extension" extensions (extensionPlaces [] document) ++
          unregistered "mutator" mutators (mutatorPlaces [] document) ++ after := by
  cases document with
  | object o =>
      refine ⟨checkVariant [] o ++ checkConstraints mode o (rootConstraints o) ++
        checkUnknownKeys [] Schema.isRootKey o ++ checkColours mode o,
        Schema.slots.flatMap (checkSlot mode o), fun extensions mutators => ?_⟩
      rw [checkDocument, checkBlock_atRoot, checkExtensions_eq, checkMutator_eq]
  | null | bool | number | string | list =>
      exact ⟨[(Finding.notABlock _).violation []], [], fun extensions mutators => rfl⟩

/-- Lists of registered names add a report for each name that a document calls and
that is not listed, and nothing else.  So a document is accepted with the lists when
it is accepted without them and all its names are listed, and gives the same
definition; and more names never add a report. -/
theorem registries_only_report_names (mode : Mode) (path : Path) (document : Json) :
    let report := fun extensions mutators : Option (List String) =>
      validate ⟨mode, extensions.map .ofList, mutators.map .ofList, path⟩ document
    (∃ before after : Violations, (report none none).violations = before ++ after ∧
      ∀ extensions mutators, (report extensions mutators).violations =
        before ++ unregistered "extension" extensions (extensionPlaces path document) ++
          unregistered "mutator" mutators (mutatorPlaces path document) ++ after) ∧
    (∀ extensions mutators d, (report extensions mutators).definition = some d ↔
      (report none none).definition = some d ∧
        (∀ name ∈ namedExtensions document, Registered extensions name) ∧
        ∀ name ∈ namedMutator? document, Registered mutators name) ∧
    ∀ extensions mutators moreExtensions moreMutators,
      (∀ name, Registered extensions name → Registered moreExtensions name) →
      (∀ name, Registered mutators name → Registered moreMutators name) →
      (report moreExtensions moreMutators).violations.Sublist
        (report extensions mutators).violations := by
  intro report
  obtain ⟨checkedBefore, checkedAfter, hchecked⟩ := exists_checkDocument_eq mode path document
  let before := reported mode path checkedBefore
  let after := reported mode path checkedAfter
  have hreport : ∀ extensions mutators, (report extensions mutators).violations =
      before ++ unregistered "extension" extensions (extensionPlaces path document) ++
        unregistered "mutator" mutators (mutatorPlaces path document) ++ after := by
    intro extensions mutators
    simp only [report, violations_validate, hchecked, reported_append, reported_unregistered,
      map_extensionPlaces, map_mutatorPlaces, before, after]
  have hfree : (report none none).violations = before ++ after := by
    rw [hreport, unregistered_none, unregistered_none, List.append_nil, List.append_nil]
  refine ⟨⟨before, after, hfree, hreport⟩, fun extensions mutators d => ?_, ?_⟩
  · have hclean : (report extensions mutators).violations.hasErrors = false ↔
        (report none none).violations.hasErrors = false ∧
          (∀ name ∈ namedExtensions document, Registered extensions name) ∧
          ∀ name ∈ namedMutator? document, Registered mutators name := by
      have hmutator : (unregistered "mutator" mutators
            (mutatorPlaces path document)).hasErrors = false ↔
          ∀ name ∈ namedMutator? document, Registered mutators name := by
        rw [hasErrors_unregistered, names_mutatorPlaces]
        simp
      rw [hreport, hfree]
      simp only [hasErrors_append, Bool.or_eq_false_iff, hmutator, hasErrors_unregistered,
        names_extensionPlaces]
      tauto
    rw [definition_eq_some_iff, definition_eq_some_iff]
    exact (and_congr_left fun _ => hclean).trans and_right_comm
  · intro extensions mutators moreExtensions moreMutators hextensions hmutators
    rw [hreport, hreport]
    exact (((List.Sublist.refl before).append (unregistered_sublist hextensions _)).append
      (unregistered_sublist hmutators _)).append (List.Sublist.refl after)

end EditorBlocks.Validation
