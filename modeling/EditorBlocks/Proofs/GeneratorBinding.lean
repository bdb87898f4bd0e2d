import EditorBlocks.Generator
import EditorBlocks.Proofs.Independence
import EditorBlocks.Proofs.Provenance

/-!
# Generators and outputs

A block is built as a value block or as a statement block by what the validator makes
of all its connection keys.  A document that is accepted has keys of one family only,
so for it the key of the output decides, and with it the kind of generator that the
block can be given.  An output that is null counts: it takes values of any type.
-/

namespace EditorBlocks

open Validation

/-! ## Connections -/

/-- The document of a value block. -/
def HasOutput (document : Json) : Prop :=
  ∃ value, member? document "output" = some value

instance (document : Json) : Decidable (HasOutput document) :=
  decidable_of_iff ((member? document "output").isSome = true) Option.isSome_iff_exists

/-- What a generator for the block of the document must return. -/
def wantedSignature (document : Json) : Signature :=
  if HasOutput document then .valueWithPrecedence else .statementOnly

theorem ofConnections_ofObject? {o : Object} {connections : Connections}
    (hexclusive : ¬(Schema.hasValueKey o = true ∧ Schema.hasStatementKey o = true))
    (hread : Connections.ofObject? (variant o) o = some connections) :
    Signature.ofConnections connections = wantedSignature (.object o) := by
  have hwanted : HasOutput (.object o) ↔ ∃ value, o.get? "output" = some value := Iff.rfl
  rw [Connections.ofObject?_variant hexclusive] at hread
  cases houtput : o.get? "output" with
  | none =>
      rw [houtput] at hread
      obtain rfl := Option.some.inj hread
      rw [wantedSignature, if_neg (by simp [hwanted, houtput])]
      rfl
  | some output =>
      rw [houtput] at hread
      obtain ⟨check, -, rfl⟩ := Option.map_eq_some_iff.1 hread
      rw [wantedSignature, if_pos (hwanted.2 ⟨output, houtput⟩)]
      rfl

theorem Definition.type_of_ofObject? {kind : Variant} {o : Object} {slots : List Slot}
    {d : Definition} (hread : ofObject? kind o slots = some d) :
    o.get? "type" = some (.string d.type) := by
  simp only [Definition.ofObject?, Option.bind_eq_bind, Option.bind_eq_some_iff,
    Option.some.injEq] at hread
  obtain ⟨value, hvalue, type, htype, connections, -, rfl⟩ := hread
  rw [hvalue, Json.eq_of_string? htype]

/-- An accepted definition has the type of its document and asks for the generator
that its document wants. -/
theorem type_and_signature_of_accepted {c : Context} {document : Json} {d : Definition}
    (haccepted : (validate c document).definition = some d) :
    member? document "type" = some (.string d.type) ∧
      d.signature = wantedSignature document := by
  obtain ⟨o, rfl, hsilent, hread, -⟩ := slots_of_accepted haccepted
  -- Keys of both families would have been reported.
  have hexclusive := (properBlock_of_silent hsilent).exclusive
  have hconnections := (Definition.settledBy_of_ofObject? hread).connections
  refine ⟨?_, ofConnections_ofObject? hexclusive hconnections⟩
  rw [member?_eq]
  exact Definition.type_of_ofObject? hread

/-! ## Generators -/

namespace Generator

variable {Block : Type} {d : Definition} {g : Generator Block}

theorem bind_eq_ok_iff {bound : Bound Block} :
    bind d g = .ok bound ↔ d.signature = g.signature ∧ bound = ⟨d.type, g⟩ := by
  unfold bind
  by_cases hfits : d.signature = g.signature
  · rw [if_pos hfits, Except.ok.injEq, eq_comm]
    exact (and_iff_right hfits).symm
  · rw [if_neg hfits]
    exact iff_of_false nofun fun hbound => hfits hbound.1

theorem bind_eq_error (hmisfit : d.signature ≠ g.signature) :
    bind d g = .error ⟨d.type, d.signature, g.signature⟩ := by
  rw [bind, if_neg hmisfit]

theorem signature_eq_value_iff :
    g.signature = .valueWithPrecedence ↔ ∃ generate, g = .value generate := by
  cases g with
  | value generate => exact iff_of_true rfl ⟨generate, rfl⟩
  | statement generate => exact iff_of_false nofun nofun

/-- There are two signatures, so a generator has the one that is wanted when it
returns a precedence exactly for an output. -/
theorem wantedSignature_eq_iff {document : Json} :
    wantedSignature document = g.signature ↔
      ((∃ generate, g = .value generate) ↔ HasOutput document) := by
  rw [← signature_eq_value_iff, wantedSignature]
  by_cases houtput : HasOutput document
  · rw [if_pos houtput, iff_true_right houtput, eq_comm]
  · rw [if_neg houtput, iff_false_right houtput]
    cases g with
    | value generate => exact iff_of_false nofun fun hne => hne rfl
    | statement generate => exact iff_of_true rfl nofun

theorem isSome_precedence?_run (block : Block) :
    (g.run block).precedence?.isSome ↔ ∃ generate, g = .value generate := by
  cases g with
  | value generate => exact iff_of_true rfl ⟨generate, rfl⟩
  | statement generate => exact iff_of_false nofun nofun

/-- A generator can be bound to an accepted block when it returns a precedence
exactly if the document has an output, and the mismatch names both signatures
otherwise.  What a bound generator returns has a precedence exactly if the document
has an output, and is what the generator was given to return. -/
theorem bind_follows_output {c : Context} {document : Json} {d : Definition}
    (haccepted : (validate c document).definition = some d) (g : Generator Block) :
    member? document "type" = some (.string d.type) ∧
    ((∃ bound, bind d g = .ok bound) ↔
      ((∃ generate, g = .value generate) ↔ HasOutput document)) ∧
    ((¬∃ bound, bind d g = .ok bound) →
      bind d g = .error ⟨d.type, wantedSignature document, g.signature⟩) ∧
    ∀ bound, bind d g = .ok bound → bound.blockType = d.type ∧ ∀ block,
      ((bound.generator.run block).precedence?.isSome ↔ HasOutput document) ∧
      (∀ generate, g = .value generate →
        bound.generator.run block = .value (generate block).1 (generate block).2) ∧
      ∀ generate, g = .statement generate →
        bound.generator.run block = .statement (generate block) := by
  obtain ⟨htype, hsignature⟩ := type_and_signature_of_accepted haccepted
  have hbinds : (∃ bound, bind d g = .ok bound) ↔ d.signature = g.signature := by
    simp [bind_eq_ok_iff]
  refine ⟨htype, ?_, fun hunbound => ?_, fun bound hbound => ?_⟩
  · rw [hbinds, hsignature, wantedSignature_eq_iff]
  · rw [bind_eq_error (mt hbinds.2 hunbound), hsignature]
  · obtain ⟨hfits, rfl⟩ := bind_eq_ok_iff.1 hbound
    refine ⟨rfl, fun block => ⟨?_, ?_, ?_⟩⟩
    · rw [isSome_precedence?_run]
      exact wantedSignature_eq_iff.1 (hsignature ▸ hfits)
    · rintro generate rfl
      rfl
    · rintro generate rfl
      rfl

/-- An output that is null asks for a precedence. -/
theorem bind_follows_output_null :
    let document := Json.object [("output", .null), ("type", .string "roll")]
    let d : Definition := ⟨"roll", .value .any, [], none, none, none, none, none, none, none⟩
    let six : Generator String := .value fun block => (block ++ "()", 6)
    let bare : Generator String := .statement fun block => block ++ "()"
    (validate ⟨.strict, none, none, []⟩ document).definition = some d ∧ HasOutput document ∧
      (∃ bound, bind d six = .ok bound ∧ bound.generator.run "roll" = .value "roll()" 6) ∧
      bind d bare = .error ⟨"roll", .valueWithPrecedence, .statementOnly⟩ := by
  intro document d six bare
  have haccepted : (validate ⟨.strict, none, none, []⟩ document).definition = some d := by
    decide +kernel
  have houtput : HasOutput document := ⟨.null, rfl⟩
  obtain ⟨-, hbinds, -, hrun⟩ := bind_follows_output haccepted six
  obtain ⟨-, hbare, hmismatch, -⟩ := bind_follows_output haccepted bare
  obtain ⟨bound, hbound⟩ := hbinds.2 (iff_of_true ⟨_, rfl⟩ houtput)
  refine ⟨haccepted, houtput, ⟨bound, hbound, ?_⟩, ?_⟩
  · exact ((hrun bound hbound).2 "roll").2.1 _ rfl
  · refine hmismatch fun hbound => ?_
    obtain ⟨generate, hgenerate⟩ := (hbare.1 hbound).2 houtput
    exact nomatch hgenerate

end Generator

end EditorBlocks
