import EditorBlocks.Output.Human
import EditorBlocks.Proofs.Spelling

/-!
# What a report quotes

The wording of a report is plain: it consists of printable characters of ASCII.
Whatever else stands on the line of a violation comes from the texts that the line
quotes, which are the keys of its path and the texts of what was found.
-/

namespace EditorBlocks

/-! ## Plain and other characters -/

namespace Text

/-- A printable character of ASCII. -/
def isPlain (c : Char) : Bool := 0x20 ≤ c.toNat && c.toNat ≤ 0x7e

/-- The characters of a text that are not plain, in order. -/
def foreign (s : String) : List Char := s.toList.filter fun c => !isPlain c

theorem mem_foreign_iff {c : Char} {s : String} :
    c ∈ foreign s ↔ c ∈ s.toList ∧ isPlain c = false := by
  rw [foreign, List.mem_filter, Bool.not_eq_true']

@[simp]
theorem foreign_append (s t : String) : foreign (s ++ t) = foreign s ++ foreign t := by
  rw [foreign, String.toList_append, List.filter_append]
  rfl

theorem foreign_of_plain {s : String} (hplain : s.toList.all isPlain = true) :
    foreign s = [] := by
  rw [List.all_eq_true] at hplain
  rw [foreign, List.filter_eq_nil_iff]
  intro c hc
  simp [hplain c hc]

theorem foreign_join (texts : List String) :
    foreign (String.join texts) = texts.flatMap foreign := by
  induction texts with
  | nil => rfl
  | cons s rest ih => rw [String.join_cons, foreign_append, ih, List.flatMap_cons]

theorem foreign_intercalate {mark : String} (hmark : foreign mark = []) (texts : List String) :
    foreign (mark.intercalate texts) = texts.flatMap foreign := by
  induction texts with
  | nil => rfl
  | cons s rest ih =>
      cases rest with
      | nil => simp
      | cons t others =>
          rw [String.intercalate_cons_cons, foreign_append, foreign_append, hmark, ih]
          simp

theorem isPlain_of_isDigit {c : Char} (hdigit : c.isDigit = true) : isPlain c = true := by
  simp only [Char.isDigit, Bool.and_eq_true, decide_eq_true_eq, UInt32.le_iff_toNat_le] at hdigit
  simp only [isPlain, Bool.and_eq_true, decide_eq_true_eq, Char.toNat]
  change 48 ≤ c.val.toNat ∧ c.val.toNat ≤ 57 at hdigit
  omega

theorem foreign_toString (n : Nat) : foreign (toString n) = [] := by
  apply foreign_of_plain
  rw [List.all_eq_true]
  intro c hc
  rw [Nat.toString_eq_ofList_toDigits, String.toList_ofList] at hc
  exact isPlain_of_isDigit (Nat.isDigit_of_mem_toDigits (by decide) (by decide) hc)

end Text

/-! ## The wordings of what is found -/

namespace Decimal.Layout

open Text

theorem foreign_zeros (n : Nat) : foreign (zeros n) = [] := by
  apply foreign_of_plain
  rw [List.all_eq_true]
  intro c hc
  rw [zeros, String.toList_ofList, List.mem_replicate] at hc
  rw [hc.2]
  rfl

theorem foreign_ofList {digits : String} {part : List Char} (hdigits : foreign digits = [])
    (hpart : part ⊆ digits.toList) : foreign (String.ofList part) = [] := by
  rw [foreign, List.filter_eq_nil_iff] at hdigits ⊢
  intro c hc
  rw [String.toList_ofList] at hc
  exact hdigits c (hpart hc)

/-- A number is written with digits, a point and a sign. -/
theorem foreign_message (x : Float) : foreign (message.float x) = [] := by
  have htext : ∀ d : Decimal, foreign (message.text d) = [] := by
    intro d
    have hdigits := foreign_toString d.digits
    unfold text
    split
    · rfl
    · simp only [message, positionalText]
      split_ifs
      · rw [foreign_append, foreign_append, foreign_zeros, hdigits]
        rfl
      · contradiction
      · rw [foreign_append, foreign_append, foreign_zeros, hdigits]
        rfl
      · rw [foreign_append, foreign_append, foreign_ofList hdigits (List.take_subset _ _),
          foreign_ofList hdigits (List.drop_subset _ _)]
        rfl
  rw [float, foreign_append, htext, List.append_nil]
  split <;> rfl

end Decimal.Layout

namespace Validation.Finding

open Text

/-- The texts that a finding quotes, in the order of its wording. -/
def texts : Finding → List String
  | missing key | mismatch key .. | unknownKey key | emptyList key | negative key _
  | acceptsNothing key => [key]
  | cannotCombine field other => [field, other]
  | notListed value key allowed => value :: key :: allowed
  | notRegistered what name => [what, name]
  | defaultTypeNotListed type types => [type, types]
  | unknownArgumentType name | duplicateName name _ => [name]
  | placeholderOutOfRange _ written _ argumentsKey => [written, argumentsKey]
  | unreferencedArgument _ name messageKey => name.toList ++ [messageKey]
  | withoutMessage key messageKey | idleAlign key messageKey => [key, messageKey]
  | notABlock _ | notAnArgument _ | colourIgnored | hueOutOfRange _ | repeatedType _
  | malformedOption _ | repeatedOption _ | minAboveMax .. | belowMin .. | aboveMax ..
  | argumentTypeMissing | argumentTypeMismatch _ | duplicatePlaceholder _ => []

theorem foreign_describe_json (value : Json) : foreign value.describe = [] := by
  cases value <;> simp only [Json.describe] <;> exact foreign_of_plain rfl

theorem foreign_describe_shape (shape : Schema.Shape) : foreign shape.describe = [] := by
  cases shape <;> exact foreign_of_plain rfl

theorem foreign_number (x : Float) : foreign (number x) = [] :=
  Decimal.Layout.foreign_message x

theorem foreign_unnamed (name : Option String) :
    foreign (name.getD "<unnamed>") = name.toList.flatMap foreign := by
  cases name with
  | none => rfl
  | some name => exact (List.flatMap_singleton _ _).symm

/-- The wording of a finding is plain apart from what it quotes. -/
theorem foreign_detail (f : Finding) : foreign f.detail = f.texts.flatMap foreign := by
  have hlisted : ∀ names : List String,
      foreign (", ".intercalate names) = names.flatMap foreign :=
    foreign_intercalate rfl
  delta detail texts
  cases f <;> dsimp only <;>
    simp (disch := decide +kernel) only [foreign_append, foreign_of_plain, foreign_toString,
      foreign_number, foreign_describe_json, foreign_describe_shape, foreign_unnamed, hlisted,
      List.flatMap_cons, List.flatMap_nil, List.flatMap_append, List.nil_append, List.append_nil,
      List.append_assoc]

end Validation.Finding

/-! ## The line of a violation -/

/-- The keys on a path. -/
def Path.names (path : Path) : List String :=
  path.filterMap fun
    | .key name => some name
    | .index _ => none

@[simp]
theorem Path.names_append (above below : Path) :
    Path.names (above ++ below) = Path.names above ++ Path.names below :=
  List.filterMap_append

namespace Text

theorem foreign_segments (path : Path) :
    (path.map Segment.text).flatMap foreign = (Path.names path).flatMap foreign := by
  induction path with
  | nil => rfl
  | cons segment rest ih =>
      rw [List.map_cons, List.flatMap_cons, ih]
      cases segment with
      | key name =>
          have hdot : foreign "." = [] := rfl
          rw [Segment.text, foreign_append, hdot]
          rfl
      | index position =>
          rw [Segment.text, foreign_append, foreign_append, foreign_toString]
          rfl

theorem foreign_path (path : Path) :
    foreign (Path.text path) = (Path.names path).flatMap foreign := by
  have hroot : foreign "$" = [] := rfl
  rw [Path.text, foreign_append, hroot, foreign_join, foreign_segments]
  rfl

theorem foreign_kind (kind : Violation.Kind) : foreign kind.text = [] := by
  have hcode : foreign kind.code = [] := by
    cases kind <;> simp only [Violation.Kind.code] <;> exact foreign_of_plain rfl
  unfold Violation.Kind.text
  cases kind.number? with
  | none => exact hcode
  | some n =>
      have hopen : foreign "(" = [] := rfl
      simp only [foreign_append, hcode, hopen, foreign_toString]
      rfl

/-- Beside what its path and its wording quote, the line of a violation is plain. -/
theorem foreign_line (v : Violation) :
    foreign v.line = (Path.names v.path).flatMap foreign ++ foreign v.detail := by
  have hseverity : foreign (padded 7 v.severity.name) = [] := by
    cases v.severity <;> rfl
  simp (disch := decide +kernel) only [Violation.line, foreign_append, foreign_path, foreign_kind,
    foreign_of_plain, hseverity, List.nil_append, List.append_nil]

end Text

end EditorBlocks
