import EditorBlocks.Template
import Mathlib.Data.List.Chain

/-!
# How templates are spelled

A list of tokens spells a template when the spellings of its tokens, one after the
other, make it up.  Many lists spell the same template; in the canonical one no
text could be read as part of its neighbours or holds a token itself.  Every
template is spelled by one canonical list, and that is the list of its tokens.
-/

namespace EditorBlocks.Template

/-! ## Spellings -/

/-- A decimal number, with any zeros before it. -/
structure Digits (digits : List Char) : Prop where
  ne_nil : digits ≠ []
  digit : ∀ c ∈ digits, c.isDigit = true

/-- The ways to write a token. -/
inductive Token.Writes : Token → List Char → Prop where
  | text (literal : String) : Writes (.text literal) literal.toList
  | escape : Writes .escape ['%', '%']
  | placeholder {digits : List Char} (hdigits : Digits digits) :
      Writes (.placeholder (Nat.ofDigitChars 10 digits 0)) ('%' :: digits)
  | oversized (digits : String) : Writes (.oversized digits) ('%' :: digits.toList)

inductive Spells : List Token → List Char → Prop where
  | nil : Spells [] []
  | cons {token : Token} {tokens : List Token} {part text : List Char}
      (hpart : token.Writes part) (hrest : Spells tokens text) :
      Spells (token :: tokens) (part ++ text)

/-- No percent sign comes before another one or before a digit. -/
def Plain (text : List Char) : Prop :=
  text.IsChain fun c next => c = '%' → next ≠ '%' ∧ next.isDigit = false

/-- What a token is by itself: a text holds no other token, and numbers from `2 ^ 64`
on are oversized. -/
def Token.Proper : Token → Prop
  | .text literal => literal ≠ "" ∧ Plain literal.toList
  | .escape => True
  | .placeholder n => n < numberLimit
  | .oversized digits => Digits digits.toList ∧ numberLimit ≤ Nat.ofDigitChars 10 digits.toList 0

/-- Whether a token may come right before another one: no text before a text, none
that ends in a percent sign before anything, and no number before a digit. -/
def Token.Precedes : Token → Token → Prop
  | .text _, .text _ => False
  | .text literal, _ => literal.toList.getLast? ≠ some '%'
  | .placeholder _, .text literal | .oversized _, .text literal =>
    ∀ c ∈ literal.toList.head?, c.isDigit = false
  | _, _ => True

structure Canonical (tokens : List Token) : Prop where
  proper : ∀ token ∈ tokens, token.Proper
  adjoining : tokens.IsChain Token.Precedes

theorem canonical_cons_iff {token : Token} {tokens : List Token} :
    Canonical (token :: tokens) ↔
      token.Proper ∧ (∀ next ∈ tokens.head?, token.Precedes next) ∧ Canonical tokens := by
  constructor
  · intro hcanonical
    have hproper := List.forall_mem_cons.1 hcanonical.proper
    have hadjoining := List.isChain_cons.1 hcanonical.adjoining
    exact ⟨hproper.1, hadjoining.1, hproper.2, hadjoining.2⟩
  · intro hparts
    constructor
    · exact List.forall_mem_cons.2 ⟨hparts.1, hparts.2.2.proper⟩
    · exact List.isChain_cons.2 ⟨hparts.2.1, hparts.2.2.adjoining⟩

/-- A canonical list that spells the text. -/
structure Reading (tokens : List Token) (text : List Char) : Prop where
  spelled : Spells tokens text
  canonical : Canonical tokens

namespace Reading

variable {token : Token} {tokens : List Token} {part text : List Char}

theorem nil : Reading [] [] := ⟨.nil, nofun, .nil⟩

theorem cons (hpart : token.Writes part) (hproper : token.Proper)
    (hnext : ∀ next ∈ tokens.head?, token.Precedes next) (hread : Reading tokens text) :
    Reading (token :: tokens) (part ++ text) :=
  ⟨.cons hpart hread.spelled, canonical_cons_iff.2 ⟨hproper, hnext, hread.canonical⟩⟩

theorem escape (hread : Reading tokens text) :
    Reading (.escape :: tokens) ('%' :: '%' :: text) := by
  refine cons .escape trivial ?_ hread
  intro next _
  cases next <;> trivial

end Reading

/-! ## Numbers -/

namespace Digits

variable {digits : List Char}

theorem singleton {c : Char} (hc : c.isDigit = true) : Digits [c] := by
  constructor
  · exact List.cons_ne_nil c []
  · intro d hd
    rwa [List.mem_singleton.1 hd]

theorem concat (hdigits : Digits digits) {c : Char} (hc : c.isDigit = true) :
    Digits (digits ++ [c]) := by
  constructor
  · exact List.append_ne_nil_of_left_ne_nil hdigits.ne_nil [c]
  · intro d hd
    rcases List.mem_append.1 hd with hbefore | hlast
    · exact hdigits.digit d hbefore
    · rwa [List.mem_singleton.1 hlast]

/-- The decimal digits of a number. -/
theorem toDigits (n : Nat) : Digits (Nat.toDigits 10 n) := by
  constructor
  · exact Nat.toDigits_ne_nil
  · intro c hc
    exact Nat.isDigit_of_mem_toDigits (by decide) (by decide) hc

theorem ofDigits_of_lt (hlt : Nat.ofDigitChars 10 digits 0 < numberLimit) :
    Token.ofDigits digits = .placeholder (Nat.ofDigitChars 10 digits 0) :=
  if_pos hlt

theorem ofDigits_of_le (hle : numberLimit ≤ Nat.ofDigitChars 10 digits 0) :
    Token.ofDigits digits = .oversized (String.ofList digits) :=
  if_neg (Nat.not_lt.2 hle)

theorem writes (hdigits : Digits digits) : (Token.ofDigits digits).Writes ('%' :: digits) := by
  by_cases hlt : Nat.ofDigitChars 10 digits 0 < numberLimit
  · rw [ofDigits_of_lt hlt]
    exact .placeholder hdigits
  · rw [ofDigits_of_le (Nat.not_lt.1 hlt)]
    simpa using Token.Writes.oversized (String.ofList digits)

theorem proper (hdigits : Digits digits) : (Token.ofDigits digits).Proper := by
  by_cases hlt : Nat.ofDigitChars 10 digits 0 < numberLimit
  · rw [ofDigits_of_lt hlt]
    exact hlt
  · have hle := Nat.not_lt.1 hlt
    rw [ofDigits_of_le hle, Token.Proper, String.toList_ofList]
    exact ⟨hdigits, hle⟩

theorem ofDigits_precedes_iff {next : Token} :
    (Token.ofDigits digits).Precedes next ↔
      ∀ literal, next = .text literal → ∀ c ∈ literal.toList.head?, c.isDigit = false := by
  have hnumber : (∃ n, Token.ofDigits digits = .placeholder n) ∨
      ∃ written, Token.ofDigits digits = .oversized written := by
    by_cases hlt : Nat.ofDigitChars 10 digits 0 < numberLimit
    · exact .inl ⟨_, ofDigits_of_lt hlt⟩
    · exact .inr ⟨_, ofDigits_of_le (Nat.not_lt.1 hlt)⟩
  cases next with
  | text literal =>
      rcases hnumber with ⟨n, hnumber⟩ | ⟨written, hnumber⟩
      · simp [hnumber, Token.Precedes]
      · simp [hnumber, Token.Precedes]
  | _ =>
      rcases hnumber with ⟨n, hnumber⟩ | ⟨written, hnumber⟩
      · simp [hnumber, Token.Precedes]
      · simp [hnumber, Token.Precedes]

end Digits

/-- No token that begins with a digit comes after a number exactly when the template
does not go on with one. -/
theorem Reading.ofDigits_precedes_iff {tokens : List Token} {text : List Char}
    (hread : Reading tokens text) (digits : List Char) :
    (∀ next ∈ tokens.head?, (Token.ofDigits digits).Precedes next) ↔
      ∀ c ∈ text.head?, c.isDigit = false := by
  simp only [Digits.ofDigits_precedes_iff]
  cases hread.spelled with
  | nil => simp
  | @cons token tokens part text hpart hrest =>
      have hproper := (canonical_cons_iff.1 hread.canonical).1
      cases hpart with
      | text literal =>
          have hne : literal.toList ≠ [] := by simpa using hproper.1
          simp [List.head?_append_of_ne_nil _ hne]
      | escape => simp
      | placeholder hdigits => simp
      | oversized digits => simp

theorem Reading.number {digits : List Char} (hdigits : Digits digits) {tokens : List Token}
    {text : List Char} (hread : Reading tokens text)
    (hend : ∀ c ∈ text.head?, c.isDigit = false) :
    Reading (.ofDigits digits :: tokens) ('%' :: digits ++ text) :=
  hread.cons hdigits.writes hdigits.proper ((hread.ofDigits_precedes_iff digits).2 hend)

/-! ## Texts -/

theorem ne_percent_of_isDigit {c : Char} (hdigit : c.isDigit = true) : c ≠ '%' := by
  intro hpercent
  subst hpercent
  contradiction

theorem proper_text {read : List Char} (hplain : Plain read) (hne : read ≠ []) :
    (Token.text (String.ofList read)).Proper := by
  simpa [Token.Proper, hne] using hplain

theorem text_precedes_iff {literal : String} {next : Token} :
    (Token.text literal).Precedes next ↔
      (∀ other, next ≠ .text other) ∧ literal.toList.getLast? ≠ some '%' := by
  cases next with
  | text other => simp [Token.Precedes]
  | _ => simp [Token.Precedes]

/-- A text as far as it was read, which does not end in a percent sign. -/
structure ReadText (read : List Char) : Prop where
  plain : Plain read
  getLast?_ne : read.getLast? ≠ some '%'

namespace ReadText

variable {read : List Char}

theorem nil : ReadText [] := ⟨.nil, nofun⟩

theorem plain_concat (hread : ReadText read) (c : Char) : Plain (read ++ [c]) := by
  refine List.isChain_append.2 ⟨hread.plain, .singleton c, ?_⟩
  intro last hlast next _ hpercent
  subst hpercent
  exact absurd hlast hread.getLast?_ne

theorem concat (hread : ReadText read) {c : Char} (hc : c ≠ '%') : ReadText (read ++ [c]) := by
  constructor
  · exact hread.plain_concat c
  · simpa using hc

theorem concat_percent (hread : ReadText read) {c : Char} (hc : c ≠ '%')
    (hdigit : c.isDigit = false) : ReadText (read ++ ['%', c]) := by
  have hpair : Plain ['%', c] := .cons_cons (fun _ => ⟨hc, hdigit⟩) (.singleton c)
  constructor
  · exact List.isChain_split.2 ⟨hread.plain_concat '%', hpair⟩
  · simpa using hc

end ReadText

theorem literal_of_ne_nil {read : List Char} (hne : read ≠ []) :
    literal read = [.text (String.ofList read)] := by
  cases read with
  | nil => contradiction
  | cons c rest => rfl

theorem reading_literal {read : List Char} (hplain : Plain read) : Reading (literal read) read := by
  by_cases hnil : read = []
  · subst hnil
    exact .nil
  · have hsingle := Reading.cons (.text (String.ofList read)) (proper_text hplain hnil)
      (by simp) .nil
    rw [literal_of_ne_nil hnil]
    simpa using hsingle

/-- A text is read up to where another token begins. -/
theorem Reading.literal_append {read : List Char} (hread : ReadText read) {token : Token}
    (htoken : ∀ literal, token ≠ .text literal) {tokens : List Token} {text : List Char}
    (hrest : Reading (token :: tokens) text) :
    Reading (literal read ++ token :: tokens) (read ++ text) := by
  by_cases hnil : read = []
  · subst hnil
    exact hrest
  · have hprecedes : (Token.text (String.ofList read)).Precedes token := by
      rw [text_precedes_iff, String.toList_ofList]
      exact ⟨htoken, hread.getLast?_ne⟩
    have hlonger := hrest.cons (.text (String.ofList read)) (proper_text hread.plain hnil)
      (by simpa using hprecedes)
    rw [literal_of_ne_nil hnil]
    simpa using hlonger

/-! ## The tokens of a template spell it -/

theorem exists_ofDigits_of_scanNumber (digits text : List Char) :
    ∃ read tokens, scanNumber digits text = .ofDigits read :: tokens := by
  induction text generalizing digits with
  | nil => exact ⟨digits, [], rfl⟩
  | cons c rest ih =>
      rw [scanNumber]
      split_ifs
      · exact ih (digits ++ [c])
      · exact ⟨digits, _, rfl⟩
      · exact ⟨digits, _, rfl⟩

theorem ofDigits_ne_text (digits : List Char) (literal : String) :
    Token.ofDigits digits ≠ .text literal := by
  unfold Token.ofDigits
  dsimp only
  split_ifs <;> nofun

/-- Whatever was read of a text or a number before, what follows is read to its end,
and the tokens are a canonical list that spells both. -/
structure ReadsOn (rest : List Char) : Prop where
  text : ∀ read, ReadText read → Reading (scanText read rest) (read ++ rest)
  percent : ∀ read, ReadText read → Reading (scanPercent read rest) (read ++ '%' :: rest)
  number : ∀ digits, Digits digits → Reading (scanNumber digits rest) ('%' :: digits ++ rest)

namespace ReadsOn

theorem nil : ReadsOn [] := by
  constructor
  · intro read hread
    simpa [scanText] using reading_literal hread.plain
  · intro read hread
    exact reading_literal (hread.plain_concat '%')
  · intro digits hdigits
    exact Reading.nil.number hdigits nofun

variable {rest : List Char} (hrest : ReadsOn rest) (c : Char)
include hrest

theorem text_cons {read : List Char} (hread : ReadText read) :
    Reading (scanText read (c :: rest)) (read ++ c :: rest) := by
  rw [scanText]
  by_cases hpercent : c = '%'
  · rw [if_pos hpercent, hpercent]
    exact hrest.percent read hread
  · rw [if_neg hpercent]
    simpa using hrest.text _ (hread.concat hpercent)

theorem percent_cons {read : List Char} (hread : ReadText read) :
    Reading (scanPercent read (c :: rest)) (read ++ '%' :: c :: rest) := by
  rw [scanPercent]
  by_cases hpercent : c = '%'
  · rw [if_pos hpercent, hpercent]
    exact (hrest.text [] .nil).escape.literal_append hread (by simp)
  · rw [if_neg hpercent]
    by_cases hdigit : c.isDigit = true
    · rw [if_pos hdigit]
      have hnumber := hrest.number [c] (.singleton hdigit)
      -- The text read so far ends here, since the first of the next tokens is a number.
      obtain ⟨digits, tokens, hscan⟩ := exists_ofDigits_of_scanNumber [c] rest
      rw [hscan] at hnumber ⊢
      exact hnumber.literal_append hread (ofDigits_ne_text digits)
    · rw [if_neg hdigit]
      have hother : c.isDigit = false := by simpa using hdigit
      simpa using hrest.text _ (hread.concat_percent hpercent hother)

theorem number_cons {digits : List Char} (hdigits : Digits digits) :
    Reading (scanNumber digits (c :: rest)) ('%' :: digits ++ c :: rest) := by
  rw [scanNumber]
  by_cases hdigit : c.isDigit = true
  · rw [if_pos hdigit]
    simpa using hrest.number _ (hdigits.concat hdigit)
  · have hend : ∀ d ∈ (c :: rest).head?, d.isDigit = false := by
      simpa using hdigit
    rw [if_neg hdigit]
    by_cases hpercent : c = '%'
    · subst hpercent
      rw [if_pos rfl]
      exact (hrest.percent [] .nil).number hdigits hend
    · rw [if_neg hpercent]
      exact (hrest.text [c] (ReadText.nil.concat hpercent)).number hdigits hend

end ReadsOn

theorem readsOn (text : List Char) : ReadsOn text := by
  induction text with
  | nil => exact .nil
  | cons c rest ih =>
      constructor
      · intro read hread
        exact ih.text_cons c hread
      · intro read hread
        exact ih.percent_cons c hread
      · intro digits hdigits
        exact ih.number_cons c hdigits

/-! ## A canonical list is read back -/

/-- The template ends, or a token begins that is no text. -/
inductive TextEnds : List Char → Prop where
  | nil : TextEnds []
  | percent (rest : List Char) : TextEnds ('%' :: '%' :: rest)
  | digit {c : Char} (hdigit : c.isDigit = true) (rest : List Char) : TextEnds ('%' :: c :: rest)

theorem TextEnds.of_spells {token : Token} {tokens : List Token} {text : List Char}
    (htoken : ∀ literal, token ≠ .text literal) (hproper : token.Proper)
    (hspells : Spells (token :: tokens) text) : TextEnds text := by
  have hbegins : ∀ {digits : List Char}, Digits digits → ∀ rest,
      TextEnds ('%' :: digits ++ rest) := by
    intro digits hdigits rest
    cases digits with
    | nil => exact absurd rfl hdigits.ne_nil
    | cons c more => exact .digit (hdigits.digit c List.mem_cons_self) (more ++ rest)
  cases hspells with
  | cons hpart hrest =>
      cases hpart with
      | text literal => exact absurd rfl (htoken literal)
      | escape => exact .percent _
      | placeholder hdigits => exact hbegins hdigits _
      | oversized digits => exact hbegins hproper.1 _

theorem scanText_of_textEnds {text : List Char} (hends : TextEnds text) (read : List Char) :
    scanText read text = literal read ++ scanText [] text := by
  cases hends with
  | nil => simp [scanText, literal]
  | percent rest => simp [scanText, scanPercent, literal]
  | @digit c hdigit rest =>
      simp [scanText, scanPercent, literal, hdigit, ne_percent_of_isDigit hdigit]

theorem getLast?_cons_of_eq_some {text : List Char} {last : Char}
    (hlast : text.getLast? = some last) (c : Char) : (c :: text).getLast? = some last := by
  rw [List.getLast?_cons, hlast]
  rfl

/-- Plain text is read as it stands, also from the middle of two characters that belong
together.  A percent sign may end it where the template ends. -/
theorem scan_literal {text : List Char} (hends : TextEnds text) (part : List Char) :
    (∀ read, Plain part → (part.getLast? = some '%' → text = []) →
      scanText read (part ++ text) = literal (read ++ part) ++ scanText [] text) ∧
    ∀ read, Plain ('%' :: part) → (('%' :: part).getLast? = some '%' → text = []) →
      scanPercent read (part ++ text) = literal (read ++ '%' :: part) ++ scanText [] text := by
  induction part with
  | nil =>
      constructor
      · intro read _ _
        simpa using scanText_of_textEnds hends read
      · intro read _ hlast
        have hnil : text = [] := hlast rfl
        subst hnil
        simp [scanPercent, scanText, literal]
  | cons c rest ih =>
      constructor
      · intro read hplain hlast
        rw [List.cons_append, scanText]
        by_cases hpercent : c = '%'
        · subst hpercent
          rw [if_pos rfl]
          exact ih.2 read hplain hlast
        · have hscan := ih.1 (read ++ [c]) hplain.tail
            fun hrest => hlast (getLast?_cons_of_eq_some hrest c)
          rw [if_neg hpercent, hscan]
          simp
      · intro read hplain hlast
        have hnext := (List.isChain_cons_cons.1 hplain).1 rfl
        have hscan := ih.1 (read ++ ['%', c]) hplain.tail.tail
          fun hrest => hlast (getLast?_cons_of_eq_some (getLast?_cons_of_eq_some hrest c) '%')
        rw [List.cons_append, scanPercent, if_neg hnext.1, hnext.2, if_neg Bool.false_ne_true,
          hscan]
        simp

theorem scanNumber_append {digits : List Char} (hdigits : ∀ c ∈ digits, c.isDigit = true)
    {text : List Char} (hend : ∀ c ∈ text.head?, c.isDigit = false) (read : List Char) :
    scanNumber read (digits ++ text) = .ofDigits (read ++ digits) :: scanText [] text := by
  induction digits generalizing read with
  | nil =>
      cases text with
      | nil => simp [scanNumber, scanText, literal]
      | cons c rest =>
          have hc : c.isDigit = false := hend c rfl
          by_cases hpercent : c = '%'
          · subst hpercent
            simp [scanNumber, scanText]
          · simp [scanNumber, scanText, hc, hpercent]
  | cons c rest ih =>
      have hrest := List.forall_mem_cons.1 hdigits
      rw [List.cons_append, scanNumber, if_pos hrest.1, ih hrest.2]
      simp

theorem scanText_number {digits : List Char} (hdigits : Digits digits) {text : List Char}
    (hend : ∀ c ∈ text.head?, c.isDigit = false) :
    scanText [] ('%' :: digits ++ text) = .ofDigits digits :: scanText [] text := by
  cases digits with
  | nil => exact absurd rfl hdigits.ne_nil
  | cons c rest =>
      have hparts := List.forall_mem_cons.1 hdigits.digit
      simp [scanText, scanPercent, literal, ne_percent_of_isDigit hparts.1, hparts.1,
        scanNumber_append hparts.2 hend]

theorem scanText_literal {literal : String} (hproper : (Token.text literal).Proper)
    {tokens : List Token} {text : List Char} (hread : Reading tokens text)
    (hnext : ∀ next ∈ tokens.head?, (Token.text literal).Precedes next) :
    scanText [] (literal.toList ++ text) = .text literal :: scanText [] text := by
  have hparts : TextEnds text ∧ (literal.toList.getLast? = some '%' → text = []) := by
    cases hread.spelled with
    | nil => exact ⟨.nil, fun _ => rfl⟩
    | @cons next rest part text hpart hrest =>
        obtain ⟨hother, hlast⟩ := text_precedes_iff.1 (hnext next rfl)
        have hnextProper := (canonical_cons_iff.1 hread.canonical).1
        exact ⟨.of_spells hother hnextProper hread.spelled,
          fun hpercent => absurd hpercent hlast⟩
  have hne : literal.toList ≠ [] := by simpa using hproper.1
  rw [(scan_literal hparts.1 literal.toList).1 [] hproper.2 hparts.2, List.nil_append,
    literal_of_ne_nil hne, String.ofList_toList]
  rfl

/-- No two canonical lists spell the same text. -/
theorem scanText_of_reading {tokens : List Token} {text : List Char}
    (hread : Reading tokens text) : scanText [] text = tokens := by
  obtain ⟨hspells, hcanonical⟩ := hread
  induction hspells with
  | nil => rfl
  | @cons token tokens part text hpart hrest ih =>
      obtain ⟨hproper, hnext, hcanonical⟩ := canonical_cons_iff.1 hcanonical
      have htokens := ih hcanonical
      have hreadRest : Reading tokens text := ⟨hrest, hcanonical⟩
      cases hpart with
      | text literal => rw [scanText_literal hproper hreadRest hnext, htokens]
      | escape => simpa [scanText, scanPercent, literal] using htokens
      | @placeholder digits hdigits =>
          have hnumber := Digits.ofDigits_of_lt hproper
          rw [← hnumber] at hnext ⊢
          rw [scanText_number hdigits ((hreadRest.ofDigits_precedes_iff digits).1 hnext), htokens]
      | oversized digits =>
          have hnumber := Digits.ofDigits_of_le hproper.2
          rw [String.ofList_toList] at hnumber
          rw [← hnumber] at hnext ⊢
          rw [scanText_number hproper.1
            ((hreadRest.ofDigits_precedes_iff digits.toList).1 hnext), htokens]

theorem tokenize_eq_iff_reading {template : String} {tokens : List Token} :
    tokenize template = tokens ↔ Reading tokens template.toList := by
  constructor
  · intro htokens
    rw [← htokens]
    exact (readsOn template.toList).text [] .nil
  · exact scanText_of_reading

/-! ## Written tokens -/

/-- The token as it is usually written, with its number in plain decimal. -/
def Token.written : Token → List Char
  | .text literal => literal.toList
  | .escape => ['%', '%']
  | .placeholder n => '%' :: (toString n).toList
  | .oversized digits => '%' :: digits.toList

def spelling (tokens : List Token) : String := String.ofList (tokens.flatMap Token.written)

theorem Token.writes_written (token : Token) : token.Writes token.written := by
  cases token with
  | text literal => exact .text literal
  | escape => exact .escape
  | placeholder n =>
      have hwrites := Writes.placeholder (Digits.toDigits n)
      rw [Nat.ofDigitChars_ten_toDigits] at hwrites
      simpa [written] using hwrites
  | oversized digits => exact .oversized digits

theorem spells_spelling (tokens : List Token) : Spells tokens (spelling tokens).toList := by
  rw [spelling, String.toList_ofList]
  induction tokens with
  | nil => exact .nil
  | cons token rest ih => exact .cons token.writes_written ih

/-- The tokens of a template spell it and are canonical, and of all lists of tokens
the canonical ones are those that come back when they are written out. -/
theorem tokenize_lossless (template : String) (tokens : List Token) :
    Spells (tokenize template) template.toList ∧ Canonical (tokenize template) ∧
      (tokenize (spelling tokens) = tokens ↔ Canonical tokens) := by
  have hread : Reading (tokenize template) template.toList :=
    tokenize_eq_iff_reading.1 rfl
  refine ⟨hread.spelled, hread.canonical, ?_⟩
  rw [tokenize_eq_iff_reading]
  constructor
  · intro hspelling
    exact hspelling.canonical
  · intro hcanonical
    exact ⟨spells_spelling tokens, hcanonical⟩

example :
    tokenize "%007 of%%%{size}%" = [.placeholder 7, .text " of", .escape, .text "%{size}%"] := by
  decide +kernel

end EditorBlocks.Template
