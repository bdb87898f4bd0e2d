import EditorBlocks.Schema.Tables
import EditorBlocks.Violation.Path

/-!
# What a written path tells

A segment of a path begins with a dot or a bracket.  So where no key holds one of
these, the text of a path shows where each segment ends, and it is the text of no
other such path.  The keys of block definitions are of this kind.
-/

namespace EditorBlocks

open Schema

/-! ## Texts that end where a mark stands -/

section Marks

variable {mark : Char → Prop} {first other rest more : List Char}

/-- A text without marks ends where the first mark comes, or with the whole. -/
theorem append_inj_of_marks (hfirst : ∀ c ∈ first, ¬mark c) (hother : ∀ c ∈ other, ¬mark c)
    (hrest : ∀ c, rest.head? = some c → mark c) (hmore : ∀ c, more.head? = some c → mark c)
    (heq : first ++ rest = other ++ more) : first = other ∧ rest = more := by
  induction first generalizing other with
  | nil =>
      cases other with
      | nil => exact ⟨rfl, heq⟩
      | cons c others =>
          have hmark : mark c := hrest c (by rw [← List.nil_append rest, heq]; rfl)
          exact absurd hmark (hother c List.mem_cons_self)
  | cons c firsts ih =>
      cases other with
      | nil =>
          have hmark : mark c := hmore c (by rw [← List.nil_append more, ← heq]; rfl)
          exact absurd hmark (hfirst c List.mem_cons_self)
      | cons d others =>
          obtain ⟨rfl, htail⟩ := List.cons.inj heq
          obtain ⟨rfl, hsame⟩ := ih (fun c hc => hfirst c (List.mem_cons_of_mem _ hc))
            (fun c hc => hother c (List.mem_cons_of_mem _ hc)) htail
          exact ⟨rfl, hsame⟩

end Marks

/-! ## Segments -/

namespace Segment

/-- The characters that a segment begins with. -/
def Opens (c : Char) : Prop := c = '.' ∨ c = '['

instance (c : Char) : Decidable (Opens c) := inferInstanceAs (Decidable (_ ∨ _))

/-- A key in which no segment seems to begin. -/
def PlainKey (name : String) : Prop := ∀ c ∈ name.toList, ¬Opens c

instance (name : String) : Decidable (PlainKey name) :=
  List.decidableBAll (fun c => ¬Opens c) name.toList

def Plain : Segment → Prop
  | .key name => PlainKey name
  | .index _ => True

instance : (segment : Segment) → Decidable segment.Plain
  | .key name => inferInstanceAs (Decidable (PlainKey name))
  | .index _ => inferInstanceAs (Decidable True)

theorem toList_text_key (name : String) : (key name).text.toList = '.' :: name.toList := by
  rw [text, String.toList_append]
  rfl

theorem toList_text_index (position : Nat) :
    (index position).text.toList = '[' :: (Nat.toDigits 10 position ++ [']']) := by
  simp [text]

theorem toDigits_inj {m n : Nat} (heq : Nat.toDigits 10 m = Nat.toDigits 10 n) : m = n := by
  have hvalue := congrArg (fun digits => Nat.ofDigitChars 10 digits 0) heq
  simpa only [Nat.ofDigitChars_ten_toDigits] using hvalue

/-- A segment can be told from the text that it begins. -/
theorem text_append_inj {a b : Segment} (ha : a.Plain) (hb : b.Plain) {rest more : List Char}
    (hrest : ∀ c, rest.head? = some c → Opens c) (hmore : ∀ c, more.head? = some c → Opens c)
    (heq : a.text.toList ++ rest = b.text.toList ++ more) : a = b ∧ rest = more := by
  cases a with
  | key name =>
      cases b with
      | key other =>
          rw [toList_text_key, toList_text_key] at heq
          obtain ⟨hname, hsame⟩ :=
            append_inj_of_marks ha hb hrest hmore (List.cons.inj heq).2
          exact ⟨congrArg key (String.toList_injective hname), hsame⟩
      | index position =>
          rw [toList_text_key, toList_text_index] at heq
          exact absurd (List.cons.inj heq).1 (by decide)
  | index position =>
      cases b with
      | key name =>
          rw [toList_text_key, toList_text_index] at heq
          exact absurd (List.cons.inj heq).1 (by decide)
      | index other =>
          -- Here it is the bracket at the end that is no digit.
          have hdigits : ∀ n, ∀ c ∈ Nat.toDigits 10 n, ¬c.isDigit = false := by
            intro n c hc
            simpa using Nat.isDigit_of_mem_toDigits (by decide) (by decide) hc
          have hclose : ∀ rest : List Char, ∀ c, (']' :: rest).head? = some c →
              c.isDigit = false := by
            intro rest c hc
            obtain rfl := Option.some.inj hc
            rfl
          rw [toList_text_index, toList_text_index, List.cons_append, List.cons_append,
            List.append_assoc, List.append_assoc] at heq
          obtain ⟨hposition, hsame⟩ := append_inj_of_marks (hdigits position) (hdigits other)
            (hclose rest) (hclose more) (List.cons.inj heq).2
          exact ⟨congrArg index (toDigits_inj hposition), (List.cons.inj hsame).2⟩

end Segment

/-! ## Paths -/

namespace Path

def Plain (path : Path) : Prop := ∀ segment ∈ path, segment.Plain

instance (path : Path) : Decidable path.Plain :=
  inferInstanceAs (Decidable (∀ segment ∈ path, segment.Plain))

/-- What follows the root in the text of a path. -/
def segmentsText (path : Path) : List Char := path.flatMap fun segment => segment.text.toList

theorem toList_text (path : Path) : path.text.toList = '$' :: segmentsText path := by
  rw [text, String.toList_append, String.toList_join, List.flatMap_map]
  rfl

theorem exists_opens_segmentsText (segment : Segment) (rest : Path) :
    ∃ c tail, segmentsText (segment :: rest) = c :: tail ∧ Segment.Opens c := by
  rw [segmentsText, List.flatMap_cons]
  cases segment with
  | key name =>
      rw [Segment.toList_text_key]
      exact ⟨'.', _, rfl, .inl rfl⟩
  | index position =>
      rw [Segment.toList_text_index]
      exact ⟨'[', _, rfl, .inr rfl⟩

theorem opens_of_head?_segmentsText {path : Path} (c : Char)
    (hhead : (segmentsText path).head? = some c) : Segment.Opens c := by
  cases path with
  | nil => contradiction
  | cons segment rest =>
      obtain ⟨first, tail, htext, hopens⟩ := exists_opens_segmentsText segment rest
      rw [htext] at hhead
      exact Option.some.inj hhead ▸ hopens

theorem segmentsText_ne_nil (segment : Segment) (rest : Path) :
    segmentsText (segment :: rest) ≠ [] := by
  obtain ⟨first, tail, htext, -⟩ := exists_opens_segmentsText segment rest
  exact htext ▸ List.cons_ne_nil first tail

theorem segmentsText_inj {p q : Path} (hp : p.Plain) (hq : q.Plain)
    (heq : segmentsText p = segmentsText q) : p = q := by
  induction p generalizing q with
  | nil =>
      cases q with
      | nil => rfl
      | cons segment rest => exact absurd heq.symm (segmentsText_ne_nil segment rest)
  | cons first rest ih =>
      cases q with
      | nil => exact absurd heq (segmentsText_ne_nil first rest)
      | cons other more =>
          obtain ⟨hfirst, hrest⟩ := List.forall_mem_cons.1 hp
          obtain ⟨hother, hmore⟩ := List.forall_mem_cons.1 hq
          obtain ⟨rfl, hsame⟩ := Segment.text_append_inj hfirst hother
            opens_of_head?_segmentsText opens_of_head?_segmentsText heq
          rw [ih hrest hmore hsame]

theorem text_inj {p q : Path} (hp : p.Plain) (hq : q.Plain) : p.text = q.text ↔ p = q := by
  constructor
  · intro heq
    have hchars := congrArg String.toList heq
    rw [toList_text, toList_text] at hchars
    exact segmentsText_inj hp hq (List.cons.inj hchars).2
  · rintro rfl
    rfl

/-! ## Keys of definitions -/

/-- The segment is a key of blocks or of arguments, or a position in a list. -/
inductive Listed : Segment → Prop where
  | blockKey {c : Constraint} (hc : c ∈ root) : Listed (.key c.key)
  | argumentType : Listed (.key argumentType.key)
  | argumentKey {kind : ArgumentKind} {c : Constraint} (hc : c ∈ (argument kind).constraints) :
      Listed (.key c.key)
  | position (n : Nat) : Listed (.index n)

theorem plainKey_of_mem_root {c : Constraint} (hc : c ∈ root) : Segment.PlainKey c.key := by
  have hall : ∀ c ∈ root, Segment.PlainKey c.key := by decide +kernel
  exact hall c hc

theorem plainKey_of_mem_argument {kind : ArgumentKind} {c : Constraint}
    (hc : c ∈ (argument kind).constraints) : Segment.PlainKey c.key := by
  have hall : ∀ c ∈ (argument kind).constraints, Segment.PlainKey c.key := by
    cases kind with
    | freeForm | input =>
        simp only [argument]
        decide +kernel
    | _ => decide +kernel
  exact hall c hc

theorem plain_of_listed {path : Path} (hlisted : ∀ segment ∈ path, Listed segment) :
    path.Plain := by
  intro segment hmem
  cases hlisted segment hmem with
  | blockKey hc => exact plainKey_of_mem_root hc
  | argumentType => exact (by decide : Segment.PlainKey argumentType.key)
  | argumentKey hc => exact plainKey_of_mem_argument hc
  | position n => trivial

/-- The text of a path tells the path, whatever its length, as long as no key holds a
dot or an opening bracket; an empty key is as good as any.  No key of a block or of an
argument holds one, so a path of these keys and of positions is the only one of all
such paths that has its text. -/
theorem text_tells_path :
    (∀ p q : Path, p.Plain → q.Plain → (p.text = q.text ↔ p = q)) ∧
    ∀ p q : Path, (∀ segment ∈ p, Listed segment) → q.Plain → (p.text = q.text ↔ p = q) := by
  constructor
  · intro p q hp hq
    exact text_inj hp hq
  · intro p q hlisted hq
    exact text_inj (plain_of_listed hlisted) hq

/-- Empty keys are counted, and a position is none of them. -/
theorem text_tells_path_empty_keys :
    let p : Path := [.key "args0", .index 10, .key "", .key ""]
    let q : Path := [.key "args0", .index 10, .key "", .index 0, .key "]"]
    p.Plain ∧ q.Plain ∧ p ≠ q ∧ p.text ≠ q.text ∧ q.text = "$.args0[10].[0].]" := by
  intro p q
  have hp : p.Plain := by decide
  have hq : q.Plain := by decide
  have hne : p ≠ q := by decide
  exact ⟨hp, hq, hne, mt (text_tells_path.1 p q hp hq).1 hne, by decide⟩

/-- A key with a dot is written as two keys are. -/
example : Path.text [.key "a.b"] = Path.text [.key "a", .key "b"] := by decide

end Path

end EditorBlocks
