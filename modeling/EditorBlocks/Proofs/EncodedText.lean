import EditorBlocks.Text.Utf8
import Mathlib.Data.List.TakeWhile
import Mathlib.Tactic.SplitIfs

/-!
# Text as bytes

What a text is encoded to has no fault, and is decoded to the text again.  The bytes
of one character are a sequence that is well formed, whatever follows it; from this
the bytes of a whole text are, by induction on its characters.
-/

namespace EditorBlocks.Text

/-! ## The bytes of a text -/

theorem toList_loop (bytes : ByteArray) (i : Nat) (before : List UInt8) :
    ByteArray.toList.loop bytes i before = before.reverse ++ bytes.data.toList.drop i := by
  fun_induction ByteArray.toList.loop bytes i before with
  | case1 i before hinside ih =>
      have hlength : i < bytes.data.toList.length := by simpa using hinside
      have hget : bytes.get! i = bytes.data[i]! := by cases bytes; rfl
      rw [ih, List.drop_eq_getElem_cons hlength, hget, getElem!_pos bytes.data i hinside]
      simp
  | case2 i before hpast =>
      rw [List.drop_eq_nil_of_le (by simpa using Nat.le_of_not_lt hpast)]
      simp

theorem encode_eq_toList_data (s : String) : encode s = s.toByteArray.data.toList := by
  rw [encode, String.toUTF8_eq_toByteArray, ByteArray.toList, toList_loop]
  simp

theorem encode_eq_flatMap (s : String) : encode s = s.toList.flatMap String.utf8EncodeChar := by
  rw [encode_eq_toList_data, ← String.utf8Encode_toList, List.utf8Encode,
    List.toList_data_toByteArray]

/-! ## Sequences that are well formed -/

section Sequences

variable {index : Nat} {rest : List UInt8}

/-- The bytes of a sequence after its first one are passed over. -/
theorem fault?_inside (bytes : List UInt8) :
    fault? index bytes.length (bytes ++ rest) = fault? (index + bytes.length) 0 rest := by
  induction bytes generalizing index with
  | nil => rfl
  | cons b others ih =>
      rw [List.length_cons, List.cons_append, fault?, if_pos (Nat.succ_pos _), Nat.add_sub_cancel,
        ih, Nat.add_right_comm, Nat.add_assoc]

theorem fault?_sequence {first second low high : UInt8} {more : List UInt8}
    (hshape : sequenceShape first = (more.length + 2, low, high)) (hfirst : ¬first < 0x80)
    (hsecond : low ≤ second ∧ second ≤ high) (hmore : ∀ b ∈ more, isContinuation b = true) :
    fault? index 0 (first :: second :: more ++ rest) =
      fault? (index + (more.length + 2)) 0 rest := by
  have hgood : more.takeWhile isContinuation = more := List.takeWhile_eq_self_iff.2 hmore
  have hwithin : (second < low || high < second) = false := by
    simpa only [Bool.or_eq_false_iff, decide_eq_false_iff_not, UInt8.not_lt] using hsecond
  have hsound : sequenceFault? first (second :: more ++ rest) index = none := by
    simp [sequenceFault?, hshape, hwithin, hgood]
  calc
    fault? index 0 (first :: second :: more ++ rest) =
        fault? (index + 1) (second :: more).length (second :: more ++ rest) := by
      rw [List.cons_append, fault?, if_neg (Nat.lt_irrefl 0), if_neg hfirst, hsound]
      simp only [hshape]
      rfl
    _ = fault? (index + (more.length + 2)) 0 rest := by
      rw [fault?_inside, List.length_cons, Nat.add_assoc, Nat.add_comm 1]

theorem toNat_ofNat {n : Nat} (hn : n < 256) : (UInt8.ofNat n).toNat = n := by
  rw [UInt8.toNat_ofNat', Nat.mod_eq_of_lt hn]

theorem between_ofNat {low high : UInt8} {n : Nat} (hlow : low.toNat ≤ n) (hhigh : n ≤ high.toNat) :
    low ≤ UInt8.ofNat n ∧ UInt8.ofNat n ≤ high := by
  have hn : n < 256 := Nat.lt_of_le_of_lt hhigh high.toNat_lt
  rw [UInt8.le_iff_toNat_le, UInt8.le_iff_toNat_le, toNat_ofNat hn]
  exact ⟨hlow, hhigh⟩

theorem not_ascii_ofNat {n : Nat} (hlow : 0x80 ≤ n) (hhigh : n < 256) : ¬UInt8.ofNat n < 0x80 := by
  rw [UInt8.lt_iff_toNat_lt, toNat_ofNat hhigh]
  exact Nat.not_lt.2 hlow

theorem isContinuation_ofNat (n : Nat) : isContinuation (UInt8.ofNat (n % 64 + 0x80)) = true := by
  have hhigh : n % 64 + 0x80 ≤ 0xbf := by omega
  rw [isContinuation, Bool.and_eq_true, decide_eq_true_eq, decide_eq_true_eq]
  exact between_ofNat (Nat.le_add_left _ _) hhigh

theorem sequenceShape_two {n : Nat} (hlow : 2 ≤ n) (hhigh : n < 32) :
    sequenceShape (UInt8.ofNat (n + 0xc0)) = (2, 0x80, 0xbf) := by
  have hfirst : (UInt8.ofNat (n + 0xc0)).toNat = n + 0xc0 := toNat_ofNat (by omega)
  simp only [sequenceShape, UInt8.le_iff_toNat_le, hfirst, UInt8.reduceToNat]
  rw [if_pos (by omega)]

theorem sequenceShape_three {n : Nat} (hn : n < 16) :
    sequenceShape (UInt8.ofNat (n + 0xe0)) =
      (3, if n = 0 then 0xa0 else 0x80, if n = 13 then 0x9f else 0xbf) := by
  have hfirst : (UInt8.ofNat (n + 0xe0)).toNat = n + 0xe0 := toNat_ofNat (by omega)
  simp only [sequenceShape, UInt8.le_iff_toNat_le, ← UInt8.toNat_inj, hfirst, UInt8.reduceToNat]
  split_ifs <;> first | rfl | omega

theorem sequenceShape_four {n : Nat} (hn : n < 5) :
    sequenceShape (UInt8.ofNat (n + 0xf0)) =
      (4, if n = 0 then 0x90 else 0x80, if n = 4 then 0x8f else 0xbf) := by
  have hfirst : (UInt8.ofNat (n + 0xf0)).toNat = n + 0xf0 := toNat_ofNat (by omega)
  simp only [sequenceShape, UInt8.le_iff_toNat_le, ← UInt8.toNat_inj, hfirst, UInt8.reduceToNat]
  split_ifs <;> first | rfl | omega

/-- The bytes of one character have no fault, whatever follows them.  The bounds on the
second byte keep out what is written longer than it has to be, surrogates and numbers
past the last character, and none of these is a character. -/
theorem fault?_char (c : Char) :
    fault? index 0 (String.utf8EncodeChar c ++ rest) =
      fault? (index + (String.utf8EncodeChar c).length) 0 rest := by
  have hvalid : c.val.toNat < 0xd800 ∨ 0xdfff < c.val.toNat ∧ c.val.toNat < 0x110000 := c.valid
  fun_cases String.utf8EncodeChar c with
  | case1 v hone =>
      have hascii : UInt8.ofNat v < 0x80 := by
        rw [UInt8.lt_iff_toNat_lt, toNat_ofNat (by omega)]
        exact Nat.lt_succ_of_le hone
      rw [List.singleton_append, fault?, if_neg (Nat.lt_irrefl 0), if_pos hascii]
      rfl
  | case2 v hone htwo =>
      have hhigh : v % 64 + 0x80 ≤ 0xbf := by omega
      exact fault?_sequence (sequenceShape_two (by omega) (by omega))
        (not_ascii_ofNat (by omega) (by omega)) (between_ofNat (Nat.le_add_left _ _) hhigh) nofun
  | case3 v hone htwo hthree =>
      refine fault?_sequence (sequenceShape_three (by omega))
        (not_ascii_ofNat (by omega) (by omega)) (between_ofNat ?least ?greatest) ?later
      case least => split_ifs <;> simp only [UInt8.reduceToNat] <;> omega
      case greatest => split_ifs <;> simp only [UInt8.reduceToNat] <;> omega
      case later =>
        intro b hb
        rw [List.mem_singleton.1 hb]
        exact isContinuation_ofNat v
  | case4 v hone htwo hthree =>
      refine fault?_sequence (sequenceShape_four (by omega))
        (not_ascii_ofNat (by omega) (by omega)) (between_ofNat ?least ?greatest) ?later
      case least => split_ifs <;> simp only [UInt8.reduceToNat] <;> omega
      case greatest => split_ifs <;> simp only [UInt8.reduceToNat] <;> omega
      case later =>
        intro b hb
        rcases List.mem_cons.1 hb with rfl | hlast
        · exact isContinuation_ofNat (v / 64)
        · rw [List.mem_singleton.1 hlast]
          exact isContinuation_ofNat v

theorem fault?_encode (characters : List Char) :
    fault? index 0 (characters.flatMap String.utf8EncodeChar) = none := by
  induction characters generalizing index with
  | nil => rfl
  | cons c others ih => rw [List.flatMap_cons, fault?_char, ih]

end Sequences

/-- A text is decoded from what it is encoded to. -/
theorem decode_encode (s : String) : decode (encode s) = .ok s := by
  have hsound : fault? 0 0 (encode s) = none := by
    rw [encode_eq_flatMap, fault?_encode]
  have hbytes : (⟨(encode s).toArray⟩ : ByteArray) = s.toByteArray := by
    rw [encode_eq_toList_data, Array.toArray_toList]
  rw [decode, hsound]
  simp only [hbytes, String.fromUTF8?, s.isValidUTF8, dite_true, Option.getD_some]
  rfl

end EditorBlocks.Text
