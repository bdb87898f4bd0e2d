/-!
# UTF-8

Decoding bytes, with the place and the length of the first sequence that is not
well formed.
-/

namespace EditorBlocks.Text

/-- Where bytes stop being UTF-8.  Without a length the last sequence is cut
short by the end of the bytes. -/
structure Utf8Fault where
  index : Nat
  length : Option Nat
deriving DecidableEq, Repr

namespace Utf8Fault

def message (f : Utf8Fault) : String :=
  match f.length with
  | some n =>
    "invalid utf-8 sequence of " ++ toString n ++ " bytes from index " ++ toString f.index
  | none => "incomplete utf-8 byte sequence from index " ++ toString f.index

end Utf8Fault

def isContinuation (b : UInt8) : Bool := 0x80 ≤ b && b ≤ 0xbf

/-- The length of a sequence by its first byte, and the bytes that may come
second.  Zero stands for a byte that starts no sequence. -/
def sequenceShape (first : UInt8) : Nat × UInt8 × UInt8 :=
  if 0xc2 ≤ first ∧ first ≤ 0xdf then (2, 0x80, 0xbf)
  else if first = 0xe0 then (3, 0xa0, 0xbf)
  else if first = 0xed then (3, 0x80, 0x9f)
  else if 0xe1 ≤ first ∧ first ≤ 0xef then (3, 0x80, 0xbf)
  else if first = 0xf0 then (4, 0x90, 0xbf)
  else if first = 0xf4 then (4, 0x80, 0x8f)
  else if 0xf1 ≤ first ∧ first ≤ 0xf3 then (4, 0x80, 0xbf)
  else (0, 0, 0)

/-- The fault of a sequence that begins with `first`, if it is not well formed. -/
def sequenceFault? (first : UInt8) (rest : List UInt8) (index : Nat) : Option Utf8Fault :=
  let (length, low, high) := sequenceShape first
  if length = 0 then some ⟨index, some 1⟩
  else
    match rest with
    | [] => some ⟨index, none⟩
    | second :: more =>
      if second < low || high < second then some ⟨index, some 1⟩
      else
        let good := ((more.take (length - 2)).takeWhile isContinuation).length
        if good = length - 2 then none
        else if good < more.length then some ⟨index, some (2 + good)⟩
        else some ⟨index, none⟩

/-- The first fault of the bytes from an index on; `inside` bytes of the current
sequence are still to come. -/
def fault? (index inside : Nat) : List UInt8 → Option Utf8Fault
  | [] => none
  | b :: rest =>
    if 0 < inside then fault? (index + 1) (inside - 1) rest
    else if b < 0x80 then fault? (index + 1) 0 rest
    else
      match sequenceFault? b rest index with
      | some fault => some fault
      | none => fault? (index + 1) ((sequenceShape b).1 - 1) rest

/-- The text that bytes encode. -/
def decode (bytes : List UInt8) : Except Utf8Fault String :=
  match fault? 0 0 bytes with
  | some fault => .error fault
  | none => .ok ((String.fromUTF8? ⟨bytes.toArray⟩).getD "")

def encode (s : String) : List UInt8 := s.toUTF8.toList

end EditorBlocks.Text
