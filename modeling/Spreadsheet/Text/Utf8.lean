/-!
# Bytes as text

The text that bytes in UTF-8 write.  Where they write none, as many of them as
could begin a character count as one replacement mark.

Result: bytes below 128 are the characters of that number (`decode_of_small`).
-/

namespace Spreadsheet
namespace Text

/-- The mark for bytes that write no character. -/
def replacementMark : Char := '\ufffd'

/-- The beginning of a character: how many bytes are missing, the number so far,
and the least and the greatest next byte. -/
structure Pending where
  missing : Nat
  code : Nat
  least : Nat
  greatest : Nat
deriving DecidableEq, Repr

/-- What a byte is that continues nothing: characters, or the beginning of one. -/
def leading (b : Nat) : List Char × Option Pending :=
  if b < 0x80 then ([Char.ofNat b], none)
  else if 0xc2 ≤ b ∧ b ≤ 0xdf then ([], some ⟨1, b - 0xc0, 0x80, 0xbf⟩)
  else if b = 0xe0 then ([], some ⟨2, 0, 0xa0, 0xbf⟩)
  else if b = 0xed then ([], some ⟨2, 0xd, 0x80, 0x9f⟩)
  else if 0xe1 ≤ b ∧ b ≤ 0xef then ([], some ⟨2, b - 0xe0, 0x80, 0xbf⟩)
  else if b = 0xf0 then ([], some ⟨3, 0, 0x90, 0xbf⟩)
  else if 0xf1 ≤ b ∧ b ≤ 0xf3 then ([], some ⟨3, b - 0xf0, 0x80, 0xbf⟩)
  else if b = 0xf4 then ([], some ⟨3, 4, 0x80, 0x8f⟩)
  else ([replacementMark], none)

/-- What a byte is after the beginning of a character. -/
def following (p : Pending) (b : Nat) : List Char × Option Pending :=
  if p.least ≤ b ∧ b ≤ p.greatest then
    let code := 64 * p.code + (b - 0x80)
    if p.missing ≤ 1 then
      ([Char.ofNat code], none)
    else
      ([], some ⟨p.missing - 1, code, 0x80, 0xbf⟩)
  else
    let (out, next) := leading b
    (replacementMark :: out, next)

/-- The text of bytes after what may be the beginning of a character. -/
def decodeFrom : Option Pending → List Nat → List Char
  | none, [] => []
  | some _, [] => [replacementMark]
  | none, b :: rest => (leading b).1 ++ decodeFrom (leading b).2 rest
  | some p, b :: rest => (following p b).1 ++ decodeFrom (following p b).2 rest

/-- The text of bytes. -/
def decode (bytes : List Nat) : List Char :=
  decodeFrom none bytes

/-- The bytes of a character. -/
def bytesOf (c : Char) : List Nat :=
  (String.utf8EncodeChar c).map UInt8.toNat

section Lemmas

/-- Bytes below 128 are the characters of that number. -/
theorem decode_of_small
    {bytes : List Nat}
    (h : ∀ b ∈ bytes, b < 0x80) :
    decode bytes = bytes.map Char.ofNat := by
  unfold decode
  induction bytes with
  | nil => rfl
  | cons b rest ih =>
      have hb : b < 0x80 := h b List.mem_cons_self
      simp [decodeFrom, leading, hb, ih fun c hc => h c (List.mem_cons_of_mem _ hc)]

end Lemmas

end Text
end Spreadsheet
