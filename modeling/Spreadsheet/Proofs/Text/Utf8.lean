import Mathlib.Data.List.Basic
import Spreadsheet.Text.Utf8

/-!
# Reading encoded text

The bytes of a character have no beginning in common with those of another one, and none of
them but the only byte of a line feed is a line feed.  So what encoded text is read as is the
text.

Results: the bytes of a text read back (`decode_encoded`), and no other character has the byte
of a line feed among its own (`lineFeed_notMem_utf8EncodeChar`).
-/

namespace Spreadsheet
namespace Text

/-- The bytes of a text. -/
def encoded (s : List Char) : List UInt8 := s.flatMap String.utf8EncodeChar

/-- The byte of a line feed. -/
def lineFeed : UInt8 := 10

/-- A byte begins a character of which so many more bytes are missing and the number so far is
`code`, and the byte after it can continue it. -/
structure Begins (b second missing code : Nat) (p : Pending) : Prop where
  leading_eq : leading b = ([], some p)
  missing_eq : p.missing = missing
  code_eq : p.code = code
  admits : p.least ≤ second ∧ second ≤ p.greatest

section Lemmas

theorem encoded_cons
    (c : Char) (s : List Char) :
    encoded (c :: s) = String.utf8EncodeChar c ++ encoded s :=
  List.flatMap_cons

/-- A byte that continues a character, but does not end it. -/
theorem decodeFrom_continued
    {p : Pending} {b : Nat}
    (hbyte : p.least ≤ b ∧ b ≤ p.greatest)
    (hmissing : 1 < p.missing)
    (rest : List Nat) :
    decodeFrom (some p) (b :: rest)
      = decodeFrom (some ⟨p.missing - 1, 64 * p.code + (b - 0x80), 0x80, 0xbf⟩) rest := by
  rw [decodeFrom, following, if_pos hbyte, if_neg (Nat.not_le.2 hmissing)]
  rfl

/-- A byte that ends a character. -/
theorem decodeFrom_ended
    {p : Pending} {b : Nat}
    (hbyte : p.least ≤ b ∧ b ≤ p.greatest)
    (hmissing : p.missing ≤ 1)
    (rest : List Nat) :
    decodeFrom (some p) (b :: rest)
      = Char.ofNat (64 * p.code + (b - 0x80)) :: decodeFrom none rest := by
  rw [decodeFrom, following, if_pos hbyte, if_pos hmissing]
  rfl

/-- A byte that begins a character of several bytes. -/
theorem decodeFrom_begun
    {b : Nat} {p : Pending}
    (h : leading b = ([], some p))
    (rest : List Nat) :
    decodeFrom none (b :: rest) = decodeFrom (some p) rest := by
  rw [decodeFrom, h]
  rfl

theorem toNat_ofNat_of_lt
    {n : Nat}
    (h : n < 256) :
    (UInt8.ofNat n).toNat = n := by
  rw [UInt8.toNat_ofNat']
  exact Nat.mod_eq_of_lt h

/-- Six bits of a number make a byte that continues a character. -/
theorem continues_sixBits
    (n : Nat) :
    0x80 ≤ n % 64 + 128 ∧ n % 64 + 128 ≤ 0xbf := by
  omega

theorem exists_begins_two
    {v : Nat}
    (hleast : 0x80 ≤ v)
    (hgreatest : v ≤ 0x7ff) :
    ∃ p, Begins (v / 64 % 32 + 192) (v % 64 + 128) 1 (v / 64) p := by
  refine ⟨⟨1, v / 64, 0x80, 0xbf⟩, ?_, rfl, rfl, ?_⟩
  · unfold leading
    rw [if_neg (by omega), if_pos (by omega)]
    simp only [Prod.mk.injEq, Option.some.injEq, Pending.mk.injEq, true_and, and_true]
    omega
  · dsimp only
    omega

theorem exists_begins_three
    {v : Nat}
    (hleast : 0x800 ≤ v)
    (hgreatest : v ≤ 0xffff)
    (hvalid : v < 0xd800 ∨ 0xdfff < v) :
    ∃ p, Begins (v / 4096 % 16 + 224) (v / 64 % 64 + 128) 2 (v / 4096) p := by
  -- The first byte says more about the second one where shorter forms or halves of pairs begin.
  have hsecond := Nat.mod_lt (v / 64) (show 0 < 64 by decide)
  by_cases hfirst : v / 4096 = 0
  · refine ⟨⟨2, 0, 0xa0, 0xbf⟩, ?_, rfl, hfirst.symm, ?_⟩
    · rw [hfirst]
      rfl
    · dsimp only
      omega
  · by_cases hcut : v / 4096 = 0xd
    · refine ⟨⟨2, 0xd, 0x80, 0x9f⟩, ?_, rfl, hcut.symm, ?_⟩
      · rw [hcut]
        rfl
      · dsimp only
        omega
    · refine ⟨⟨2, v / 4096, 0x80, 0xbf⟩, ?_, rfl, rfl, ?_⟩
      · unfold leading
        rw [if_neg (by omega), if_neg (by omega), if_neg (by omega), if_neg (by omega),
          if_pos (by omega)]
        simp only [Prod.mk.injEq, Option.some.injEq, Pending.mk.injEq, true_and, and_true]
        omega
      · dsimp only
        omega

theorem exists_begins_four
    {v : Nat}
    (hleast : 0x10000 ≤ v)
    (hgreatest : v ≤ 0x10ffff) :
    ∃ p, Begins (v / 262144 % 8 + 240) (v / 4096 % 64 + 128) 3 (v / 262144) p := by
  -- The first byte says more about the second one where shorter forms or no characters begin.
  have hsecond := Nat.mod_lt (v / 4096) (show 0 < 64 by decide)
  by_cases hfirst : v / 262144 = 0
  · refine ⟨⟨3, 0, 0x90, 0xbf⟩, ?_, rfl, hfirst.symm, ?_⟩
    · rw [hfirst]
      rfl
    · dsimp only
      omega
  · by_cases hcut : v / 262144 = 4
    · refine ⟨⟨3, 4, 0x80, 0x8f⟩, ?_, rfl, hcut.symm, ?_⟩
      · rw [hcut]
        rfl
      · dsimp only
        omega
    · refine ⟨⟨3, v / 262144, 0x80, 0xbf⟩, ?_, rfl, rfl, ?_⟩
      · unfold leading
        rw [if_neg (by omega), if_neg (by omega), if_neg (by omega), if_neg (by omega),
          if_neg (by omega), if_neg (by omega), if_pos (by omega)]
        simp only [Prod.mk.injEq, Option.some.injEq, Pending.mk.injEq, true_and, and_true]
        omega
      · dsimp only
        omega

/-- The numbers of the bytes of a character. -/
theorem bytesOf_eq
    (c : Char) :
    bytesOf c =
      if c.toNat ≤ 0x7f then [c.toNat]
      else if c.toNat ≤ 0x7ff then [c.toNat / 64 % 32 + 192, c.toNat % 64 + 128]
      else if c.toNat ≤ 0xffff then
        [c.toNat / 4096 % 16 + 224, c.toNat / 64 % 64 + 128, c.toNat % 64 + 128]
      else
        [c.toNat / 262144 % 8 + 240, c.toNat / 4096 % 64 + 128, c.toNat / 64 % 64 + 128,
          c.toNat % 64 + 128] := by
  change List.map UInt8.toNat (if c.toNat ≤ 0x7f then _ else if c.toNat ≤ 0x7ff then _
    else if c.toNat ≤ 0xffff then _ else _) = _
  simp only [apply_ite (List.map UInt8.toNat), List.map_cons, List.map_nil]
  have hbyte : ∀ n base k : Nat, 0 < k → base + k ≤ 256 →
      (UInt8.ofNat (n % k + base)).toNat = n % k + base := by
    intro n base k hk hbase
    have hlt := Nat.mod_lt n hk
    exact toNat_ofNat_of_lt (by omega)
  split_ifs with hone htwo hthree
  · exact congrArg (· :: []) (toNat_ofNat_of_lt (by omega : c.toNat < 256))
  · rw [hbyte _ 192 32 (by decide) (by decide), hbyte _ 128 64 (by decide) (by decide)]
    rfl
  · rw [hbyte _ 224 16 (by decide) (by decide), hbyte (_ / _) 128 64 (by decide) (by decide),
      hbyte c.val.toNat 128 64 (by decide) (by decide)]
    rfl
  · rw [hbyte _ 240 8 (by decide) (by decide), hbyte (_ / 4096) 128 64 (by decide) (by decide),
      hbyte (_ / 64) 128 64 (by decide) (by decide),
      hbyte c.val.toNat 128 64 (by decide) (by decide)]
    rfl

/-- The bytes of a character are read as it. -/
theorem decodeFrom_bytesOf
    (c : Char) (rest : List Nat) :
    decodeFrom none (bytesOf c ++ rest) = c :: decodeFrom none rest := by
  have hvalid : c.toNat < 0xd800 ∨ 0xdfff < c.toNat ∧ c.toNat < 0x110000 := c.valid
  rw [bytesOf_eq]
  split_ifs with hone htwo hthree
  · have hleading : leading c.toNat = ([Char.ofNat c.toNat], none) := by
      rw [leading, if_pos (by omega)]
    rw [List.singleton_append, decodeFrom, hleading, Char.ofNat_toNat]
    rfl
  · obtain ⟨p, hp⟩ := exists_begins_two (v := c.toNat) (by omega) htwo
    have hcode : 64 * p.code + (c.toNat % 64 + 128 - 0x80) = c.toNat := by
      rw [hp.code_eq]
      omega
    rw [List.cons_append, List.singleton_append, decodeFrom_begun hp.leading_eq,
      decodeFrom_ended hp.admits (Nat.le_of_eq hp.missing_eq), hcode, Char.ofNat_toNat]
  · obtain ⟨p, hp⟩ := exists_begins_three (v := c.toNat) (by omega) hthree (by omega)
    have hcode : 64 * (64 * p.code + (c.toNat / 64 % 64 + 128 - 0x80))
        + (c.toNat % 64 + 128 - 0x80) = c.toNat := by
      rw [hp.code_eq]
      omega
    rw [List.cons_append, List.cons_append, List.singleton_append,
      decodeFrom_begun hp.leading_eq, decodeFrom_continued hp.admits (by simp [hp.missing_eq]),
      decodeFrom_ended (continues_sixBits c.toNat) (by simp [hp.missing_eq]), hcode,
      Char.ofNat_toNat]
  · obtain ⟨p, hp⟩ := exists_begins_four (v := c.toNat) (by omega) (by omega)
    have hcode : 64 * (64 * (64 * p.code + (c.toNat / 4096 % 64 + 128 - 0x80))
        + (c.toNat / 64 % 64 + 128 - 0x80)) + (c.toNat % 64 + 128 - 0x80) = c.toNat := by
      rw [hp.code_eq]
      omega
    rw [List.cons_append, List.cons_append, List.cons_append, List.singleton_append,
      decodeFrom_begun hp.leading_eq, decodeFrom_continued hp.admits (by simp [hp.missing_eq]),
      decodeFrom_continued (continues_sixBits (c.toNat / 64)) (by simp [hp.missing_eq]),
      decodeFrom_ended (continues_sixBits c.toNat) (by simp [hp.missing_eq]), hcode,
      Char.ofNat_toNat]

/-- The bytes of a text are read as it. -/
theorem decode_encoded
    (s : List Char) :
    decode ((encoded s).map UInt8.toNat) = s := by
  unfold decode
  induction s with
  | nil => rfl
  | cons c s ih =>
      rw [encoded_cons, List.map_append]
      exact (decodeFrom_bytesOf c _).trans (congrArg (c :: ·) ih)

/-- Only a line feed has the byte of one. -/
theorem lineFeed_notMem_utf8EncodeChar
    {c : Char}
    (hc : c ≠ '\n') :
    lineFeed ∉ String.utf8EncodeChar c := by
  intro hmem
  have hbyte : 10 ∈ bytesOf c := List.mem_map_of_mem (f := UInt8.toNat) hmem
  rw [bytesOf_eq] at hbyte
  split_ifs at hbyte
  · have hten : c.toNat = 10 := (List.mem_singleton.1 hbyte).symm
    exact hc (Char.toNat_inj.1 hten)
  · simp only [List.mem_cons, List.not_mem_nil, or_false] at hbyte
    omega
  · simp only [List.mem_cons, List.not_mem_nil, or_false] at hbyte
    omega
  · simp only [List.mem_cons, List.not_mem_nil, or_false] at hbyte
    omega

end Lemmas

end Text
end Spreadsheet
