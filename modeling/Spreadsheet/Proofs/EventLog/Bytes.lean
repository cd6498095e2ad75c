import Spreadsheet.EventLog
import Spreadsheet.Proofs.EventLog.Tail
import Spreadsheet.Proofs.Text.Utf8

/-!
# The bytes of a log

What stands in the file of a log are bytes, which need not be those of a text.  The end of the
log is cut off from the bytes, up to a line feed where something is left out, and only what
remains is read as text.  Of the bytes of a text this is the end of the text: a line feed is a
byte of its own, so the cut lies between two characters.

Results: the end of the bytes of a text is read as the end of the text (`tailOfBytes_encoded`),
and so a query finds the same in both (`readBytes_encoded`).
-/

namespace Spreadsheet
namespace EventLog

/-- The bytes after the first line feed. -/
def afterLineFeed (log : List UInt8) : List UInt8 :=
  (log.dropWhile (· != Text.lineFeed)).drop 1

/-- The text of the end of a log, up to a number of bytes, without the line that may be cut. -/
def tailOfBytes (bytes : Int) (log : List UInt8) : List Char :=
  let start := ((log.length : Int) - bytes).toNat
  Text.decode ((if start = 0 then log else afterLineFeed (log.drop start)).map UInt8.toNat)

/-- What a query finds at the end of a log of bytes. -/
def readBytes (log : List UInt8) (bytes : Int) (q : Query) : Except Fault (List Json) := do
  select q (← records (tailOfBytes bytes log))

section Lemmas

theorem length_encoded
    (s : List Char) :
    (Text.encoded s).length = byteSize s := by
  induction s with
  | nil => rfl
  | cons c s ih =>
      rw [Text.encoded_cons, List.length_append, String.length_utf8EncodeChar, ih, byteSize]

/-- Bytes without a line feed are skipped. -/
theorem afterLineFeed_append
    {skipped : List UInt8}
    (h : Text.lineFeed ∉ skipped)
    (rest : List UInt8) :
    afterLineFeed (skipped ++ rest) = afterLineFeed rest := by
  have hskip : ∀ b ∈ skipped, (b != Text.lineFeed) = true := by
    intro b hb
    rw [bne_iff_ne]
    rintro rfl
    exact h hb
  rw [afterLineFeed, List.dropWhile_append_of_pos hskip]
  rfl

theorem afterLineFeed_encoded
    (s : List Char) :
    afterLineFeed (Text.encoded s) = Text.encoded (afterLine s) := by
  induction s with
  | nil => rfl
  | cons c s ih =>
      rw [Text.encoded_cons]
      by_cases hc : c = '\n'
      · subst hc
        rfl
      · have hskip : afterLine (c :: s) = afterLine s := by
          rw [afterLine, List.dropWhile_cons_of_pos (by simpa using hc)]
          rfl
        rw [afterLineFeed_append (Text.lineFeed_notMem_utf8EncodeChar hc), ih, hskip]

/-- A cut within a character leaves bytes that are no line feed. -/
theorem afterLineFeed_drop_encoded
    (s : List Char) (n : Nat) :
    afterLineFeed ((Text.encoded s).drop n) = Text.encoded (afterLine (dropBytes n s)) := by
  induction s generalizing n with
  | nil => cases n <;> rfl
  | cons c s ih =>
      cases n with
      | zero => exact afterLineFeed_encoded (c :: s)
      | succ n =>
          rw [dropBytes, ← ih, Text.encoded_cons, List.drop_append,
            String.length_utf8EncodeChar]
          refine afterLineFeed_append (fun hmem => ?_) _
          by_cases hc : c = '\n'
          · subst hc
            change Text.lineFeed ∈ ([] : List UInt8).drop n at hmem
            rw [List.drop_nil] at hmem
            exact List.not_mem_nil hmem
          · exact Text.lineFeed_notMem_utf8EncodeChar hc (List.mem_of_mem_drop hmem)

theorem tailOfBytes_encoded
    (bytes : Int) (s : List Char) :
    tailOfBytes bytes (Text.encoded s) = tail bytes s := by
  unfold tailOfBytes tail
  rw [length_encoded]
  dsimp only
  split
  · exact Text.decode_encoded s
  · rw [afterLineFeed_drop_encoded]
    exact Text.decode_encoded _

/-- What a query finds in the bytes of a text is what it finds in the text. -/
theorem readBytes_encoded
    (log : String) (bytes : Int) (q : Query) :
    readBytes (Text.encoded log.toList) bytes q = read log bytes q := by
  rw [readBytes, tailOfBytes_encoded]
  rfl

end Lemmas

end EventLog
end Spreadsheet
