import SlotClient.Bytes

/-!
# Reading UTF-8

A byte string is cut into pieces: each is either one character or a longest run of bytes that
begins a character without finishing it (a byte that can begin none is a run of its own). The
strict reading accepts a byte string all of whose pieces are characters; the lossy reading puts
the replacement character U+FFFD in place of every other piece.
-/

namespace SlotClient.Utf8

/-- What a leading byte announces: how many bytes follow it, the bits it contributes, and the
range of the byte after it, which excludes overlong forms, surrogates and numbers past U+10FFFF. -/
structure Lead where
  following : Nat
  bits : Nat
  low : UInt8
  high : UInt8

/-- The announcement of a byte that begins a character of two or more bytes. -/
def lead? (byte : UInt8) : Option Lead :=
  if 0xC2 ≤ byte && byte ≤ 0xDF then some ⟨1, byte.toNat - 0xC0, 0x80, 0xBF⟩
  else if byte = 0xE0 then some ⟨2, 0, 0xA0, 0xBF⟩
  else if byte = 0xED then some ⟨2, 0xD, 0x80, 0x9F⟩
  else if 0xE1 ≤ byte && byte ≤ 0xEF then some ⟨2, byte.toNat - 0xE0, 0x80, 0xBF⟩
  else if byte = 0xF0 then some ⟨3, 0, 0x90, 0xBF⟩
  else if 0xF1 ≤ byte && byte ≤ 0xF3 then some ⟨3, byte.toNat - 0xF0, 0x80, 0xBF⟩
  else if byte = 0xF4 then some ⟨3, 4, 0x80, 0x8F⟩
  else none

/-- Reads the bytes that follow a leading one. The first must lie in the given range, the others
in that of all continuing bytes; at the first that does not, the piece ends unfinished. -/
def continued : Nat → Nat → UInt8 → UInt8 → Bytes → Option Char × Bytes
  | 0, bits, _, _, rest => (some (Char.ofNat bits), rest)
  | _ + 1, _, _, _, [] => (none, [])
  | following + 1, bits, low, high, byte :: rest =>
    if low ≤ byte && byte ≤ high then
      continued following (bits * 64 + (byte.toNat - 0x80)) 0x80 0xBF rest
    else (none, byte :: rest)

theorem length_continued_le (following bits : Nat) (low high : UInt8) (bytes : Bytes) :
    (continued following bits low high bytes).2.length ≤ bytes.length := by
  induction following generalizing bits low high bytes with
  | zero => simp [continued]
  | succ following inductionHypothesis =>
    cases bytes with
    | nil => simp [continued]
    | cons byte rest =>
      unfold continued
      split
      · exact Nat.le_succ_of_le (inductionHypothesis _ _ _ _)
      · simp

/-- Cuts a byte string into characters and unfinished pieces. -/
def pieces : Bytes → List (Option Char)
  | [] => []
  | byte :: rest =>
    if byte < 0x80 then some (Char.ofNat byte.toNat) :: pieces rest
    else match lead? byte with
      | none => none :: pieces rest
      | some lead =>
        have := length_continued_le lead.following lead.bits lead.low lead.high rest
        let reading := continued lead.following lead.bits lead.low lead.high rest
        reading.1 :: pieces reading.2
termination_by bytes => bytes.length
decreasing_by all_goals simp_wf <;> omega

def text? (bytes : Bytes) : Option String :=
  ((pieces bytes).mapM id).map String.ofList

/-- The character that stands for bytes that are no character. -/
def replacement : Char := '\uFFFD'

/-- The text of a byte string, with a replacement character for every unfinished piece. -/
def lossyText (bytes : Bytes) : String :=
  String.ofList ((pieces bytes).map (·.getD replacement))

end SlotClient.Utf8
