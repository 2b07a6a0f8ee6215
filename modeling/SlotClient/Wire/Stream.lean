import SlotClient.Wire.Reading

/-!
# Streams of replies

Replies follow each other on a connection without anything between them. A stream is read by taking
replies from its front until one fails, at the latest for want of bytes. This ends, because reading
a reply consumes at least one byte if there is any, and fails if there is none.
-/

namespace SlotClient.Wire

variable (fault : Option TransportFault)

theorem length_readLine_lt {bytes : Bytes} (nonempty : bytes ≠ []) :
    (readLine fault bytes).2.length < bytes.length := by
  have positive : 0 < bytes.length := List.length_pos_iff.mpr nonempty
  have parts := congrArg List.length
    (@List.takeWhile_append_dropWhile _ (· != Bytes.lineFeed) bytes)
  rw [List.length_append] at parts
  simp only [readLine]
  split
  · exact positive
  · split
    · exact positive
    · split <;> exact positive
  · rename_i behind
    rw [behind, List.length_cons] at parts
    split <;> dsimp only <;> omega

theorem length_readLine_le (bytes : Bytes) :
    (readLine fault bytes).2.length ≤ bytes.length := by
  by_cases empty : bytes = []
  · subst empty
    cases fault <;> simp [readLine]
  · exact Nat.le_of_lt (length_readLine_lt fault empty)

theorem length_readExactly_le (count : Nat) (bytes : Bytes) :
    (readExactly fault count bytes).2.length ≤ bytes.length := by
  unfold readExactly
  split <;> simp

theorem length_readBulk_le (length : Nat) (bytes : Bytes) :
    (readBulk fault length bytes).2.length ≤ bytes.length := by
  have body := length_readExactly_le fault length bytes
  unfold readBulk
  split
  · exact Nat.le_refl _
  · split
    · rename_i failed
      simpa only [failed] using body
    · rename_i rest readBody
      have lineEnd := length_readExactly_le fault 2 rest
      rw [readBody] at body
      split <;> rename_i readEnd <;> rw [readEnd] at lineEnd
      · exact Nat.le_trans lineEnd body
      · split <;> exact Nat.le_trans lineEnd body

theorem length_readItems_le {readItem : Bytes → Outcome Value}
    (readItem_le : ∀ bytes, (readItem bytes).2.length ≤ bytes.length) (count : Nat)
    (bytes : Bytes) : (readItems readItem count bytes).2.length ≤ bytes.length := by
  induction count generalizing bytes with
  | zero => exact Nat.le_refl _
  | succ count shorter =>
    have first := readItem_le bytes
    unfold readItems
    split
    · rename_i failed
      simpa only [failed] using first
    · rename_i rest readFirst
      have others := shorter rest
      rw [readFirst] at first
      split <;> rename_i readOthers <;> rw [readOthers] at others <;>
        exact Nat.le_trans others first

theorem length_readMarked_le {readItem : Bytes → Outcome Value}
    (readItem_le : ∀ bytes, (readItem bytes).2.length ≤ bytes.length) (marker : UInt8)
    (content rest : Bytes) :
    (readMarked fault readItem marker content rest).2.length ≤ rest.length := by
  unfold readMarked
  split
  · exact Nat.le_refl _
  split
  · exact Nat.le_refl _
  split
  · exact Nat.le_refl _
  rename_i number _
  split
  · exact Nat.le_refl _
  split
  · split
    · exact Nat.le_refl _
    · exact length_readBulk_le fault _ _
  split
  · split
    · exact Nat.le_refl _
    · have items := length_readItems_le readItem_le number.toInt.toNat rest
      split <;> rename_i readAll <;> rw [readAll] at items <;> exact items
  · exact Nat.le_refl _

theorem length_readNested_le (depth : Nat) (bytes : Bytes) :
    (readNested fault depth bytes).2.length ≤ bytes.length := by
  induction depth generalizing bytes with
  | zero => exact Nat.le_refl _
  | succ depth shorter =>
    have line := length_readLine_le fault bytes
    unfold readNested
    split <;> rename_i readFirst <;> rw [readFirst] at line
    · exact line
    · exact line
    · exact Nat.le_trans (length_readMarked_le fault shorter _ _ _) line

theorem length_lt_of_readNested {depth : Nat} {bytes rest : Bytes} {value : Value}
    (succeeded : readNested fault depth bytes = (.ok value, rest)) :
    rest.length < bytes.length := by
  cases depth with
  | zero => simp [readNested] at succeeded
  | succ depth =>
    have nonempty : bytes ≠ [] := by
      intro empty
      subst empty
      cases fault <;> simp [readNested, readLine] at succeeded
    have line := length_readLine_lt fault nonempty
    unfold readNested at succeeded
    split at succeeded
    · simp at succeeded
    · simp at succeeded
    · rename_i marker content remainder readFirst
      have marked := length_readMarked_le fault
        (length_readNested_le fault depth) marker content remainder
      rw [readFirst] at line
      rw [succeeded] at marked
      exact Nat.lt_of_le_of_lt marked line

/-- What is read from a stream: the replies, the failure that ends them, and the bytes that are
left. -/
structure Drained where
  replies : List Value
  failure : Failure
  unread : Bytes

def readAll (fault : Option TransportFault) (bytes : Bytes) : Drained :=
  match succeeded : read fault bytes with
  | (.error failure, rest) => ⟨[], failure, rest⟩
  | (.ok value, rest) =>
    have : rest.length < bytes.length := length_lt_of_readNested fault succeeded
    let drained := readAll fault rest
    { drained with replies := value :: drained.replies }
termination_by bytes.length

end SlotClient.Wire
