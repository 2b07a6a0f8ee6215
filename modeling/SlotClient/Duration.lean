/-!
# Durations

A span of time is a count of whole seconds and of the nanoseconds beyond them. Where it is written
down it is counted in milliseconds: what is left of a millisecond is dropped, and a count that takes
more than sixty-four bits is cut off.
-/

namespace SlotClient

/-- A span of time: whole seconds, and nanoseconds that make less than a second. -/
structure Duration where
  seconds : UInt64
  nanoseconds : UInt32
  isFraction : nanoseconds.toNat < 1000000000
  deriving DecidableEq, Repr

namespace Duration

instance : OfNat Duration 0 := ⟨⟨0, 0, by decide⟩⟩

def ofMilliseconds (count : UInt64) : Duration where
  seconds := UInt64.ofNat (count.toNat / 1000)
  nanoseconds := UInt32.ofNat (count.toNat % 1000 * 1000000)
  isFraction := by
    have fraction := Nat.mod_le (count.toNat % 1000 * 1000000) (2 ^ 32)
    rw [UInt32.toNat_ofNat']
    omega

def milliseconds (duration : Duration) : UInt64 :=
  UInt64.ofNat (duration.seconds.toNat * 1000 + duration.nanoseconds.toNat / 1000000)

end Duration

end SlotClient
