import SlotClient.Bytes

/-!
# Checksum of keys

The cyclic redundancy check of sixteen bits with the polynomial `x^16 + x^12 + x^5 + 1`, the most
significant bit first, starting from zero. A table holds the effect of eight single-bit shifts for
every byte, so that each byte of the input costs one look-up.
-/

namespace SlotClient.Checksum

/-- The low bits of the generating polynomial. -/
def polynomial : UInt16 := 0x1021

/-- Multiplies the register by `x` and reduces it by the polynomial. -/
def shift (register : UInt16) : UInt16 :=
  if register &&& 0x8000 = 0 then register <<< 1 else (register <<< 1) ^^^ polynomial

def shifts : Nat → UInt16 → UInt16
  | 0, register => register
  | count + 1, register => shifts count (shift register)

/-- The register after eight shifts of every byte in the high half. -/
def table : Vector UInt16 256 :=
  Vector.ofFn fun byte => shifts 8 (UInt16.ofNat byte.val <<< 8)

/-- Takes one byte into the register by a look-up in the table. -/
def step (register : UInt16) (byte : UInt8) : UInt16 :=
  (register <<< 8) ^^^ table.get ((register >>> 8).toUInt8 ^^^ byte).toFin

def ofBytes (bytes : Bytes) : UInt16 := bytes.foldl step 0

end SlotClient.Checksum
