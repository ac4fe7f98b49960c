/-
# CRC-32

The cyclic redundancy check with the reflected polynomial `0xEDB88320`, all bits of the register
set at the start and flipped at the end.
-/

namespace BenchRoster

namespace Crc

/-- The generator polynomial, lowest bit first. -/
def polynomial : UInt32 := 0xEDB88320

/-- Shifts one bit out of the register. -/
def bitStep (crc : UInt32) : UInt32 :=
  if crc &&& 1 = 1 then (crc >>> 1) ^^^ polynomial else crc >>> 1

/-- Shifts `n` bits out of the register. -/
def bits : Nat → UInt32 → UInt32
  | 0, crc => crc
  | n + 1, crc => bits n (bitStep crc)

/-- Takes one byte into the register. -/
def byteStep (crc : UInt32) (b : UInt8) : UInt32 := bits 8 (crc ^^^ b.toUInt32)

end Crc

/-- The checksum of a sequence of bytes. -/
def crc32 (bytes : List UInt8) : UInt32 :=
  bytes.foldl Crc.byteStep 0xFFFFFFFF ^^^ 0xFFFFFFFF

/-- The check value of the nine digits `123456789`. -/
example : crc32 [0x31, 0x32, 0x33, 0x34, 0x35, 0x36, 0x37, 0x38, 0x39] = 0xCBF43926 := by
  decide +kernel

end BenchRoster
