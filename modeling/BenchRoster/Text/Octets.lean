/-
# Octets

Programs of a system treat text as bytes, whatever they may encode.  A byte is held here as the
character of its number, its octet, so that texts of bytes can be written and taken apart like any
others.  The main statement says that bytes come back from their octets.
-/
import BenchRoster.Text.Utf8

namespace BenchRoster.Octets

/-- The octet of a byte. -/
def ofByte (b : UInt8) : Char := Char.ofNat b.toNat

/-- The byte of an octet. -/
def toByte (c : Char) : UInt8 := c.toNat.toUInt8

/-- The octets of bytes. -/
def ofBytes (b : List UInt8) : List Char := b.map ofByte

/-- The bytes of octets. -/
def toBytes (cs : List Char) : List UInt8 := cs.map toByte

/-- The octets in which a text is encoded. -/
def ofText (s : String) : String := String.ofList (ofBytes (Text.utf8 s))

/-- The text that octets encode, with replacement characters for what is broken. -/
def toText (s : String) : String := Text.ofUtf8Lossy (toBytes s.toList)

theorem toByte_ofByte (b : UInt8) : toByte (ofByte b) = b := by
  have hb : b.toNat < 256 := b.toNat_lt
  have hv : b.toNat.isValidChar := .inl (Nat.lt_trans hb (by decide))
  have hn : (ofByte b).toNat = b.toNat := by
    rw [ofByte, Char.ofNat, dif_pos hv]
    rfl
  rw [toByte, hn]
  exact UInt8.ofNat_toNat

theorem toBytes_ofBytes (b : List UInt8) : toBytes (ofBytes b) = b := by
  simp [toBytes, ofBytes, Function.comp_def, toByte_ofByte]

end BenchRoster.Octets
