/-
# UTF-8

Encoding of characters as bytes, strict decoding, and lossy decoding, which never fails: each
maximal run of bytes that starts a character without completing it becomes one replacement
character.  The main statements say that both kinds of decoding undo encoding.
-/

namespace BenchRoster.Text

/-- The bytes of one character. -/
def encodeChar (c : Char) : List UInt8 :=
  let n := c.toNat
  if n < 0x80 then [n.toUInt8]
  else if n < 0x800 then [(0xC0 + n / 0x40).toUInt8, (0x80 + n % 0x40).toUInt8]
  else if n < 0x10000 then
    [(0xE0 + n / 0x1000).toUInt8, (0x80 + n / 0x40 % 0x40).toUInt8, (0x80 + n % 0x40).toUInt8]
  else
    [(0xF0 + n / 0x40000).toUInt8, (0x80 + n / 0x1000 % 0x40).toUInt8,
      (0x80 + n / 0x40 % 0x40).toUInt8, (0x80 + n % 0x40).toUInt8]

/-- The bytes of a list of characters. -/
def encode (cs : List Char) : List UInt8 := cs.flatMap encodeChar

/-- The bytes of a text. -/
def utf8 (s : String) : List UInt8 := encode s.toList

/-- The number of bytes that a character takes. -/
def charWidth (c : Char) : Nat := (encodeChar c).length

/-- What can follow the first byte of a character: how many bytes, the bounds of the first of
them, and the bits that the first byte itself gives. -/
structure Lead where
  more : Nat
  low : UInt8
  high : UInt8
  bits : Nat
deriving Repr

/-- The role of a byte at the start of a character, if it can start one.  The narrower bounds after
`E0`, `ED`, `F0` and `F4` exclude overlong forms, surrogates and numbers past `10FFFF`. -/
def lead? (b : UInt8) : Option Lead :=
  let n := b.toNat
  if n < 0x80 then some ⟨0, 0x80, 0xBF, n⟩
  else if n < 0xC2 then none
  else if n < 0xE0 then some ⟨1, 0x80, 0xBF, n - 0xC0⟩
  else if n < 0xF0 then
    some ⟨2, if n = 0xE0 then 0xA0 else 0x80, if n = 0xED then 0x9F else 0xBF, n - 0xE0⟩
  else if n < 0xF5 then
    some ⟨3, if n = 0xF0 then 0x90 else 0x80, if n = 0xF4 then 0x8F else 0xBF, n - 0xF0⟩
  else none

/-- A byte within bounds. -/
def within (low high b : UInt8) : Bool := low ≤ b && b ≤ high

/-- Reads `more` further bytes of a character, the first of them within the given bounds.
Answers the number read so far, how many bytes are missing, and the rest. -/
def readMore (low high : UInt8) (acc : Nat) : Nat → List UInt8 → Nat × Nat × List UInt8
  | 0, bs => (acc, 0, bs)
  | more + 1, [] => (acc, more + 1, [])
  | more + 1, b :: bs =>
    if within low high b then readMore 0x80 0xBF (acc * 0x40 + (b.toNat - 0x80)) more bs
    else (acc, more + 1, b :: bs)

theorem readMore_length (low high : UInt8) (acc more : Nat) (bs : List UInt8) :
    (readMore low high acc more bs).2.2.length ≤ bs.length := by
  induction more generalizing low high acc bs with
  | zero => simp [readMore]
  | succ more ih =>
    cases bs with
    | nil => simp [readMore]
    | cons b bs =>
      rw [readMore]
      split
      · exact Nat.le_succ_of_le (ih ..)
      · simp

/-- The replacement character. -/
def replacement : Char := '\uFFFD'

/-- One step of decoding: a character, or nothing for a broken sequence, and the rest. -/
def decodeStep (b : UInt8) (bs : List UInt8) : Option Char × List UInt8 :=
  match lead? b with
  | none => (none, bs)
  | some l =>
    match readMore l.low l.high l.bits l.more bs with
    | (n, 0, rest) => (some (Char.ofNat n), rest)
    | (_, _ + 1, rest) => (none, rest)

theorem decodeStep_length (b : UInt8) (bs : List UInt8) :
    (decodeStep b bs).2.length ≤ bs.length := by
  unfold decodeStep
  split
  · simp
  · rename_i l _
    have := readMore_length l.low l.high l.bits l.more bs
    split <;> simp_all

/-- Decodes bytes; each broken sequence becomes one replacement character. -/
def decodeLossy : List UInt8 → List Char
  | [] => []
  | b :: bs => (decodeStep b bs).1.getD replacement :: decodeLossy (decodeStep b bs).2
termination_by bs => bs.length
decreasing_by
  have := decodeStep_length b bs
  simp only [List.length_cons]
  omega

/-- Decodes bytes that must be well formed throughout. -/
def decode? : List UInt8 → Option (List Char)
  | [] => some []
  | b :: bs =>
    match (decodeStep b bs).1 with
    | none => none
    | some c => (decode? (decodeStep b bs).2).map (c :: ·)
termination_by bs => bs.length
decreasing_by
  have := decodeStep_length b bs
  simp only [List.length_cons]
  omega

/-- The text of well-formed bytes. -/
def ofUtf8? (bs : List UInt8) : Option String := (decode? bs).map String.ofList

/-- The text of any bytes, with replacement characters for what is broken. -/
def ofUtf8Lossy (bs : List UInt8) : String := String.ofList (decodeLossy bs)

/-! ## Decoding what has been encoded -/

theorem toNat_toUInt8 {n : Nat} (h : n < 256) : n.toUInt8.toNat = n := by
  show n % 256 = n
  omega

theorem within_iff {low high b : UInt8} :
    within low high b = true ↔ low.toNat ≤ b.toNat ∧ b.toNat ≤ high.toNat := by
  simp [within, UInt8.le_iff_toNat_le]

/-- A byte within the bounds adds its last six bits. -/
theorem readMore_byte {low high : UInt8} {acc more x : Nat} (bs : List UInt8) (hx : x < 256)
    (hl : low.toNat ≤ x) (hh : x ≤ high.toNat) :
    readMore low high acc (more + 1) (x.toUInt8 :: bs) =
      readMore 0x80 0xBF (acc * 0x40 + (x - 0x80)) more bs := by
  rw [readMore, if_pos (within_iff.2 (by rw [toNat_toUInt8 hx]; exact ⟨hl, hh⟩)),
    toNat_toUInt8 hx]

theorem char_bounds (c : Char) : c.toNat < 0x110000 ∧ (c.toNat < 0xD800 ∨ 0xDFFF < c.toNat) := by
  have h := c.valid
  rcases h with h | ⟨h, h'⟩
  · have : c.toNat < 0xD800 := h
    omega
  · have h1 : 0xDFFF < c.toNat := h
    have h2 : c.toNat < 0x110000 := h'
    omega

/-- Decoding takes an encoded character off the front. -/
theorem decodeStep_encodeChar (c : Char) (rest : List UInt8) :
    ∃ b bs, encodeChar c ++ rest = b :: bs ∧ decodeStep b bs = (some c, rest) := by
  have ⟨hn, hs⟩ := char_bounds c
  unfold encodeChar
  dsimp only
  generalize hc : c.toNat = n at hn hs
  have hback : Char.ofNat n = c := by rw [← hc]; exact Char.ofNat_toNat c
  split
  · simp only [List.cons_append, List.nil_append]
    refine ⟨_, _, rfl, ?_⟩
    simp only [decodeStep, lead?, toNat_toUInt8 (show n < 256 by omega)]
    rw [if_pos (by assumption)]
    simp [readMore, hback]
  · split
    · simp only [List.cons_append, List.nil_append]
      refine ⟨_, _, rfl, ?_⟩
      have e : (0xC0 + n / 0x40).toUInt8.toNat = 0xC0 + n / 0x40 := toNat_toUInt8 (by omega)
      simp only [decodeStep, lead?, e]
      rw [if_neg (by omega), if_neg (by omega), if_pos (by omega)]
      dsimp only
      rw [readMore_byte _ (by omega) (by simp) (by simp; omega)]
      simp only [readMore]
      rw [show (0xC0 + n / 0x40 - 0xC0) * 0x40 + (0x80 + n % 0x40 - 0x80) = n by omega, hback]
    · split
      · simp only [List.cons_append, List.nil_append]
        refine ⟨_, _, rfl, ?_⟩
        have e : (0xE0 + n / 0x1000).toUInt8.toNat = 0xE0 + n / 0x1000 := toNat_toUInt8 (by omega)
        simp only [decodeStep, lead?, e]
        rw [if_neg (by omega), if_neg (by omega), if_neg (by omega), if_pos (by omega)]
        dsimp only
        rw [readMore_byte _ (by omega) (by split <;> simp; omega) (by split <;> simp <;> omega),
          readMore_byte _ (by omega) (by simp) (by simp; omega)]
        simp only [readMore]
        rw [show ((0xE0 + n / 0x1000 - 0xE0) * 0x40 + (0x80 + n / 0x40 % 0x40 - 0x80)) * 0x40 +
          (0x80 + n % 0x40 - 0x80) = n by omega, hback]
      · simp only [List.cons_append, List.nil_append]
        refine ⟨_, _, rfl, ?_⟩
        have e : (0xF0 + n / 0x40000).toUInt8.toNat = 0xF0 + n / 0x40000 := toNat_toUInt8 (by omega)
        simp only [decodeStep, lead?, e]
        rw [if_neg (by omega), if_neg (by omega), if_neg (by omega), if_neg (by omega),
          if_pos (by omega)]
        dsimp only
        rw [readMore_byte _ (by omega) (by split <;> simp; omega) (by split <;> simp <;> omega),
          readMore_byte _ (by omega) (by simp) (by simp; omega),
          readMore_byte _ (by omega) (by simp) (by simp; omega)]
        simp only [readMore]
        rw [show (((0xF0 + n / 0x40000 - 0xF0) * 0x40 + (0x80 + n / 0x1000 % 0x40 - 0x80)) * 0x40 +
          (0x80 + n / 0x40 % 0x40 - 0x80)) * 0x40 + (0x80 + n % 0x40 - 0x80) = n by omega, hback]

/-- Strict decoding undoes encoding. -/
theorem decode?_encode (cs : List Char) : decode? (encode cs) = some cs := by
  induction cs with
  | nil => rw [encode, List.flatMap_nil, decode?]
  | cons c cs ih =>
    obtain ⟨b, bs, he, hd⟩ := decodeStep_encodeChar c (encode cs)
    rw [encode, List.flatMap_cons, show cs.flatMap encodeChar = encode cs from rfl, he, decode?, hd]
    simp [ih]

/-- Lossy decoding loses nothing of what is well formed. -/
theorem decodeLossy_encode (cs : List Char) : decodeLossy (encode cs) = cs := by
  induction cs with
  | nil => rw [encode, List.flatMap_nil, decodeLossy]
  | cons c cs ih =>
    obtain ⟨b, bs, he, hd⟩ := decodeStep_encodeChar c (encode cs)
    rw [encode, List.flatMap_cons, show cs.flatMap encodeChar = encode cs from rfl, he, decodeLossy,
      hd]
    simp [ih]

end BenchRoster.Text
