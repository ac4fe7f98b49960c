/-
# Bytes that are a text

Strict decoding takes exactly those bytes that some text is encoded as.

* `Text.eq_encodeChar_append` says that a step of decoding takes the bytes of one character off the
  front;
* `Text.ofUtf8?_eq_some_iff` says the same of whole texts.
-/
import BenchRoster.Text.Utf8
import Mathlib.Tactic.Lemma

namespace BenchRoster.Text

/-! ## The bytes of one character -/

/-- The number of a character, where there is a character of this number. -/
lemma toNat_ofNat {n : Nat} (h : n < 0xD800 ∨ 0xDFFF < n ∧ n < 0x110000) :
    (Char.ofNat n).toNat = n := by
  have hv : n.isValidChar := h
  rw [Char.ofNat, dif_pos hv]
  rfl

/-- A byte is made of its number. -/
lemma toUInt8_eq {n : Nat} {b : UInt8} (h : n = b.toNat) : n.toUInt8 = b := by
  subst h
  exact UInt8.ofNat_toNat

section Bytes

variable {n : Nat} {b₀ b₁ b₂ b₃ : UInt8}

lemma encodeChar_one (h : b₀.toNat < 0x80) : encodeChar (Char.ofNat b₀.toNat) = [b₀] := by
  simp only [encodeChar]
  rw [toNat_ofNat (by omega), if_pos h, toUInt8_eq rfl]

lemma encodeChar_two (h₀ : 0xC2 ≤ b₀.toNat) (h₀' : b₀.toNat < 0xE0) (h₁ : 0x80 ≤ b₁.toNat)
    (h₁' : b₁.toNat ≤ 0xBF) (hn : n = (b₀.toNat - 0xC0) * 0x40 + (b₁.toNat - 0x80)) :
    encodeChar (Char.ofNat n) = [b₀, b₁] := by
  simp only [encodeChar]
  rw [toNat_ofNat (by omega), if_neg (by omega), if_pos (by omega),
    toUInt8_eq (b := b₀) (by omega), toUInt8_eq (b := b₁) (by omega)]

/-- The bounds of the second byte keep out overlong forms and surrogates. -/
lemma encodeChar_three (h₀ : 0xE0 ≤ b₀.toNat) (h₀' : b₀.toNat < 0xF0)
    (h₁ : (if b₀.toNat = 0xE0 then 0xA0 else 0x80) ≤ b₁.toNat)
    (h₁' : b₁.toNat ≤ if b₀.toNat = 0xED then 0x9F else 0xBF) (h₂ : 0x80 ≤ b₂.toNat)
    (h₂' : b₂.toNat ≤ 0xBF)
    (hn : n = ((b₀.toNat - 0xE0) * 0x40 + (b₁.toNat - 0x80)) * 0x40 + (b₂.toNat - 0x80)) :
    encodeChar (Char.ofNat n) = [b₀, b₁, b₂] := by
  have hl : 0x800 ≤ n := by split at h₁ <;> omega
  have hs : n < 0xD800 ∨ 0xDFFF < n := by split at h₁ <;> split at h₁' <;> omega
  have hu : b₁.toNat ≤ 0xBF := by split at h₁' <;> omega
  have hd : 0x80 ≤ b₁.toNat := by split at h₁ <;> omega
  simp only [encodeChar]
  rw [toNat_ofNat (by omega), if_neg (by omega), if_neg (by omega), if_pos (by omega),
    toUInt8_eq (b := b₀) (by omega), toUInt8_eq (b := b₁) (by omega),
    toUInt8_eq (b := b₂) (by omega)]

/-- The bounds of the second byte keep out overlong forms and numbers past the last one. -/
lemma encodeChar_four (h₀ : 0xF0 ≤ b₀.toNat) (h₀' : b₀.toNat < 0xF5)
    (h₁ : (if b₀.toNat = 0xF0 then 0x90 else 0x80) ≤ b₁.toNat)
    (h₁' : b₁.toNat ≤ if b₀.toNat = 0xF4 then 0x8F else 0xBF) (h₂ : 0x80 ≤ b₂.toNat)
    (h₂' : b₂.toNat ≤ 0xBF) (h₃ : 0x80 ≤ b₃.toNat) (h₃' : b₃.toNat ≤ 0xBF)
    (hn : n = (((b₀.toNat - 0xF0) * 0x40 + (b₁.toNat - 0x80)) * 0x40 + (b₂.toNat - 0x80)) * 0x40 +
      (b₃.toNat - 0x80)) :
    encodeChar (Char.ofNat n) = [b₀, b₁, b₂, b₃] := by
  have hl : 0x10000 ≤ n := by split at h₁ <;> omega
  have hs : n < 0x110000 := by split at h₁' <;> omega
  have hu : b₁.toNat ≤ 0xBF := by split at h₁' <;> omega
  have hd : 0x80 ≤ b₁.toNat := by split at h₁ <;> omega
  simp only [encodeChar]
  rw [toNat_ofNat (by omega), if_neg (by omega), if_neg (by omega), if_neg (by omega),
    toUInt8_eq (b := b₀) (by omega), toUInt8_eq (b := b₁) (by omega),
    toUInt8_eq (b := b₂) (by omega), toUInt8_eq (b := b₃) (by omega)]

end Bytes

/-! ## Decoding -/

/-- Where another byte is to be read and was, there is one within the bounds. -/
lemma exists_of_readMore {low high : UInt8} {acc more n : Nat} {bs rest : List UInt8}
    (h : readMore low high acc (more + 1) bs = (n, 0, rest)) :
    ∃ b ds, bs = b :: ds ∧ low.toNat ≤ b.toNat ∧ b.toNat ≤ high.toNat ∧
      readMore 0x80 0xBF (acc * 0x40 + (b.toNat - 0x80)) more ds = (n, 0, rest) := by
  cases bs with
  | nil => simp [readMore] at h
  | cons b ds =>
    rw [readMore] at h
    split at h
    · rename_i hb
      obtain ⟨hl, hh⟩ := within_iff.1 hb
      exact ⟨b, ds, rfl, hl, hh, h⟩
    · simp at h

/-- Where nothing more is to be read, the number is there. -/
lemma eq_of_readMore_zero {low high : UInt8} {acc n : Nat} {bs rest : List UInt8}
    (h : readMore low high acc 0 bs = (n, 0, rest)) : n = acc ∧ bs = rest := by
  simp only [readMore, Prod.mk.injEq] at h
  exact ⟨h.1.symm, h.2.2⟩

/-- The four kinds of bytes that a character can start with. -/
lemma lead?_cases {b : UInt8} {l : Lead} (h : lead? b = some l) :
    (b.toNat < 0x80 ∧ l = ⟨0, 0x80, 0xBF, b.toNat⟩) ∨
      (0xC2 ≤ b.toNat ∧ b.toNat < 0xE0 ∧ l = ⟨1, 0x80, 0xBF, b.toNat - 0xC0⟩) ∨
      (0xE0 ≤ b.toNat ∧ b.toNat < 0xF0 ∧
        l = ⟨2, if b.toNat = 0xE0 then 0xA0 else 0x80, if b.toNat = 0xED then 0x9F else 0xBF,
          b.toNat - 0xE0⟩) ∨
      (0xF0 ≤ b.toNat ∧ b.toNat < 0xF5 ∧
        l = ⟨3, if b.toNat = 0xF0 then 0x90 else 0x80, if b.toNat = 0xF4 then 0x8F else 0xBF,
          b.toNat - 0xF0⟩) := by
  unfold lead? at h
  dsimp only at h
  by_cases h₁ : b.toNat < 0x80
  · rw [if_pos h₁] at h
    exact .inl ⟨h₁, (Option.some.inj h).symm⟩
  rw [if_neg h₁] at h
  by_cases h₂ : b.toNat < 0xC2
  · rw [if_pos h₂] at h
    cases h
  rw [if_neg h₂] at h
  by_cases h₃ : b.toNat < 0xE0
  · rw [if_pos h₃] at h
    exact .inr (.inl ⟨Nat.not_lt.1 h₂, h₃, (Option.some.inj h).symm⟩)
  rw [if_neg h₃] at h
  by_cases h₄ : b.toNat < 0xF0
  · rw [if_pos h₄] at h
    exact .inr (.inr (.inl ⟨Nat.not_lt.1 h₃, h₄, (Option.some.inj h).symm⟩))
  rw [if_neg h₄] at h
  by_cases h₅ : b.toNat < 0xF5
  · rw [if_pos h₅] at h
    exact .inr (.inr (.inr ⟨Nat.not_lt.1 h₄, h₅, (Option.some.inj h).symm⟩))
  · rw [if_neg h₅] at h
    cases h

/-- A step that gives a character has taken the bytes of it off the front. -/
lemma eq_encodeChar_append {b : UInt8} {bs rest : List UInt8} {c : Char}
    (h : decodeStep b bs = (some c, rest)) : b :: bs = encodeChar c ++ rest := by
  obtain ⟨l, n, hl, hr, rfl⟩ : ∃ l n, lead? b = some l ∧
      readMore l.low l.high l.bits l.more bs = (n, 0, rest) ∧ Char.ofNat n = c := by
    unfold decodeStep at h
    split at h
    · cases h
    · rename_i l hl
      split at h
      · rename_i n r hr
        cases h
        exact ⟨l, n, hl, hr, rfl⟩
      · cases h
  rcases lead?_cases hl with ⟨h₀, rfl⟩ | ⟨h₀, h₀', rfl⟩ | ⟨h₀, h₀', rfl⟩ | ⟨h₀, h₀', rfl⟩
  · obtain ⟨rfl, rfl⟩ := eq_of_readMore_zero hr
    rw [encodeChar_one h₀]
    rfl
  · obtain ⟨b₁, ds, rfl, h₁, h₁', hr⟩ := exists_of_readMore hr
    obtain ⟨hn, rfl⟩ := eq_of_readMore_zero hr
    rw [encodeChar_two h₀ h₀' h₁ h₁' hn]
    rfl
  · obtain ⟨b₁, ds, rfl, h₁, h₁', hr⟩ := exists_of_readMore hr
    obtain ⟨b₂, ds, rfl, h₂, h₂', hr⟩ := exists_of_readMore hr
    obtain ⟨hn, rfl⟩ := eq_of_readMore_zero hr
    rw [apply_ite UInt8.toNat] at h₁ h₁'
    rw [encodeChar_three h₀ h₀' h₁ h₁' h₂ h₂' hn]
    rfl
  · obtain ⟨b₁, ds, rfl, h₁, h₁', hr⟩ := exists_of_readMore hr
    obtain ⟨b₂, ds, rfl, h₂, h₂', hr⟩ := exists_of_readMore hr
    obtain ⟨b₃, ds, rfl, h₃, h₃', hr⟩ := exists_of_readMore hr
    obtain ⟨hn, rfl⟩ := eq_of_readMore_zero hr
    rw [apply_ite UInt8.toNat] at h₁ h₁'
    rw [encodeChar_four h₀ h₀' h₁ h₁' h₂ h₂' h₃ h₃' hn]
    rfl

/-- Bytes that are decoded are those of what they are decoded to. -/
lemma encode_of_decode? {bs : List UInt8} {cs : List Char} (h : decode? bs = some cs) :
    encode cs = bs := by
  fun_induction decode? bs generalizing cs with
  | case1 => 
    cases h
    rfl
  | case2 b bs hd => cases h
  | case3 b bs c hd ih =>
    obtain ⟨ds, hds, rfl⟩ := Option.map_eq_some_iff.1 h
    have hstep : decodeStep b bs = (some c, (decodeStep b bs).2) := Prod.ext hd rfl
    rw [eq_encodeChar_append hstep, ← ih hds]
    rfl

/-- Bytes are read as a text exactly if they are the bytes of it. -/
lemma ofUtf8?_eq_some_iff {bs : List UInt8} {s : String} : ofUtf8? bs = some s ↔ bs = utf8 s := by
  constructor
  · intro h
    obtain ⟨cs, hcs, rfl⟩ := Option.map_eq_some_iff.1 h
    rw [utf8, String.toList_ofList, encode_of_decode? hcs]
  · rintro rfl
    rw [ofUtf8?, utf8, decode?_encode, Option.map_some, String.ofList_toList]

end BenchRoster.Text
