/-
# Names and locators as texts

A name or a locator is the text that it was made of, unchanged, and it does not matter whether the
text was checked directly or was read from a JSON document: the same texts are accepted, and the
others are refused for the same reason.

* `NameBytes` and `whiteSpace` say which texts are accepted without reference to the checks;
* `CheckedText.readDocument_reader` compares reading a document with checking the text in it;
* `CheckedText.Faithful` is what holds of each type of checked texts, and `faithful_texts` says that
  it does hold of backend names, suite names and locators.
-/
import BenchRoster.Name.Exchange
import BenchRoster.Proofs.Drafts
import BenchRoster.Proofs.ReadBack

namespace BenchRoster

/-! ## The texts of names, by their bytes -/

/-- The byte of an ASCII letter or digit, a hyphen, an underscore or a full stop. -/
def NameByte (b : UInt8) : Prop :=
  (0x30 ≤ b.toNat ∧ b.toNat ≤ 0x39) ∨ (0x41 ≤ b.toNat ∧ b.toNat ≤ 0x5A) ∨
    (0x61 ≤ b.toNat ∧ b.toNat ≤ 0x7A) ∨ b.toNat = 0x2D ∨ b.toNat = 0x5F ∨ b.toNat = 0x2E

instance : DecidablePred NameByte := fun b => by unfold NameByte; infer_instance

/-- One to 64 bytes of names. -/
def NameBytes (bs : List UInt8) : Prop :=
  1 ≤ bs.length ∧ bs.length ≤ 64 ∧ ∀ b ∈ bs, NameByte b

/-- A character takes as many bytes as its encoding has. -/
lemma length_encodeChar (c : Char) : (Text.encodeChar c).length = c.utf8Size := by
  have hv : c.toNat = c.val.toNat := rfl
  simp only [Text.encodeChar, Char.utf8Size, UInt32.le_iff_toNat_le]
  split_ifs <;> simp_all <;> omega

lemma length_utf8 (s : String) : (Text.utf8 s).length = s.utf8ByteSize := by
  obtain ⟨cs, rfl⟩ : ∃ cs, s = String.ofList cs := ⟨s.toList, by simp⟩
  induction cs with
  | nil => rfl
  | cons c cs ih =>
    have hc : String.ofList (c :: cs) = String.singleton c ++ String.ofList cs := by
      rw [String.singleton_eq_ofList, ← String.ofList_append, List.singleton_append]
    rw [hc, String.utf8ByteSize_append, String.utf8ByteSize_singleton, ← ih]
    simp [Text.utf8, Text.encode, length_encodeChar]

/-- The letters and digits by their numbers. -/
lemma isAlphanum_iff {c : Char} : c.isAlphanum = true ↔
    (0x30 ≤ c.toNat ∧ c.toNat ≤ 0x39) ∨ (0x41 ≤ c.toNat ∧ c.toNat ≤ 0x5A) ∨
      (0x61 ≤ c.toNat ∧ c.toNat ≤ 0x7A) := by
  have hv : c.toNat = c.val.toNat := rfl
  have hA : 'A'.val.toNat = 0x41 := rfl
  have hZ : 'Z'.val.toNat = 0x5A := rfl
  have ha : 'a'.val.toNat = 0x61 := rfl
  have hz : 'z'.val.toNat = 0x7A := rfl
  have h0 : '0'.val.toNat = 0x30 := rfl
  have h9 : '9'.val.toNat = 0x39 := rfl
  delta Char.isAlphanum Char.isAlpha Char.isUpper Char.isLower Char.isDigit
  simp only [Bool.or_eq_true, Bool.and_eq_true, decide_eq_true_eq, UInt32.le_iff_toNat_le,
    ge_iff_le]
  omega

/-- A character beyond ASCII begins with a byte that no name has. -/
lemma exists_not_nameByte {c : Char} (h : 0x80 ≤ c.toNat) :
    ∃ b ∈ Text.encodeChar c, ¬NameByte b := by
  have hb := (Text.char_bounds c).1
  have hnot : ∀ n, 0xC0 ≤ n → n < 256 → ¬NameByte n.toUInt8 := by
    intro n hn hn'
    rw [NameByte, Text.toNat_toUInt8 hn']
    omega
  unfold Text.encodeChar
  dsimp only
  split_ifs
  · omega
  · exact ⟨_, List.mem_cons_self, hnot _ (by omega) (by omega)⟩
  · exact ⟨_, List.mem_cons_self, hnot _ (by omega) (by omega)⟩
  · exact ⟨_, List.mem_cons_self, hnot _ (by omega) (by omega)⟩

/-- The characters of names are those whose bytes are bytes of names. -/
lemma forall_nameByte_iff {c : Char} :
    (∀ b ∈ Text.encodeChar c, NameByte b) ↔
      c.isAlphanum = true ∨ c = '-' ∨ c = '_' ∨ c = '.' := by
  by_cases hc : c.toNat < 0x80
  · have he : Text.encodeChar c = [c.toNat.toUInt8] := by simp [Text.encodeChar, hc]
    have hyphen : c = '-' ↔ c.toNat = 0x2D := Char.toNat_inj.symm
    have underscore : c = '_' ↔ c.toNat = 0x5F := Char.toNat_inj.symm
    have stop : c = '.' ↔ c.toNat = 0x2E := Char.toNat_inj.symm
    rw [he, List.forall_mem_singleton, NameByte, Text.toNat_toUInt8 (by omega), isAlphanum_iff,
      hyphen, underscore, stop]
    omega
  · obtain ⟨b, hb, hn⟩ := exists_not_nameByte (Nat.not_lt.1 hc)
    refine iff_of_false (fun h => hn (h b hb)) ?_
    rintro (h | rfl | rfl | rfl)
    · rw [isAlphanum_iff] at h
      omega
    all_goals exact hc (by decide)

lemma nameBytes_iff {s : String} : NameBytes (Text.utf8 s) ↔ IsName s := by
  have hb : (∀ b ∈ Text.utf8 s, NameByte b) ↔
      ∀ c ∈ s.toList, c.isAlphanum = true ∨ c = '-' ∨ c = '_' ∨ c = '.' := by
    simp only [← forall_nameByte_iff, Text.utf8, Text.encode, List.mem_flatMap]
    grind
  have hn : 1 ≤ s.utf8ByteSize ↔ s.toList ≠ [] := by
    rw [Nat.one_le_iff_ne_zero, ne_eq, String.utf8ByteSize_eq_zero_iff, ne_eq,
      String.toList_eq_nil_iff]
  rw [NameBytes, length_utf8, hb, hn, IsName]

/-! ## White space -/

/-- The characters of the Unicode property `White_Space`. -/
def whiteSpace : List Char :=
  ['\t', '\n', '\x0b', '\x0c', '\r', ' ', '\u0085', '\u00a0', '\u1680', '\u2000', '\u2001',
    '\u2002', '\u2003', '\u2004', '\u2005', '\u2006', '\u2007', '\u2008', '\u2009', '\u200a',
    '\u2028', '\u2029', '\u202f', '\u205f', '\u3000']

lemma isBlank_iff {c : Char} : Text.isBlank c = true ↔ c ∈ whiteSpace := by
  constructor
  · intro h
    simp only [Text.isBlank, Bool.or_eq_true, Bool.and_eq_true, decide_eq_true_eq,
      beq_iff_eq] at h
    have hm : c.toNat ∈ whiteSpace.map Char.toNat := by
      simp only [whiteSpace, List.map_cons, List.map_nil, List.mem_cons, List.not_mem_nil,
        Char.reduceToNat]
      omega
    obtain ⟨d, hd, hn⟩ := List.mem_map.1 hm
    rwa [← Char.toNat_inj.1 hn]
  · have h : whiteSpace.all Text.isBlank = true := rfl
    exact List.all_eq_true.1 h c

lemma hasMark_iff {s : String} : HasMark s ↔ ∃ c ∈ s.toList, c ∉ whiteSpace := by
  simp only [HasMark, ← isBlank_iff, Bool.not_eq_true]

/-! ## Documents that hold a checked text -/

namespace CheckedText

variable {ν : Type} [CheckedText ν]

/-- A text is written so that it is read back. -/
lemma readDocument_quoteString (s : String) :
    Json.readDocument Json.Reader.text (Json.quoteString s) = .ok s := by
  have hq : Json.isBlank '"' = false := rfl
  have hr : Json.Reader.text (Json.quoteString s).toList = .ok (s, []) := by
    rw [Json.quoteString, String.toList_ofList, ← List.append_nil (Json.quote s.toList),
      Json.quote_append, Json.Reader.text, Json.skipBlanks_cons hq]
    exact Json.readText_quoted s []
  rw [Json.readDocument, hr]
  rfl

/-- A text that has been read is checked. -/
lemma reader_of_text {cs rest : List Char} {s : String}
    (h : Json.Reader.text cs = .ok (s, rest)) :
    (reader : Json.Reader ν) cs =
      match ofString s with
      | .ok x => .ok (x, rest)
      | .error r => Json.faultPending (.rejected r) rest := by
  rcases hs : ofString s with r | x <;> simp only [reader, Format.refine, Format.text, h, hs]

/-- A document that holds a text is read as the text is checked.  If the text is refused, then so is
the document, for the same reason and at no place in particular. -/
lemma readDocument_reader {s t : String} (h : Json.readDocument Json.Reader.text t = .ok s) :
    ∃ rest, Json.readDocument (reader : Json.Reader ν) t =
      (ofString s).mapError fun r => ⟨.mismatch (.rejected r), .pending rest⟩ := by
  rw [Json.readDocument] at h ⊢
  rcases hr : Json.Reader.text t.toList with f | ⟨x, rest⟩
  · rw [hr] at h
    cases h
  · rw [hr] at h
    dsimp only at h
    rw [reader_of_text hr]
    split at h
    · rename_i hb
      cases h
      refine ⟨rest, ?_⟩
      rcases ofString s with r | y
      · rfl
      · dsimp only
        rw [hb]
        rfl
    · cases h

/-! ## What holds of checked texts -/

/-- What is expected of a type of checked texts: all ways in agree with each other, and all ways out
with what came in. -/
structure Faithful (ν : Type) [CheckedText ν] (Accepted : String → Prop)
    (Refused : String → Rejection → Prop) : Prop where
  /-- The texts that are accepted. -/
  accepted (s : String) : (∃ x : ν, ofString s = .ok x) ↔ Accepted s
  /-- The reason for which the others are refused. -/
  refused (s : String) (r : Rejection) : (ofString s : Except Rejection ν) = .error r ↔ Refused s r
  converted (s : String) : (convert s : Except Rejection ν) = ofString s
  /-- Every text has a document that holds it. -/
  quoted (s : String) : Json.readDocument Json.Reader.text (Json.quoteString s) = .ok s
  /-- A document is accepted with the text that it holds, or is refused for the same reason. -/
  readAlike (s t : String) (h : Json.readDocument Json.Reader.text t = .ok s) :
    (Json.readDocument (reader : Json.Reader ν) t).mapError (·.cause) =
      (ofString s).mapError fun r => .mismatch (.rejected r)
  /-- The message is the same, too. -/
  sameMessage (s t : String) (h : Json.readDocument Json.Reader.text t = .ok s) :
    (Json.readDocument (reader : Json.Reader ν) t).mapError (·.message t.toList) =
      (ofString s).mapError (·.message)
  /-- A value is the text that it was made of. -/
  unchanged (s : String) (x : ν) (h : ofString s = .ok x) : text x = s ∧ toString x = s
  /-- A value that is written as a document is read back. -/
  readBack (x : ν) : Json.readDocument (reader : Json.Reader ν) (json x) = .ok x

/-- A value that is written is read back. -/
lemma readDocument_json (x : ν) : Json.readDocument (reader : Json.Reader ν) (json x) = .ok x := by
  obtain ⟨rest, hr⟩ := readDocument_reader (ν := ν) (readDocument_quoteString (text x))
  rw [json, hr, ofString_eq_ok_iff.2 rfl]
  rfl

/-- What differs between the types is only which texts they accept, and how they refuse the others.
-/
lemma faithful {Accepted : String → Prop} {Refused : String → Rejection → Prop}
    (ha : ∀ s, (∃ x : ν, ofString s = .ok x) ↔ Accepted s)
    (hr : ∀ s r, (ofString s : Except Rejection ν) = .error r ↔ Refused s r) :
    Faithful ν Accepted Refused where
  accepted := ha
  refused := hr
  converted _ := rfl
  quoted := readDocument_quoteString
  readAlike s t h := by
    obtain ⟨rest, hd⟩ := readDocument_reader (ν := ν) h
    rw [hd]
    rcases (ofString s : Except Rejection ν) with r | x <;> rfl
  sameMessage s t h := by
    obtain ⟨rest, hd⟩ := readDocument_reader (ν := ν) h
    rw [hd]
    rcases (ofString s : Except Rejection ν) with r | x <;> rfl
  unchanged s x h := by
    have ht := ofString_eq_ok_iff.1 h
    exact ⟨ht, (toString_eq x).trans ht⟩
  readBack := readDocument_json

end CheckedText

/-! ## Backend names, suite names and locators -/

/-- **Names and locators are faithful texts.**  A name is accepted exactly if it has 1 to 64 bytes,
all of them of ASCII letters, digits, hyphens, underscores and full stops, and a locator if it has a
character that is no white space, and no NUL; otherwise the first rule that is broken is the reason
for which the text is refused.  Each way to make one of them of a text, checking it, converting it
and reading a JSON document that holds it, accepts the same texts and refuses the others for the
same reason and with the same message.  What has been accepted is the text itself, unchanged, and it
is read back from its JSON text. -/
theorem faithful_texts :
    CheckedText.Faithful BackendName (fun s => NameBytes (Text.utf8 s))
      (fun s r => ∃ f, BrokenName s f ∧ r = .backendName s f) ∧
    CheckedText.Faithful SuiteName (fun s => NameBytes (Text.utf8 s))
      (fun s r => ∃ f, BrokenName s f ∧ r = .suiteName s f) ∧
    CheckedText.Faithful Locator
      (fun s => (∃ c ∈ s.toList, c ∉ whiteSpace) ∧ '\x00' ∉ s.toList)
      (fun s r => ∃ f, BrokenLocator s f ∧ r = .locator s f) := by
  refine ⟨CheckedText.faithful ?_ ?_, CheckedText.faithful ?_ ?_, CheckedText.faithful ?_ ?_⟩
  · intro s
    rw [nameBytes_iff, ← nameFault?_eq_none_iff_isName]
    exact ⟨fun h => h.elim fun n hn => BackendName.ofString_eq_ok_iff.1 hn ▸ n.valid,
      fun h => ⟨⟨s, h⟩, BackendName.ofString_eq_ok_iff.2 rfl⟩⟩
  · intro s r
    simp only [← nameFault?_eq_some_iff]
    exact BackendName.ofString_eq_error_iff
  · intro s
    rw [nameBytes_iff, ← nameFault?_eq_none_iff_isName]
    exact ⟨fun h => h.elim fun n hn => SuiteName.ofString_eq_ok_iff.1 hn ▸ n.valid,
      fun h => ⟨⟨s, h⟩, SuiteName.ofString_eq_ok_iff.2 rfl⟩⟩
  · intro s r
    simp only [← nameFault?_eq_some_iff]
    exact SuiteName.ofString_eq_error_iff
  · intro s
    rw [← hasMark_iff, HasMark, ← locatorFault?_eq_none_iff]
    exact ⟨fun h => h.elim fun l hl => Locator.ofString_eq_ok_iff.1 hl ▸ l.valid,
      fun h => ⟨⟨s, h⟩, Locator.ofString_eq_ok_iff.2 rfl⟩⟩
  · intro s r
    simp only [← locatorFault?_eq_some_iff]
    exact Locator.ofString_eq_error_iff

end BenchRoster
