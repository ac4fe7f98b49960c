/-
# The last part of complaints

A program that ends badly is reported with the last 512 bytes of what it complained about.  The cut
need not fall between two characters.  What it leaves of a character are one to three bytes that
continue it, and lossy decoding turns each of them into a replacement character; behind them the
text goes on as it was.

* `Text.drop_encode` says what is left of the bytes of a text when some are dropped;
* `Text.decodeLossy_continuing` says how the bytes of a character that was cut are decoded;
* `complaintTail_cut` puts them together.
-/
import BenchRoster.Transform
import BenchRoster.Proofs.Decoding

namespace BenchRoster

namespace Text

/-- A byte that continues a character and starts none. -/
def continues (b : UInt8) : Bool := within 0x80 0xBF b

lemma continues_iff {b : UInt8} : continues b = true ↔ 0x80 ≤ b.toNat ∧ b.toNat ≤ 0xBF := within_iff

/-! ## The bytes of a character that was cut -/

lemma lead?_of_continues {b : UInt8} (h : continues b) : lead? b = none := by
  obtain ⟨hl, hh⟩ := continues_iff.1 h
  unfold lead?
  dsimp only
  rw [if_neg (by omega), if_pos (by omega)]

/-- Bytes that continue a character which is not there are replaced one by one. -/
lemma decodeLossy_continuing {cut : List UInt8} (h : ∀ b ∈ cut, continues b) (bs : List UInt8) :
    decodeLossy (cut ++ bs) = List.replicate cut.length replacement ++ decodeLossy bs := by
  induction cut with
  | nil => rfl
  | cons b cut ih =>
    have hd : decodeStep b (cut ++ bs) = (none, cut ++ bs) := by
      rw [decodeStep, lead?_of_continues (h b (List.mem_cons_self ..))]
    rw [List.cons_append, decodeLossy, hd, ih fun x hx => h x (List.mem_cons_of_mem _ hx)]
    rfl

/-- Each character takes at least a byte. -/
lemma length_decodeLossy_le (bs : List UInt8) : (decodeLossy bs).length ≤ bs.length := by
  fun_induction decodeLossy bs with
  | case1 => exact Nat.le_refl _
  | case2 b bs ih =>
    have := decodeStep_length b bs
    simp only [List.length_cons]
    omega

/-- A character is encoded as a byte that starts one and up to three that continue it. -/
lemma encodeChar_eq_cons (c : Char) : ∃ b bs, encodeChar c = b :: bs ∧ continues b = false ∧
    (∀ x ∈ bs, continues x) ∧ bs.length ≤ 3 := by
  obtain ⟨hn, -⟩ := char_bounds c
  have hfirst : ∀ {n : Nat}, n < 256 → n < 0x80 ∨ 0xBF < n → continues n.toUInt8 = false := by
    intro n hb h
    rw [← Bool.not_eq_true, continues_iff, toNat_toUInt8 hb]
    omega
  have hmore : ∀ n : Nat, continues (0x80 + n % 0x40).toUInt8 = true := by
    intro n
    rw [continues_iff, toNat_toUInt8 (by omega)]
    omega
  unfold encodeChar
  dsimp only
  split
  · exact ⟨_, _, rfl, hfirst (by omega) (by omega), by simp, by simp⟩
  split
  · exact ⟨_, _, rfl, hfirst (by omega) (by omega), List.forall_mem_singleton.2 (hmore _), by simp⟩
  split
  · exact ⟨_, _, rfl, hfirst (by omega) (by omega),
      List.forall_mem_cons.2 ⟨hmore _, List.forall_mem_singleton.2 (hmore _)⟩, by simp⟩
  · exact ⟨_, _, rfl, hfirst (by omega) (by omega), List.forall_mem_cons.2 ⟨hmore _,
      List.forall_mem_cons.2 ⟨hmore _, List.forall_mem_singleton.2 (hmore _)⟩⟩, by simp⟩

/-- The bytes of a text do not start within a character. -/
lemma takeWhile_encode (cs : List Char) : (encode cs).takeWhile continues = [] := by
  cases cs with
  | nil => rfl
  | cons c cs =>
    obtain ⟨b, bs, hc, hb, -⟩ := encodeChar_eq_cons c
    rw [encode, List.flatMap_cons, hc, List.cons_append, List.takeWhile_cons, hb]
    rfl

/-- When bytes are dropped from the front of a text, some bytes that continue a character may be
left of the last character that was hit, and then come the characters behind it. -/
lemma drop_encode (cs : List Char) (n : Nat) :
    ∃ cut kept, (encode cs).drop n = cut ++ encode kept ∧ kept <:+ cs ∧
      (∀ b ∈ cut, continues b) ∧ cut.length ≤ 3 := by
  induction cs generalizing n with
  | nil => exact ⟨[], [], by simp [encode], List.suffix_refl _, by simp, by simp⟩
  | cons c cs ih =>
    obtain ⟨b, bs, hc, -, hbs, hl⟩ := encodeChar_eq_cons c
    have hcs : encode (c :: cs) = b :: bs ++ encode cs := by
      rw [encode, List.flatMap_cons, hc]
      rfl
    cases n with
    | zero => exact ⟨[], c :: cs, rfl, List.suffix_refl _, by simp, by simp⟩
    | succ n =>
      rw [hcs, List.cons_append, List.drop_succ_cons, List.drop_append]
      by_cases hn : n ≤ bs.length
      · -- the cut falls into this character, or right behind it
        refine ⟨bs.drop n, cs, ?_, List.suffix_cons _ _,
          fun x hx => hbs x (List.mem_of_mem_drop hx), Nat.le_trans (by simp) hl⟩
        rw [Nat.sub_eq_zero_of_le hn, List.drop_zero]
      · obtain ⟨cut, kept, hd, hk, hcut, hlen⟩ := ih (n - bs.length)
        refine ⟨cut, kept, ?_, hk.trans (List.suffix_cons _ _), hcut, hlen⟩
        rw [List.drop_eq_nil_of_le (by omega), List.nil_append, hd]

/-- The end of the bytes of a text is decoded to the end of the text, behind a replacement for each
byte that is left of a character. -/
lemma exists_decodeLossy_drop (cs : List Char) (n : Nat) :
    let last := (encode cs).drop n
    let cut := last.takeWhile continues
    ∃ kept, kept <:+ cs ∧ encode kept = last.dropWhile continues ∧
      decodeLossy last = List.replicate cut.length replacement ++ kept ∧
      cut.length ≤ 3 ∧ (n = 0 → cut.length = 0 ∧ kept = cs) := by
  intro last cut
  obtain ⟨broken, kept, hlast, hk, hbroken, hlen⟩ := drop_encode cs n
  have hcut : cut = broken := by
    rw [show cut = ((encode cs).drop n).takeWhile continues from rfl, hlast,
      List.takeWhile_append_of_pos hbroken, takeWhile_encode, List.append_nil]
  have hboth : cut ++ last.dropWhile continues = cut ++ encode kept := by
    rw [List.takeWhile_append_dropWhile, hcut]
    exact hlast
  have hrest : last.dropWhile continues = encode kept := List.append_cancel_left hboth
  refine ⟨kept, hk, hrest.symm, ?_, hcut ▸ hlen, ?_⟩
  · rw [show last = broken ++ encode kept from hlast, decodeLossy_continuing hbroken,
      decodeLossy_encode, hcut]
  · rintro rfl
    have hnone : cut = [] := takeWhile_encode cs
    have hbytes : encode kept = encode cs := by
      rw [← List.drop_zero (l := encode cs), hlast, ← hcut, hnone, List.nil_append]
    exact ⟨by rw [hnone]; rfl, by rw [← decodeLossy_encode kept, hbytes, decodeLossy_encode]⟩

example : decodeLossy ((utf8 "é!").drop 1) = ['\uFFFD', '!'] := by decide +kernel

end Text

/-! ## Complaints -/

/-- Nothing before the last 512 bytes is looked at. -/
lemma complaintTail_append (front : Bytes) {last : Bytes} (h : last.length = complaintBytes) :
    complaintTail (front ++ last) = Text.trim (Text.ofUtf8Lossy last) := by
  rw [complaintTail, List.length_append, h, Nat.add_sub_cancel, List.drop_left]

lemma length_complaintTail_le (e : Bytes) : (complaintTail e).length ≤ complaintBytes := by
  have hlast : (e.drop (e.length - complaintBytes)).length ≤ complaintBytes := by
    rw [List.length_drop]
    omega
  rw [complaintTail, Text.trim, String.length_ofList]
  refine Nat.le_trans (Text.length_trimmed_le _) ?_
  rw [Text.ofUtf8Lossy, String.toList_ofList]
  exact Nat.le_trans (Text.length_decodeLossy_le _) hlast

/-- What is kept of complaints depends on their last 512 bytes, has no blanks at its ends and is at
most 512 characters long.  If the complaints are a text, then it is the end of this text, behind a
replacement character for each byte that the cut has left of a character; complaints of at most 512
bytes are kept but for the blanks at their ends. -/
theorem complaintTail_cut (e : Bytes) :
    (∀ d last : Bytes, last.length = 512 → last <:+ d → last <:+ e →
      complaintTail d = complaintTail e) ∧
    (∀ c, (complaintTail e).toList.head? = some c → Text.isBlank c = false) ∧
    (∀ c, (complaintTail e).toList.getLast? = some c → Text.isBlank c = false) ∧
    (complaintTail e).length ≤ 512 ∧
    ∀ s, Text.ofUtf8? e = some s →
      let last := e.drop (e.length - 512)
      let cut := last.takeWhile Text.continues
      ∃ kept : List Char, kept <:+ s.toList ∧ Text.encode kept = last.dropWhile Text.continues ∧
        complaintTail e =
          Text.trim (String.ofList (List.replicate cut.length Text.replacement ++ kept)) ∧
        cut.length ≤ 3 ∧ (e.length ≤ 512 → cut.length = 0 ∧ kept = s.toList) := by
  have htrim : ∃ cs, (complaintTail e).toList = Text.trimmed cs := ⟨_, String.toList_ofList⟩
  obtain ⟨cs, hcs⟩ := htrim
  refine ⟨?_, ?_, ?_, length_complaintTail_le e, ?_⟩
  · rintro d last hl ⟨x, rfl⟩ ⟨y, rfl⟩
    rw [complaintTail_append x hl, complaintTail_append y hl]
  · rw [hcs]
    exact fun c => Text.head_trimmed
  · rw [hcs]
    exact fun c => Text.getLast_trimmed
  · intro s hs
    rw [Text.ofUtf8?_eq_some_iff] at hs
    subst hs
    obtain ⟨kept, hk, hrest, hdecode, hlen, hshort⟩ :=
      Text.exists_decodeLossy_drop s.toList ((Text.utf8 s).length - 512)
    refine ⟨kept, hk, hrest, ?_, hlen, fun h => hshort (Nat.sub_eq_zero_of_le h)⟩
    rw [complaintTail, Text.ofUtf8Lossy]
    exact congrArg (fun cs => Text.trim (String.ofList cs)) hdecode

end BenchRoster
