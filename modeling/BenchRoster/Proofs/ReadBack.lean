/-
# Reading back what was written

A document that is written in the indented form is read back as it was meant: whatever characters
its texts consist of, in whatever order the members of a record stand, and with its tables in full.
What has to be shown is that each reader takes exactly the text of one value off the front.

* `Reads read v x` says that a reader takes the text of `v` off the front and gives `x`;
* `reads_text`, `reads_flag`, `reads_choice`, `reads_optional` and `reads_table` are its cases;
* `TakesAll` relates the partial records before and after some members, and `reads_record` says that
  an object is read as the record that its members complete;
* `readDocument_prettyString` goes from there to whole documents.
-/
import BenchRoster.Json.Typed
import BenchRoster.Json.Value
import Mathlib.Tactic.Lemma
import Mathlib.Tactic.SplitIfs

namespace BenchRoster.Json

/-! ## Blanks -/

/-- Nothing but blanks. -/
def Blanks (cs : List Char) : Prop := ∀ c ∈ cs, isBlank c = true

lemma skipBlanks_append {bs : List Char} (h : Blanks bs) (cs : List Char) :
    skipBlanks (bs ++ cs) = skipBlanks cs :=
  List.dropWhile_append_of_pos h

lemma skipBlanks_cons {c : Char} (h : isBlank c = false) (cs : List Char) :
    skipBlanks (c :: cs) = c :: cs := by
  rw [skipBlanks, List.dropWhile_cons_of_neg (by simp [h])]

lemma blanks_newline (level : Nat) : Blanks (newline level) := by
  intro c hc
  rcases List.mem_cons.1 hc with rfl | hc
  · rfl
  · rw [List.eq_of_mem_replicate hc]
    rfl

lemma blanks_nil : Blanks [] := by simp [Blanks]

lemma blanks_space : Blanks [' '] := by
  simp [Blanks, isBlank]

/-! ## Texts -/

lemma quote_append (cs rest : List Char) :
    quote cs ++ rest = '"' :: (cs.flatMap quoteChar ++ '"' :: rest) := by
  simp [quote]

lemma readHex_control : ∀ n < 0x20, ∀ rest : List Char,
    readHex ('0' :: '0' :: Nat.digitChar (n / 16) :: Nat.digitChar (n % 16) :: rest) =
      .ok (n, rest) := by
  intro n hn rest
  have h : ∀ n < 0x20,
      ¬(Text.encode ['0', '0', Nat.digitChar (n / 16), Nat.digitChar (n % 16)]).length < 4 ∧
        Text.number? 16 ['0', '0', Nat.digitChar (n / 16), Nat.digitChar (n % 16)] = some n := by
    decide
  obtain ⟨hl, hv⟩ := h n hn
  simp only [readHex, List.take_succ_cons, List.take_zero, if_neg hl, hv]

/-- A short escape is its character. -/
lemma textStep_short {c d : Char} (h : shortEscape? d = some c) (acc rest : List Char) :
    textStep acc ('\\' :: d :: rest) = .ok (some (c :: acc), rest) := by
  simp [textStep, readEscape, h]

/-- A control character is written with its number. -/
lemma textStep_control {c : Char} (h : c.toNat < 0x20) (acc rest : List Char) :
    textStep acc ('\\' :: 'u' :: '0' :: '0' :: Nat.digitChar (c.toNat / 16) ::
      Nat.digitChar (c.toNat % 16) :: rest) = .ok (some (c :: acc), rest) := by
  have hu : shortEscape? 'u' = none := rfl
  have hl : ¬(0xDC00 ≤ c.toNat ∧ c.toNat ≤ 0xDFFF) := by omega
  have hh : ¬(0xD800 ≤ c.toNat ∧ c.toNat ≤ 0xDBFF) := by omega
  simp [textStep, readEscape, hu, readHex_control _ h, hl, hh, Char.ofNat_toNat]

/-- Each character of a text is taken as it was written. -/
lemma textStep_quoteChar (c : Char) (acc rest : List Char) :
    textStep acc (quoteChar c ++ rest) = .ok (some (c :: acc), rest) := by
  unfold quoteChar
  split_ifs with hq hb h8 hc hn hr ht hu
  · subst hq
    exact textStep_short rfl acc rest
  · subst hb
    exact textStep_short rfl acc rest
  · subst h8
    exact textStep_short rfl acc rest
  · subst hc
    exact textStep_short rfl acc rest
  · subst hn
    exact textStep_short rfl acc rest
  · subst hr
    exact textStep_short rfl acc rest
  · subst ht
    exact textStep_short rfl acc rest
  · exact textStep_control hu acc rest
  · rw [List.singleton_append, textStep, if_neg hq, if_neg hb, if_neg hu]

lemma quoteChar_ne_nil (c : Char) : quoteChar c ≠ [] := by
  unfold quoteChar
  split_ifs <;> simp

lemma repeatStep_quoted (cs acc rest : List Char) :
    repeatStep textStep acc (cs.flatMap quoteChar ++ '"' :: rest) =
      .ok (cs.reverse ++ acc, rest) := by
  induction cs generalizing acc with
  | nil => exact iterate_stop rfl
  | cons c cs ih =>
    have hlt : (cs.flatMap quoteChar ++ '"' :: rest).length <
        (quoteChar c ++ (cs.flatMap quoteChar ++ '"' :: rest)).length := by
      have := List.length_pos_iff.2 (quoteChar_ne_nil c)
      simp only [List.length_append]
      omega
    rw [List.flatMap_cons, List.append_assoc, repeatStep,
      iterate_go (textStep_quoteChar c acc _) hlt]
    exact (ih (c :: acc)).trans (by simp)

/-- A text between quotes is read back. -/
lemma readText_quoted (s : String) (rest : List Char) :
    readText (s.toList.flatMap quoteChar ++ '"' :: rest) = .ok (s, rest) := by
  rw [readText, repeatStep_quoted]
  simp

/-! ## Values -/

/-- The reader takes the text of a value off the front, whatever blanks stand before it and whatever
comes after it. -/
def Reads {α : Type} (read : Reader α) (v : Value) (x : α) : Prop :=
  ∀ (level : Nat) (bs rest : List Char), Blanks bs →
    read (bs ++ v.pretty level ++ rest) = .ok (x, rest)

section Reads

variable {α β : Type}

lemma reads_map {read : Reader α} {v : Value} {x : α} (h : Reads read v x) (f : α → β) :
    Reads (Format.map f read) v (f x) := by
  intro level bs rest hb
  have hr := h level bs rest hb
  show (read _).map _ = _
  rw [hr]
  rfl

lemma reads_text (s : String) : Reads Reader.text (.text s) s := by
  intro level bs rest hb
  rw [List.append_assoc, Value.pretty, quote_append, Reader.text, skipBlanks_append hb,
    skipBlanks_cons rfl]
  exact readText_quoted s rest

lemma reads_flag (b : Bool) : Reads Reader.flag (.flag b) b := by
  intro level bs rest hb
  rw [List.append_assoc, Reader.flag, skipBlanks_append hb]
  cases b with
  | true => simp [Value.pretty, skipBlanks_cons, isBlank, readWord, Except.map]
  | false => simp [Value.pretty, skipBlanks_cons, isBlank, readWord, Except.map]

/-- A word is read back as the choice that it names. -/
lemma reads_choice {choices : List (String × α)} {word : String} {x : α}
    (h : choices.lookup word = some x) : Reads (Reader.choice choices) (.text word) x := by
  intro level bs rest hb
  have hw : Reader.text ('"' :: (word.toList.flatMap quoteChar ++ '"' :: rest)) =
      .ok (word, rest) := by
    rw [Reader.text, skipBlanks_cons rfl]
    exact readText_quoted word rest
  rw [List.append_assoc, Value.pretty, quote_append, Reader.choice, skipBlanks_append hb,
    skipBlanks_cons rfl]
  simp [readChoiceWord, hw, h]

end Reads

/-! ## Objects -/

/-- The text of a member on a line of its own. -/
def memberText (level : Nat) (m : String × Value) : List Char :=
  newline level ++ quote m.1.toList ++ ':' :: ' ' :: m.2.pretty level

/-- The text of some members; but for the first one they stand behind commas. -/
def membersText (level : Nat) : Bool → List (String × Value) → List Char
  | _, [] => []
  | first, m :: ms => (if first then [] else [',']) ++ memberText level m ++
      membersText level false ms

lemma membersText_false (level : Nat) (ms : List (String × Value)) :
    membersText level false ms = ms.flatMap fun m => ',' :: memberText level m := by
  induction ms with
  | nil => rfl
  | cons m ms ih => rw [membersText, ih, List.flatMap_cons]; rfl

lemma commas_cons (p : List Char) (ps : List (List Char)) :
    commas (p :: ps) = p ++ ps.flatMap (',' :: ·) := by
  induction ps generalizing p with
  | nil => simp [commas]
  | cons q ps ih => rw [commas, ih, List.flatMap_cons]; rfl

lemma prettyMembers_eq_map (level : Nat) (ms : List (String × Value)) :
    Value.prettyMembers level ms = ms.map (memberText level) := by
  induction ms with
  | nil => rfl
  | cons m ms ih => rw [Value.prettyMembers, ih, List.map_cons]; rfl

/-- An object is its members between brackets, and the closing one may stand behind blanks. -/
lemma exists_pretty_object (level : Nat) (ms : List (String × Value)) :
    ∃ bs, Blanks bs ∧ (Value.object ms).pretty level =
      '\x7b' :: (membersText (level + 1) true ms ++ bs ++ ['\x7d']) := by
  cases ms with
  | nil => exact ⟨[], blanks_nil, rfl⟩
  | cons m ms =>
    refine ⟨newline level, blanks_newline level, ?_⟩
    rw [Value.pretty, prettyMembers_eq_map, List.map_cons, commas_cons, List.flatMap_map,
      membersText, membersText_false]
    simp

/-- A value that is there is read as such: an object is not taken for a null. -/
lemma reads_optional {α : Type} {read : Reader α} {ms : List (String × Value)} {x : α}
    (h : Reads read (.object ms) x) : Reads (Reader.optional read) (.object ms) (some x) := by
  intro level bs rest hb
  have hr := h level [] rest blanks_nil
  obtain ⟨_, -, hp⟩ := exists_pretty_object level ms
  rw [List.nil_append, hp, List.cons_append] at hr
  rw [List.append_assoc, hp, List.cons_append, Reader.optional, skipBlanks_append hb,
    skipBlanks_cons rfl]
  show (read _).map _ = _
  rw [hr]
  rfl

/-- The key of the next member. -/
lemma nextKey_member (first : Bool) (level : Nat) (m : String × Value) (rest : List Char) :
    nextKey first ((if first then [] else [',']) ++ memberText level m ++ rest) =
      .ok (some m.1, ':' :: ' ' :: (m.2.pretty level ++ rest)) := by
  have hq := quote_append m.1.toList (':' :: ' ' :: (m.2.pretty level ++ rest))
  have hs : memberText level m ++ rest =
      newline level ++ '"' :: (m.1.toList.flatMap quoteChar ++
        '"' :: ':' :: ' ' :: (m.2.pretty level ++ rest)) := by
    rw [← hq]
    simp [memberText]
  rw [List.append_assoc, hs, nextKey]
  cases first with
  | true =>
    rw [if_pos rfl, List.nil_append, skipBlanks_append (blanks_newline level), skipBlanks_cons rfl]
    simp [readText_quoted, Except.map]
  | false =>
    rw [if_neg Bool.false_ne_true, List.singleton_append, skipBlanks_cons rfl]
    simp [skipBlanks_append (blanks_newline level), skipBlanks_cons, isBlank, readText_quoted,
      Except.map]

/-- After the last member there is no key. -/
lemma nextKey_end (first : Bool) {bs : List Char} (h : Blanks bs) (rest : List Char) :
    nextKey first (bs ++ '\x7d' :: rest) = .ok (none, '\x7d' :: rest) := by
  rw [nextKey, skipBlanks_append h, skipBlanks_cons rfl]
  simp

lemma readColon_cons (rest : List Char) : readColon (':' :: rest) = .ok rest := by
  rw [readColon, skipBlanks_cons rfl]
  rfl

lemma endObject_cons (rest : List Char) : endObject ('\x7d' :: rest) = .ok rest := by
  rw [endObject, skipBlanks_cons rfl]
  rfl

section Members

variable {σ : Type} (step : Bool × σ → List Char → Except Fault (Option (Bool × σ) × List Char))

/-- Reading a member takes its text off the front and changes one state into another. -/
def Takes (s : σ) (m : String × Value) (t : σ) : Prop :=
  ∀ (first : Bool) (level : Nat) (rest : List Char),
    step (first, s) ((if first then [] else [',']) ++ memberText level m ++ rest) =
      .ok (some (false, t), rest)

/-- Reading some members one after the other changes one state into another. -/
inductive TakesAll : σ → List (String × Value) → σ → Prop
  | nil (s : σ) : TakesAll s [] s
  | cons {s t u : σ} {m : String × Value} {ms : List (String × Value)} (h : Takes step s m t)
      (hs : TakesAll t ms u) : TakesAll s (m :: ms) u

variable {step}

lemma length_memberText_pos (first : Bool) (level : Nat) (m : String × Value) :
    0 < ((if first then [] else [',']) ++ memberText level m).length := by
  have hm : memberText level m ≠ [] := by simp [memberText, newline]
  have hl := List.length_pos_iff.2 hm
  rw [List.length_append]
  omega

/-- The steps of a reader take the members of an object, and stop at its end. -/
lemma TakesAll.repeatStep {s t : σ} {ms : List (String × Value)} (h : TakesAll step s ms t)
    (hend : ∀ first u bs rest, Blanks bs →
      step (first, u) (bs ++ '\x7d' :: rest) = .ok (none, '\x7d' :: rest))
    (first : Bool) (level : Nat) {bs : List Char} (hb : Blanks bs) (rest : List Char) :
    ∃ last, Json.repeatStep step (first, s)
      (membersText level first ms ++ bs ++ '\x7d' :: rest) = .ok ((last, t), '\x7d' :: rest) := by
  induction h generalizing first with
  | nil s => exact ⟨first, iterate_stop (hend first s bs rest hb)⟩
  | @cons s t u m ms h hs ih =>
    obtain ⟨last, hl⟩ := ih false
    refine ⟨last, ?_⟩
    rw [← hl, membersText, List.append_assoc, List.append_assoc, Json.repeatStep,
      iterate_go (h first level _), List.append_assoc]
    · rfl
    · have := length_memberText_pos first level m
      simp only [List.length_append] at this ⊢
      omega

end Members

/-! ## Records -/

section Records

variable {π α : Type} {fields : List (Field Reader π)}

lemma recordStep_end (first : Bool) (p : π) (bs rest : List Char) (h : Blanks bs) :
    recordStep fields (first, p) (bs ++ '\x7d' :: rest) = .ok (none, '\x7d' :: rest) := by
  rw [recordStep, nextKey_end first h]

/-- An entry that is not there yet is added to the partial record. -/
lemma takes_field {p q : π} {field : Field Reader π} {v : Value} {add : π → π} (key : String)
    (hf : Field.find? fields key = some field) (hs : field.seen p = false)
    (hr : Reads field.read v add) (hq : add p = q) : Takes (recordStep fields) p (key, v) q := by
  intro first level rest
  have hv : field.read (' ' :: (v.pretty level ++ rest)) = .ok (add, rest) :=
    hr level [' '] rest blanks_space
  rw [recordStep, nextKey_member]
  simp [hf, hs, readColon_cons, hv, hq, bind, Except.bind]

/-- An object whose members make a complete record is read as that record. -/
lemma reads_record (name : String) {blank p : π} {ms : List (String × Value)}
    {finish : π → Except String α} {x : α} (h : TakesAll (recordStep fields) blank ms p)
    (hx : finish p = .ok x) : Reads (Reader.record name fields blank finish) (.object ms) x := by
  intro level bs rest hb
  obtain ⟨bs', hb', hp⟩ := exists_pretty_object level ms
  obtain ⟨last, hl⟩ := h.repeatStep recordStep_end true (level + 1) hb' rest
  have ho : objectRecord fields blank finish
      (membersText (level + 1) true ms ++ bs' ++ '\x7d' :: rest) = .ok (x, '\x7d' :: rest) := by
    rw [objectRecord, hl]
    simp [completeRecord, hx]
  rw [List.append_assoc, hp, List.cons_append, List.append_assoc, List.singleton_append,
    Reader.record, skipBlanks_append hb, skipBlanks_cons rfl]
  simp only [Char.reduceEq, if_false, if_true, bracketed, ho, endObject_cons]

end Records

/-! ## Tables -/

/-- A key behind all others comes to the end. -/
lemma put_of_forall_lt {es : List (String × String)} {key : String} (value : String)
    (h : ∀ e ∈ es, e.1 < key) : Table.put key value es = es ++ [(key, value)] := by
  induction es with
  | nil => rfl
  | cons e es ih =>
    obtain ⟨he, hes⟩ := List.forall_mem_cons.1 h
    rw [Table.put, if_neg (String.lt_asymm he),
      if_neg (fun hk => String.lt_irrefl _ (hk ▸ he)), ih hes, List.cons_append]

lemma tableStep_end (first : Bool) (t : Table) (bs rest : List Char) (h : Blanks bs) :
    tableStep (first, t) (bs ++ '\x7d' :: rest) = .ok (none, '\x7d' :: rest) := by
  rw [tableStep, nextKey_end first h]

lemma takes_entry (t : Table) (key value : String) :
    Takes tableStep t (key, .text value) (t.insert key value) := by
  intro first level rest
  have hv : Reader.text (' ' :: ((Value.text value).pretty level ++ rest)) = .ok (value, rest) :=
    reads_text value level [' '] rest blanks_space
  rw [tableStep, nextKey_member]
  simp [readColon_cons, hv, bind, Except.bind]

/-- Entries behind those of a table are put at its end, one after the other. -/
lemma takesAll_entries {es : List (String × String)} {t : Table}
    (h : Ascending (t.entries ++ es)) :
    ∃ u : Table, u.entries = t.entries ++ es ∧
      TakesAll tableStep t (es.map fun e => (e.1, .text e.2)) u := by
  induction es generalizing t with
  | nil => exact ⟨t, by simp, .nil t⟩
  | cons e es ih =>
    have hlt : ∀ a ∈ t.entries, a.1 < e.1 := fun a ha =>
      (List.pairwise_append.1 h).2.2 a ha e List.mem_cons_self
    have hi : (t.insert e.1 e.2).entries = t.entries ++ [e] := put_of_forall_lt e.2 hlt
    obtain ⟨u, hu, ht⟩ := ih (t := t.insert e.1 e.2) (by rwa [hi, List.append_assoc])
    exact ⟨u, by rw [hu, hi, List.append_assoc]; rfl, .cons (takes_entry t e.1 e.2) ht⟩

/-- A table is read back. -/
lemma reads_table (t : Table) :
    Reads Reader.table (.object (t.entries.map fun e => (e.1, .text e.2))) t := by
  intro level bs rest hb
  have ha : Ascending (Table.empty.entries ++ t.entries) := t.ascending
  obtain ⟨u, hu, ht⟩ := takesAll_entries ha
  have hut : u = t := by
    cases u
    cases t
    simpa [Table.empty] using hu
  obtain ⟨bs', hb', hp⟩ :=
    exists_pretty_object level (t.entries.map fun e => (e.1, Value.text e.2))
  obtain ⟨last, hl⟩ := ht.repeatStep tableStep_end true (level + 1) hb' rest
  rw [List.append_assoc, hp, List.cons_append, List.append_assoc, List.singleton_append,
    Reader.table, skipBlanks_append hb, skipBlanks_cons rfl]
  simp only [if_true, bracketed, hl, hut, Except.map, endObject_cons]

/-! ## Documents -/

/-- A value that is written as a document is read back from it. -/
lemma readDocument_prettyString {α : Type} {read : Reader α} {v : Value} {x : α}
    (h : Reads read v x) : readDocument read v.prettyString = .ok x := by
  have hr := h 0 [] [] blanks_nil
  rw [List.nil_append, List.append_nil] at hr
  rw [readDocument, Value.prettyString, String.toList_ofList, hr]
  rfl

end BenchRoster.Json
