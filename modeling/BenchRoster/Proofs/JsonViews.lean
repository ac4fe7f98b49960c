/-
# What readers see of a tree

Every reader of typed values can be told from the trees that it reads, whatever blanks a text has,
however its characters are escaped and whatever comes after it.

* `View` is the format that reads trees;
* `Sees` says that a reader of texts gives what a view gives of the tree at the front, and that
  there is such a tree where the reader gives something;
* `sees_text`, `sees_flag`, `sees_choice` and `sees_optional` are the readers of single values.
-/
import BenchRoster.Proofs.JsonTrees
import BenchRoster.Proofs.WellFormed

namespace BenchRoster.Json

/-! ## Views -/

/-- Reads a value from a tree, or refuses it. -/
abbrev View (α : Type) : Type := Tree → Option α

namespace View

variable {α π : Type}

def text : View String
  | .text s => s
  | _ => none

def flag : View Bool
  | .flag b => some b
  | _ => none

/-- The entries of an object, added to a partial result one after the other. -/
def entries (add : String → π → View π) (p : π) : List (Option String × Tree) → Option π
  | [] => some p
  | (k, v) :: es =>
    k.bind fun key => (add key p v).bind fun p => entries add p es

/-- A table, in which the last entry for a key counts. -/
def table : View Table
  | .object es => entries (fun key t v => (text v).map (t.insert key)) .empty es
  | _ => none

def null : View Unit
  | .null => some ()
  | _ => none

/-- A word, alone or as the key of an object whose value is null. -/
def choice (choices : List (String × α)) : View α
  | .text s => s.bind fun word => choices.lookup word
  | .object [(k, .null)] => k.bind fun word => choices.lookup word
  | _ => none

def optional (view : View α) : View (Option α)
  | .null => some none
  | v => (view v).map some

/-- What a record does with an entry: unknown ones are skipped. -/
def addField (fields : List (Field View π)) (key : String) (p : π) : View π := fun v =>
  match Field.find? fields key with
  | none => some p
  | some field => if field.seen p then none else (field.read v).map fun add => add p

/-- The items of a list are the values of the first fields. -/
def items : List (Field View π) → π → List Tree → Option π
  | _, p, [] => some p
  | [], _, _ :: _ => none
  | field :: fields, p, v :: vs => (field.read v).bind fun add => items fields (add p) vs

def record (_ : String) (fields : List (Field View π)) (blank : π)
    (finish : π → Except String α) : View α
  | .object es => (entries (addField fields) blank es).bind fun p => (finish p).toOption
  | .list vs => (items fields blank vs).bind fun p => (finish p).toOption
  | _ => none

end View

instance : Format View where
  map f view v := (view v).map f
  text := View.text
  flag := View.flag
  table := View.table
  choice := View.choice
  optional := View.optional
  record := View.record
  refine view check v := (view v).bind fun x => (check x).toOption

/-- A reader gives what a view gives of the tree at the front of a text, and takes nothing but
trees. -/
structure Sees {α : Type} (read : Reader α) (view : View α) : Prop where
  agrees {v : Tree} {cs rest : List Char} (h : v.Heads cs rest) :
    (read cs).toOption = (view v).map fun x => (x, rest)
  exists_tree {cs rest : List Char} {x : α} (h : read cs = .ok (x, rest)) :
    ∃ v : Tree, v.Heads cs rest

/-! ## Trees by their first character -/

variable {α π : Type} {v : Tree} {cs r rest : List Char} {c : Char}

lemma heads_null_iff (hb : skipBlanks cs = 'n' :: r) :
    v.Heads cs rest ↔ v = .null ∧ readWord ['u', 'l', 'l'] r = .ok rest := by
  rcases v with _ | (_ | _) | _ | _ | _ | _ <;> simp [Tree.Heads, hb]

lemma heads_true_iff (hb : skipBlanks cs = 't' :: r) :
    v.Heads cs rest ↔ v = .flag true ∧ readWord ['r', 'u', 'e'] r = .ok rest := by
  rcases v with _ | (_ | _) | _ | _ | _ | _ <;> simp [Tree.Heads, hb]

lemma heads_false_iff (hb : skipBlanks cs = 'f' :: r) :
    v.Heads cs rest ↔ v = .flag false ∧ readWord ['a', 'l', 's', 'e'] r = .ok rest := by
  rcases v with _ | (_ | _) | _ | _ | _ | _ <;> simp [Tree.Heads, hb]

lemma heads_text_iff (hb : skipBlanks cs = '"' :: r) :
    v.Heads cs rest ↔ ∃ s, v = .text s ∧ Quoted s r rest := by
  rcases v with _ | (_ | _) | _ | _ | _ | _ <;> simp [Tree.Heads, hb]

lemma heads_list_iff (hb : skipBlanks cs = '[' :: r) :
    v.Heads cs rest ↔ ∃ vs, v = .list vs ∧ HeadItems true vs r rest := by
  rcases v with _ | (_ | _) | _ | _ | _ | _ <;> simp [Tree.Heads, hb]

lemma heads_object_iff (hb : skipBlanks cs = '\x7b' :: r) :
    v.Heads cs rest ↔ ∃ es, v = .object es ∧ HeadEntries true es r rest := by
  rcases v with _ | (_ | _) | _ | _ | _ | _ <;> simp [Tree.Heads, hb]

/-! ## Texts and words -/

lemma toOption_wrongType (expected : String) (c : Char) (r : List Char) :
    (wrongType expected c r : Except Fault α).toOption = none := by
  unfold wrongType
  dsimp only
  split_ifs
  all_goals first | rfl | (split <;> rfl)

lemma wrongType_ne_ok {expected : String} {x : α} : wrongType expected c r ≠ .ok x := by
  intro h
  have hn := toOption_wrongType (α := α) expected c r
  rw [h] at hn
  cases hn

lemma Quoted.toOption_readText {s : Option String} (h : Quoted s cs rest) :
    (readText cs).toOption = s.map fun x => (x, rest) := by
  obtain ⟨hs, rfl⟩ := h
  rcases ht : readText cs with f | ⟨x, q⟩
  · rfl
  · rw [skipText_of_readText ht] at hs
    cases hs
    rfl

lemma quoted_of_readText {s : String} (h : readText cs = .ok (s, rest)) :
    Quoted (some s) cs rest :=
  ⟨skipText_of_readText h, by rw [h]; rfl⟩

lemma exists_of_text {s : String} (h : Reader.text cs = .ok (s, rest)) :
    ∃ q, skipBlanks cs = '"' :: q ∧ Quoted (some s) q rest := by
  unfold Reader.text at h
  split at h
  · cases h
  · rename_i c r hb
    split_ifs at h with hc
    · exact ⟨r, hc ▸ hb, quoted_of_readText h⟩
    · exact absurd h wrongType_ne_ok

lemma sees_text : Sees Reader.text View.text where
  agrees {v cs rest} h := by
    obtain ⟨c, r, hb, -, -⟩ := h.exists_cons
    rw [Reader.text, hb]
    dsimp only
    by_cases hc : c = '"'
    · subst hc
      obtain ⟨s, rfl, hq⟩ := (heads_text_iff hb).1 h
      rw [if_pos rfl, hq.toOption_readText]
      rfl
    · rw [if_neg hc, toOption_wrongType]
      cases v with
      | text s =>
        obtain ⟨q, hq, -⟩ := h
        rw [hb] at hq
        cases hq
        exact absurd rfl hc
      | _ => rfl
  exists_tree h := ⟨.text (some _), exists_of_text h⟩

lemma toOption_map {β γ : Type} (x : Except Fault β) (f : β → γ) :
    (x.map f).toOption = x.toOption.map f := by
  cases x <;> rfl

lemma sees_flag : Sees Reader.flag View.flag where
  agrees {v cs rest} h := by
    obtain ⟨c, r, hb, -, -⟩ := h.exists_cons
    rw [Reader.flag, hb]
    dsimp only
    split_ifs with ht hf
    · subst ht
      obtain ⟨rfl, hw⟩ := (heads_true_iff hb).1 h
      rw [hw]
      rfl
    · subst hf
      obtain ⟨rfl, hw⟩ := (heads_false_iff hb).1 h
      rw [hw]
      rfl
    · rw [toOption_wrongType]
      rcases v with _ | (_ | _) | _ | _ | _ | _
      case flag.true =>
        obtain ⟨q, hq, -⟩ := h
        cases hb.symm.trans hq
        exact absurd rfl ht
      case flag.false =>
        obtain ⟨q, hq, -⟩ := h
        cases hb.symm.trans hq
        exact absurd rfl hf
      all_goals rfl
  exists_tree {cs rest x} h := by
    unfold Reader.flag at h
    split at h
    · cases h
    · rename_i c r hb
      split_ifs at h with ht hf
      · subst ht
        rcases hw : readWord ['r', 'u', 'e'] r with f | q <;> rw [hw] at h <;> cases h
        exact ⟨.flag true, r, hb, hw⟩
      · subst hf
        rcases hw : readWord ['a', 'l', 's', 'e'] r with f | q <;> rw [hw] at h <;> cases h
        exact ⟨.flag false, r, hb, hw⟩
      · exact absurd h wrongType_ne_ok

lemma sees_map {β : Type} {read : Reader α} {view : View α} (h : Sees read view) (f : α → β) :
    Sees (Format.map f read) (Format.map f view) where
  agrees {v cs rest} hv := by
    change ((read cs).map _).toOption = ((view v).map f).map _
    rw [toOption_map, h.agrees hv, Option.map_map, Option.map_map]
    rfl
  exists_tree {cs rest y} hr := by
    change (read cs).map _ = _ at hr
    rcases hx : read cs with u | x <;> rw [hx] at hr <;> cases hr
    exact h.exists_tree hx

lemma sees_optional {read : Reader α} {view : View α} (h : Sees read view) :
    Sees (Reader.optional read) (View.optional view) where
  agrees {v cs rest} hv := by
    obtain ⟨c, r, hb, -, -⟩ := hv.exists_cons
    rw [Reader.optional, hb]
    by_cases hc : c = 'n'
    · subst hc
      obtain ⟨rfl, hw⟩ := (heads_null_iff hb).1 hv
      change ((readWord ['u', 'l', 'l'] r).map _).toOption = _
      rw [hw]
      rfl
    · have hn : View.optional view v = (view v).map some := by
        cases v with
        | null =>
          obtain ⟨q, hq, -⟩ := hv
          cases hb.symm.trans hq
          exact absurd rfl hc
        | _ => rfl
      have hv' : v.Heads (c :: r) rest := hv.of_skipBlanks_eq (by rw [← hb, skipBlanks_idem])
      split
      · rename_i q hq
        cases hq
        exact absurd rfl hc
      · rw [toOption_map, h.agrees hv', hn, Option.map_map, Option.map_map]
        rfl
  exists_tree {cs rest x} hr := by
    unfold Reader.optional at hr
    split at hr
    · rename_i r hb
      rcases hw : readWord ['u', 'l', 'l'] r with f | q <;> rw [hw] at hr <;> cases hr
      exact ⟨.null, r, hb, hw⟩
    · rcases hx : read (skipBlanks cs) with u | y <;> rw [hx] at hr <;> cases hr
      obtain ⟨v, hv⟩ := h.exists_tree hx
      exact ⟨v, hv.of_skipBlanks_eq (skipBlanks_idem cs)⟩

lemma sees_null : Sees Reader.null View.null where
  agrees {v cs rest} h := by
    obtain ⟨c, r, hb, -, -⟩ := h.exists_cons
    rw [Reader.null, hb]
    dsimp only
    split_ifs with hn
    · subst hn
      obtain ⟨rfl, hw⟩ := (heads_null_iff hb).1 h
      rw [hw]
      rfl
    · rw [toOption_wrongType]
      cases v with
      | null =>
        obtain ⟨q, hq, -⟩ := h
        cases hb.symm.trans hq
        exact absurd rfl hn
      | _ => rfl
  exists_tree {cs rest x} h := by
    unfold Reader.null at h
    split at h
    · cases h
    · rename_i c r hb
      split_ifs at h with hn
      · subst hn
        rcases hw : readWord ['u', 'l', 'l'] r with f | q <;> rw [hw] at h <;> cases h
        exact ⟨.null, r, hb, hw⟩
      · exact absurd h wrongType_ne_ok

lemma toOption_bind {β γ : Type} (x : Except Fault β) (f : β → Except Fault γ) :
    (x >>= f).toOption = x.toOption.bind fun y => (f y).toOption := by
  cases x <;> rfl

lemma toOption_readChoiceWord (choices : List (String × α)) (h : v.Heads cs rest) :
    (readChoiceWord choices cs).toOption =
      ((View.text v).bind fun word => choices.lookup word).map fun x => (x, rest) := by
  have ht := sees_text.agrees h
  unfold readChoiceWord
  rcases hr : Reader.text cs with f | ⟨word, q⟩ <;> rw [hr] at ht
  · cases hv : View.text v with
    | none => rfl
    | some word =>
      rw [hv] at ht
      cases ht
  · cases hv : View.text v with
    | none =>
      rw [hv] at ht
      cases ht
    | some word =>
      rw [hv] at ht
      cases ht
      dsimp only [Option.bind_some]
      cases choices.lookup word <;> rfl

lemma readChoiceWord_eq_ok {choices : List (String × α)} {x : α}
    (h : readChoiceWord choices cs = .ok (x, rest)) :
    ∃ word, Reader.text cs = .ok (word, rest) := by
  unfold readChoiceWord at h
  split at h
  · cases h
  · rename_i word q ht
    split at h
    · cases h
      exact ⟨word, ht⟩
    · cases h

/-- The end of an object with one entry. -/
lemma toOption_onlyEntry {es : List (Option String × Tree)} {x : α}
    (h : HeadEntries false es cs rest) :
    (match skipBlanks cs with
      | [] => faultHere .eofInObject []
      | d :: r =>
        if d = '\x7d' then Except.ok (x, r)
        else faultHere .expectedValue (d :: r)).toOption =
      if es = [] then some (x, rest) else none := by
  cases es with
  | nil =>
    have hb : skipBlanks cs = '\x7d' :: rest := h
    rw [hb]
    rfl
  | cons e es =>
    obtain ⟨r, q, q', u, r', hb, -⟩ := h
    have hb : skipBlanks cs = ',' :: r := hb
    rw [hb]
    rfl

/-- A word as the first key of an object names a choice if its value is null and there is no other
entry. -/
lemma choice_object (choices : List (String × α)) (k : Option String) (w : Tree)
    (es : List (Option String × Tree)) :
    View.choice choices (.object ((k, w) :: es)) =
      (k.bind fun word => choices.lookup word).bind fun x =>
        (View.null w).bind fun _ => if es = [] then some x else none := by
  cases w with
  | null => cases es <;> simp [View.choice, View.null]
  | _ => simp [View.choice, View.null]

lemma sees_choice (choices : List (String × α)) :
    Sees (Reader.choice choices) (View.choice choices) where
  agrees {v cs rest} h := by
    obtain ⟨c, r, hb, -, -⟩ := h.exists_cons
    have h' : v.Heads (c :: r) rest := h.of_skipBlanks_eq (by rw [← hb, skipBlanks_idem])
    rw [Reader.choice, hb]
    dsimp only
    split_ifs with hq ho
    · subst hq
      obtain ⟨s, rfl, -⟩ := (heads_text_iff hb).1 h
      rw [toOption_readChoiceWord choices h']
      rfl
    · subst ho
      obtain ⟨es, rfl, he⟩ := (heads_object_iff hb).1 h
      cases es with
      | nil =>
        have hr : skipBlanks r = '\x7d' :: rest := he
        have ht : (Reader.text r).toOption = none := by
          rw [Reader.text, hr]
          exact toOption_wrongType (α := String × List Char) "a string" '\x7d' rest
        rcases hx : Reader.text r with f | x <;> rw [hx] at ht <;> cases ht
        simp only [readChoiceWord, hx]
        rfl
      | cons e es =>
        obtain ⟨k, w⟩ := e
        obtain ⟨_, q, q', u, r', rfl, hq, hk, hc, hw, he⟩ := he
        have hword : (Tree.text k).Heads r q' := ⟨q, hq, hk⟩
        rw [toOption_bind, toOption_readChoiceWord choices hword, choice_object]
        change Option.bind ((k.bind fun word => choices.lookup word).map _) _ = _
        cases k.bind fun word => choices.lookup word with
        | none => rfl
        | some x =>
          dsimp only [Option.map_some, Option.bind_some]
          rw [hc, toOption_bind]
          change Option.bind (some u) _ = _
          rw [Option.bind_some, toOption_bind, sees_null.agrees hw]
          cases View.null w with
          | none => rfl
          | some y =>
            refine (toOption_onlyEntry he).trans ?_
            simp only [Option.bind_some]
            split_ifs <;> rfl
    · cases v with
      | text s =>
        obtain ⟨q, hq', -⟩ := h
        cases hb.symm.trans hq'
        exact absurd rfl hq
      | object es =>
        obtain ⟨q, hq', -⟩ := h
        cases hb.symm.trans hq'
        exact absurd rfl ho
      | _ => rfl
  exists_tree {cs rest x} h := by
    unfold Reader.choice at h
    split at h
    · cases h
    · rename_i c r hb
      split_ifs at h with hq ho
      · subst hq
        obtain ⟨word, ht⟩ := readChoiceWord_eq_ok h
        obtain ⟨v, hv⟩ := sees_text.exists_tree ht
        exact ⟨v, hv.of_skipBlanks_eq (by rw [← hb, skipBlanks_idem])⟩
      · subst ho
        obtain ⟨⟨y, q'⟩, hy, h⟩ := exists_of_bind_ok h
        obtain ⟨u, hc, h⟩ := exists_of_bind_ok h
        obtain ⟨⟨⟨⟩, r'⟩, hn, h⟩ := exists_of_bind_ok h
        obtain ⟨word, ht⟩ := readChoiceWord_eq_ok hy
        obtain ⟨q, hq, hk⟩ := exists_of_text ht
        obtain ⟨w, hw⟩ := sees_null.exists_tree hn
        dsimp only at h
        split at h
        · cases h
        · rename_i d z hz
          split_ifs at h with hd
          · cases h
            subst hd
            exact ⟨.object [(some word, w)], r, hb, r, q, q', u, r', rfl, hq, hk, hc, hw, hz⟩
          · cases h
      · cases h

end BenchRoster.Json
