/-
# What readers see of an object

Objects are read entry by entry, into a partial result that is completed at the end; and so are
lists that stand for records.  Their readers see what the views of the same parts see.

* `AddsBy` says that one entry is read as the view reads it, and `AddsBy.toOption_repeatStep` that
  an object is read so entry after entry;
* `sees_table` and `sees_record` are the readers of tables and records;
* `Sees.readDocument` goes from there to whole documents.
-/
import BenchRoster.Proofs.JsonViews
import BenchRoster.Proofs.ReadBack

namespace BenchRoster.Json

variable {α π : Type} {v : Tree} {cs r rest : List Char}

/-! ## Objects -/

section

variable {first : Bool} {k : Option String} {key : String} {q q' u : List Char}

lemma nextKey_closing (hb : skipBlanks cs = '\x7d' :: rest) :
    nextKey first cs = .ok (none, '\x7d' :: rest) := by
  unfold nextKey
  rw [hb]
  rfl

lemma toOption_nextKey (hr : Between first cs r) (hq : skipBlanks r = '"' :: q)
    (hk : Quoted k q q') : (nextKey first cs).toOption = k.map fun key => (some key, q') := by
  have hread : ((readText q).map fun x => (some x.1, x.2)).toOption =
      k.map fun key => (some key, q') := by
    rw [toOption_map, hk.toOption_readText, Option.map_map]
    rfl
  unfold nextKey
  cases first with
  | true =>
    obtain rfl : cs = r := hr
    rw [hq]
    exact hread
  | false =>
    have hb : skipBlanks cs = ',' :: r := hr
    rw [hb]
    dsimp only
    rw [hq]
    exact hread

/-- What is taken for a key, where one has to stand, is a text. -/
lemma exists_of_key (ds : List Char) {o : Option String} (h : (match ds with
    | [] => faultAhead .eofInValue []
    | c :: r =>
      if c = '"' then (readText r).map fun x : String × List Char => (some x.1, x.2)
      else if c = '\x7d' ∧ ¬first then faultAhead .trailingComma (c :: r)
      else faultAhead .keyNotText (c :: r)) = .ok (o, rest)) :
    ∃ key q, o = some key ∧ ds = '"' :: q ∧ Quoted (some key) q rest := by
  split at h
  · cases h
  · rename_i c q
    split_ifs at h with hq
    · rcases ht : readText q with f | x <;> rw [ht] at h <;> cases h
      exact ⟨x.1, q, rfl, by rw [hq], quoted_of_readText ht⟩
    · cases h
    · cases h

/-- The key that stands at the front behind a comma, if one is due. -/
lemma exists_of_nextKey {o : Option String} (h : nextKey first cs = .ok (o, rest)) :
    (o = none ∧ ∃ r, skipBlanks cs = '\x7d' :: r ∧ rest = '\x7d' :: r) ∨
      ∃ key r q, o = some key ∧ Between first cs r ∧ skipBlanks r = '"' :: q ∧
        Quoted (some key) q rest := by
  unfold nextKey at h
  rcases hb : skipBlanks cs with _ | ⟨c, r⟩ <;> rw [hb] at h
  · cases h
  · by_cases he : c = '\x7d'
    · simp only [if_pos he] at h
      cases h
      exact .inl ⟨rfl, r, by rw [he], by rw [he]⟩
    · simp only [if_neg he] at h
      cases first with
      | true =>
        obtain ⟨key, q, ho, hq, hk⟩ := exists_of_key (c :: r) h
        exact .inr ⟨key, cs, q, ho, rfl, hb.trans hq, hk⟩
      | false =>
        by_cases hc : c = ','
        · subst hc
          obtain ⟨key, q, ho, hq, hk⟩ := exists_of_key _ h
          exact .inr ⟨key, r, q, ho, hb, hq, hk⟩
        · simp only [if_neg hc] at h
          cases h

end

/-- One step of reading an object: the next key, and what is done with its value. -/
def entryStep (body : String → π → Reader π) (s : Bool × π) (cs : List Char) :
    Except Fault (Option (Bool × π) × List Char) :=
  match nextKey s.1 cs with
  | .error f => .error f
  | .ok (none, rest) => .ok (none, rest)
  | .ok (some key, rest) => (body key s.2 rest).map fun x => (some (false, x.1), x.2)

/-- What is done with the value of an entry is what a view does, behind the colon. -/
structure AddsBy (body : String → π → Reader π) (add : String → π → View π) : Prop where
  agrees {key : String} {p : π} {v : Tree} {cs u rest : List Char} (hc : readColon cs = .ok u)
    (h : v.Heads u rest) : (body key p cs).toOption = (add key p v).map fun x => (x, rest)
  exists_tree {key : String} {p q : π} {cs rest : List Char} (h : body key p cs = .ok (q, rest)) :
    ∃ u, readColon cs = .ok u ∧ ∃ v : Tree, v.Heads u rest

lemma HeadEntries.length_cons {first : Bool} {u q q' : List Char} {k : Option String}
    (hr : Between first cs r) (hq : skipBlanks r = '"' :: q) (hk : Quoted k q q')
    (hc : readColon q' = .ok u) (hv : v.Heads u rest) : rest.length < cs.length := by
  have hu : u.length ≤ q.length :=
    ((suffix_of_readColon hc).trans (suffix_of_skipText hk.1)).length_le
  have hqr := length_of_skipBlanks hq
  have hrc : r.length ≤ cs.length := by
    cases first with
    | true =>
      obtain rfl : cs = r := hr
      exact le_rfl
    | false => exact (length_of_skipBlanks (c := ',') hr).le
  have := hv.skips.1
  omega

section

variable {body : String → π → Reader π} {add : String → π → View π}

/-- The entries of an object are read as the view reads them. -/
lemma AddsBy.toOption_repeatStep (h : AddsBy body add) {first : Bool}
    {es : List (Option String × Tree)} (he : HeadEntries first es cs rest) (p : π) :
    ((repeatStep (entryStep body) (first, p) cs).toOption.map fun x => (x.1.2, x.2)) =
      (View.entries add p es).map fun x => (x, '\x7d' :: rest) := by
  induction es generalizing first cs p with
  | nil =>
    have hs : entryStep body (first, p) cs = .ok (none, '\x7d' :: rest) := by
      rw [entryStep, nextKey_closing he]
    rw [repeatStep, iterate_stop hs]
    rfl
  | cons e es ih =>
    obtain ⟨k, v⟩ := e
    obtain ⟨r, q, q', u, r', hr, hq, hk, hc, hv, he⟩ := he
    have hn := toOption_nextKey hr hq hk
    have hlt := HeadEntries.length_cons hr hq hk hc hv
    have hs : (entryStep body (first, p) cs).toOption =
        k.bind fun key => (add key p v).map fun x => (some (false, x), r') := by
      rw [entryStep]
      rcases hx : nextKey first cs with f | ⟨o, q''⟩ <;> rw [hx] at hn <;> cases k <;> cases hn
      · rfl
      · dsimp only
        rw [toOption_map, h.agrees hc hv, Option.map_map]
        rfl
    rw [View.entries]
    rcases hx : entryStep body (first, p) cs with f | ⟨o, r''⟩ <;> rw [hx] at hs
    · rw [repeatStep, iterate_error hx]
      cases k with
      | none => rfl
      | some key =>
        rw [Option.bind_some] at hs ⊢
        cases ha : add key p v with
        | none => rfl
        | some x =>
          rw [ha] at hs
          cases hs
    · cases k with
      | none => cases hs
      | some key =>
        rw [Option.bind_some] at hs ⊢
        cases ha : add key p v with
        | none =>
          rw [ha] at hs
          cases hs
        | some x =>
          rw [ha] at hs
          cases hs
          rw [repeatStep, iterate_go hx hlt]
          exact ih he x

/-- A step of reading an object comes to its end or takes an entry. -/
lemma AddsBy.exists_of_entryStep (h : AddsBy body add) {s : Bool × π} {o : Option (Bool × π)}
    (hs : entryStep body s cs = .ok (o, rest)) :
    (o = none ∧ ∃ r, skipBlanks cs = '\x7d' :: r ∧ rest = '\x7d' :: r) ∨
      ∃ p k r q q' u, ∃ v : Tree, o = some (false, p) ∧ Between s.1 cs r ∧
        skipBlanks r = '"' :: q ∧ Quoted k q q' ∧ readColon q' = .ok u ∧ v.Heads u rest := by
  unfold entryStep at hs
  rcases hn : nextKey s.1 cs with f | ⟨_ | key, q'⟩ <;> simp only [hn] at hs
  · cases hs
  · cases hs
    obtain ⟨-, hr⟩ | ⟨_, _, _, hk, -⟩ := exists_of_nextKey hn
    · exact .inl ⟨rfl, hr⟩
    · cases hk
  · obtain ⟨hk, -⟩ | ⟨k, r, q, -, hr, hq, hk⟩ := exists_of_nextKey hn
    · cases hk
    · rcases hb : body key s.2 q' with f | ⟨p, r'⟩ <;> rw [hb] at hs <;> cases hs
      obtain ⟨u, hc, v, hv⟩ := h.exists_tree hb
      exact .inr ⟨p, some k, r, q, q', u, v, rfl, hr, hq, hk, hc, hv⟩

/-- What is read as the entries of an object stands there, up to the end. -/
lemma AddsBy.exists_entries (h : AddsBy body add) {s t : Bool × π}
    (hr : repeatStep (entryStep body) s cs = .ok (t, rest)) :
    ∃ es r, HeadEntries s.1 es cs r ∧ rest = '\x7d' :: r := by
  unfold repeatStep at hr
  fun_induction iterate List.length (entryStep body) s cs with
  | case1 s cs f he => cases hr
  | case2 s cs q he =>
    cases hr
    obtain ⟨-, r, hb, hq⟩ | ⟨_, _, _, _, _, _, _, ho, -⟩ := h.exists_of_entryStep he
    · exact ⟨[], r, hb, hq⟩
    · cases ho
  | case3 s cs s' q he hlt ih =>
    obtain ⟨ho, -⟩ | ⟨p, k, r, q₁, q₂, u, v, ho, hr₁, hq, hk, hc, hv⟩ := h.exists_of_entryStep he
    · cases ho
    · cases ho
      obtain ⟨es, r', hes, hr'⟩ := ih hr
      exact ⟨(k, v) :: es, r', ⟨r, q₁, q₂, u, q, hr₁, hq, hk, hc, hv, hes⟩, hr'⟩
  | case4 s cs s' q he hlt =>
    obtain ⟨ho, -⟩ | ⟨p, k, r, q₁, q₂, u, v, ho, hr₁, hq, hk, hc, hv⟩ := h.exists_of_entryStep he
    · cases ho
    · exact absurd (HeadEntries.length_cons hr₁ hq hk hc hv) hlt

end

lemma toOption_bracketed (read : Reader α) (finish : List Char → Except Fault (List Char))
    (past : List Char → List Char) (cs : List Char) :
    (bracketed read finish past cs).toOption =
      (read cs).toOption.bind fun x => (finish x.2).toOption.map fun rest => (x.1, rest) := by
  unfold bracketed
  rcases read cs with f | ⟨x, r⟩
  · rfl
  · change _ = (finish r).toOption.map _
    dsimp only
    rcases finish r with f | rest <;> rfl

lemma exists_of_bracketed {read : Reader α} {finish : List Char → Except Fault (List Char)}
    {past : List Char → List Char} {x : α} (h : bracketed read finish past cs = .ok (x, rest)) :
    ∃ r, read cs = .ok (x, r) ∧ finish r = .ok rest := by
  unfold bracketed at h
  rcases hr : read cs with f | ⟨y, r⟩ <;> simp only [hr] at h
  · cases h
  · rcases hf : finish r with f | q <;> simp only [hf] at h
    · cases h
    · cases h
      exact ⟨r, rfl, hf⟩

/-- What is done with the value of an entry of a table. -/
def tableBody (key : String) (t : Table) : Reader Table := fun cs => do
  let rest ← readColon cs
  let (value, rest) ← Reader.text rest
  .ok (t.insert key value, rest)

lemma tableStep_eq : tableStep = entryStep tableBody := by
  funext s cs
  unfold tableStep entryStep tableBody
  rcases nextKey s.1 cs with f | ⟨_ | key, r⟩
  · rfl
  · rfl
  · dsimp only
    rcases readColon r with f | u
    · rfl
    · dsimp only [bind, Except.bind]
      rcases Reader.text u with f | x <;> rfl

lemma addsBy_table :
    AddsBy tableBody fun key t v => (View.text v).map (t.insert key) where
  agrees {key t v cs u rest} hc h := by
    rw [tableBody, hc, toOption_bind]
    change (Reader.text u >>= _).toOption = _
    rw [toOption_bind, sees_text.agrees h]
    cases View.text v <;> rfl
  exists_tree {key t t' cs rest} h := by
    obtain ⟨u, hc, h⟩ := exists_of_bind_ok h
    obtain ⟨x, ht, h⟩ := exists_of_bind_ok h
    cases h
    exact ⟨u, hc, sees_text.exists_tree ht⟩

lemma sees_table : Sees Reader.table View.table where
  agrees {v cs rest} h := by
    obtain ⟨c, r, hb, -, -⟩ := h.exists_cons
    rw [Reader.table, hb]
    dsimp only
    split_ifs with ho
    · subst ho
      obtain ⟨es, rfl, he⟩ := (heads_object_iff hb).1 h
      have hr := addsBy_table.toOption_repeatStep he Table.empty
      rw [toOption_bracketed, tableStep_eq, toOption_map, hr, View.table]
      cases View.entries _ Table.empty es with
      | none => rfl
      | some t =>
        change (endObject ('\x7d' :: rest)).toOption.map _ = _
        rw [endObject_cons]
        rfl
    · rw [toOption_wrongType]
      cases v with
      | object es =>
        obtain ⟨q, hq, -⟩ := h
        cases hb.symm.trans hq
        exact absurd rfl ho
      | _ => rfl
  exists_tree {cs rest x} h := by
    unfold Reader.table at h
    split at h
    · cases h
    · rename_i c r hb
      split_ifs at h with ho
      · subst ho
        obtain ⟨q, hq, hend⟩ := exists_of_bracketed h
        rw [tableStep_eq] at hq
        rcases hr : repeatStep (entryStep tableBody) (true, Table.empty) r with f | ⟨t, q'⟩ <;>
          rw [hr] at hq <;> cases hq
        obtain ⟨es, r', hes, rfl⟩ := addsBy_table.exists_entries hr
        rw [endObject_cons] at hend
        cases hend
        exact ⟨.object es, r, hb, hes⟩
      · exact absurd h wrongType_ne_ok

/-! ## Records -/

/-- A field of a reader is read as a field of a view. -/
structure FieldSees (f : Field Reader π) (g : Field View π) : Prop where
  key : f.key = g.key
  seen : f.seen = g.seen
  read : Sees f.read g.read

section

variable {fields : List (Field Reader π)} {views : List (Field View π)}

lemma find?_sees (h : List.Forall₂ FieldSees fields views) (key : String) :
    Option.Rel FieldSees (Field.find? fields key) (Field.find? views key) := by
  unfold Field.find?
  induction h with
  | nil => exact .none
  | @cons f g fs gs hf _ ih =>
    rw [List.find?_cons, List.find?_cons, hf.key]
    cases g.key == key with
    | true => exact .some hf
    | false => exact ih

/-- What is done with the value of an entry of a record. -/
def recordBody (fields : List (Field Reader π)) (key : String) (p : π) : Reader π := fun cs =>
  match Field.find? fields key with
  | none => do
    let rest ← readColon cs
    let rest ← skipValue rest
    .ok (p, rest)
  | some field =>
    if field.seen p then faultPending (.duplicateField key) cs
    else do
      let rest ← readColon cs
      let (add, rest) ← field.read rest
      .ok (add p, rest)

lemma recordStep_eq (fields : List (Field Reader π)) :
    recordStep fields = entryStep (recordBody fields) := by
  funext s cs
  unfold recordStep entryStep recordBody
  rcases nextKey s.1 cs with f | ⟨_ | key, r⟩
  · rfl
  · rfl
  · dsimp only
    rcases Field.find? fields key with _ | field
    · dsimp only
      rcases readColon r with f | u
      · rfl
      · dsimp only [bind, Except.bind]
        rcases skipValue u with f | x <;> rfl
    · dsimp only
      split_ifs
      · rfl
      · rcases readColon r with f | u
        · rfl
        · dsimp only [bind, Except.bind]
          rcases field.read u with f | x <;> rfl

lemma addsBy_record (h : List.Forall₂ FieldSees fields views) :
    AddsBy (recordBody fields) (View.addField views) where
  agrees {key p v cs u rest} hc hv := by
    unfold recordBody View.addField
    have hk := find?_sees h key
    rcases hf : Field.find? fields key with _ | f <;>
      rcases hg : Field.find? views key with _ | g <;> rw [hf, hg] at hk <;> cases hk
    · dsimp only
      rw [hc, toOption_bind]
      change (skipValue u >>= _).toOption = _
      rw [hv.skipValue]
      rfl
    · rename_i hs
      dsimp only
      rw [hs.seen]
      split_ifs
      · rfl
      · rw [hc, toOption_bind]
        change (f.read u >>= _).toOption = _
        rw [toOption_bind, hs.read.agrees hv]
        cases g.read v <;> rfl
  exists_tree {key p q cs rest} hr := by
    unfold recordBody at hr
    have hk := find?_sees h key
    rcases hf : Field.find? fields key with _ | f <;>
      rcases hg : Field.find? views key with _ | g <;> rw [hf, hg] at hk <;> cases hk
    · simp only [hf] at hr
      obtain ⟨u, hc, hr⟩ := exists_of_bind_ok hr
      obtain ⟨x, hs, hr⟩ := exists_of_bind_ok hr
      cases hr
      exact ⟨u, hc, exists_of_skipValue hs⟩
    · rename_i hs
      simp only [hf] at hr
      split_ifs at hr
      · cases hr
      · obtain ⟨u, hc, hr⟩ := exists_of_bind_ok hr
        obtain ⟨x, hx, hr⟩ := exists_of_bind_ok hr
        cases hr
        exact ⟨u, hc, hs.read.exists_tree hx⟩

lemma endList_closing (hb : skipBlanks cs = ']' :: rest) : endList cs = .ok rest := by
  rw [endList, hb]
  rfl

lemma exists_of_endList (h : endList cs = .ok rest) : skipBlanks cs = ']' :: rest := by
  unfold endList at h
  split at h
  · cases h
  · rename_i c r hb
    split_ifs at h with he hc
    · cases h
      rw [hb, he]
    · split at h
      · split_ifs at h <;> cases h
      · cases h
    · cases h

lemma HeadItems.of_skipBlanks_eq {first : Bool} {vs : List Tree} {ds : List Char}
    (h : HeadItems first vs cs rest) (hd : skipBlanks cs = skipBlanks ds) :
    HeadItems first vs ds rest := by
  cases vs with
  | nil => exact hd.symm.trans h
  | cons v vs =>
    obtain ⟨r, r', hr, hv, hi⟩ := h
    cases first with
    | true =>
      obtain rfl : cs = r := hr
      exact ⟨ds, r', rfl, hv.of_skipBlanks_eq hd, hi⟩
    | false => exact ⟨r, r', hd.symm.trans hr, hv, hi⟩

/-- The next item of a list, without the blanks before it. -/
lemma nextItem_item {first : Bool} (hr : Between first cs r) (hv : v.Heads r rest) :
    nextItem first cs = .ok (true, skipBlanks r) := by
  obtain ⟨c, q, hb, hl, -⟩ := hv.exists_cons
  unfold nextItem
  cases first with
  | true =>
    obtain rfl : cs = r := hr
    simp only [hb, if_neg hl, if_true]
  | false =>
    have hc : skipBlanks cs = ',' :: r := hr
    simp [hc, hb, hl]

lemma exists_of_nextItem {first more : Bool} (h : nextItem first cs = .ok (more, rest)) :
    (more = false ∧ ∃ r, skipBlanks cs = ']' :: r ∧ rest = ']' :: r) ∨
      (more = true ∧ ∃ r, Between first cs r ∧ rest = skipBlanks r) := by
  unfold nextItem at h
  rcases hb : skipBlanks cs with _ | ⟨c, r⟩ <;> simp only [hb] at h
  · cases h
  · split_ifs at h with he hf hc
    · cases h
      exact .inl ⟨rfl, r, by rw [he], by rw [he]⟩
    · cases h
      subst hf
      exact .inr ⟨rfl, cs, rfl, hb.symm⟩
    · have hr : Between first cs r := by
        cases first with
        | true => exact absurd rfl hf
        | false => exact hb.trans (by rw [hc])
      rcases hq : skipBlanks r with _ | ⟨d, q⟩ <;> simp only [hq] at h
      · cases h
      · split_ifs at h
        · cases h
        · cases h
          exact .inr ⟨rfl, r, hr, hq.symm⟩
    · cases h

/-- After the last field of a record its list has to end. -/
lemma toOption_endList {first : Bool} {vs : List Tree} (h : HeadItems first vs cs rest) :
    (endList cs).toOption = if vs = [] then some rest else none := by
  cases vs with
  | nil => rw [endList_closing h]; rfl
  | cons v vs =>
    rcases he : endList cs with f | q
    · rfl
    · have hb := exists_of_endList he
      obtain ⟨r, r', hr, hv, -⟩ := h
      cases first with
      | true =>
        obtain rfl : cs = r := hr
        obtain ⟨c, q', hc, hl, -⟩ := hv.exists_cons
        rw [hb] at hc
        cases hc
        exact absurd rfl hl
      | false =>
        have hc : skipBlanks cs = ',' :: r := hr
        rw [hb] at hc
        cases hc

lemma toOption_recordItems (h : List.Forall₂ FieldSees fields views) {first : Bool}
    {vs : List Tree} (hi : HeadItems first vs cs rest) (p : π) :
    ((recordItems fields first p cs).toOption.bind fun x =>
        (endList x.2).toOption.map fun rest => (x.1, rest)) =
      (View.items views p vs).map fun x => (x, rest) := by
  induction h generalizing first cs vs p with
  | nil =>
    change (endList cs).toOption.map _ = _
    rw [toOption_endList hi]
    cases vs <;> rfl
  | @cons f g fs gs hf _ ih =>
    rw [recordItems]
    cases vs with
    | nil =>
      have hb : skipBlanks cs = ']' :: rest := hi
      have hn : nextItem first cs = .ok (false, ']' :: rest) := by
        rw [nextItem, hb]
        rfl
      rw [hn]
      have hend : HeadItems first [] (']' :: rest) rest := (rfl : skipBlanks (']' :: rest) = _)
      exact (ih hend p).trans (by cases gs <;> rfl)
    | cons v vs =>
      obtain ⟨r, r', hr, hv, hi⟩ := hi
      rw [nextItem_item hr hv]
      have hx := hf.read.agrees (hv.of_skipBlanks_eq (skipBlanks_idem r).symm)
      dsimp only
      rw [View.items]
      rcases hfr : f.read (skipBlanks r) with u | ⟨add, q⟩ <;> rw [hfr] at hx <;>
        cases hg : g.read v <;> rw [hg] at hx <;> cases hx
      · rfl
      · exact ih hi (add p)

lemma exists_of_recordItems (h : List.Forall₂ FieldSees fields views) {first : Bool} {p p' : π}
    {q : List Char} (hr : recordItems fields first p cs = .ok (p', q)) (he : endList q = .ok rest) :
    ∃ vs, HeadItems first vs cs rest := by
  induction h generalizing first cs p with
  | nil =>
    cases hr
    exact ⟨[], exists_of_endList he⟩
  | @cons f g fs gs hf _ ih =>
    rw [recordItems] at hr
    rcases hn : nextItem first cs with u | ⟨_ | _, r⟩ <;> simp only [hn] at hr
    · cases hr
    · obtain ⟨-, r', hb, rfl⟩ | ⟨ho, -⟩ := exists_of_nextItem hn
      · obtain ⟨vs, hvs⟩ := ih hr
        exact ⟨vs, hvs.of_skipBlanks_eq (by rw [hb]; rfl)⟩
      · cases ho
    · obtain ⟨ho, -⟩ | ⟨-, r', hb, rfl⟩ := exists_of_nextItem hn
      · cases ho
      · rcases hx : f.read (skipBlanks r') with u | ⟨add, q'⟩ <;> simp only [hx] at hr
        · cases hr
        · obtain ⟨v, hv⟩ := hf.read.exists_tree hx
          obtain ⟨vs, hvs⟩ := ih hr
          exact ⟨v :: vs, r', q', hb, hv.of_skipBlanks_eq (skipBlanks_idem r'), hvs⟩

lemma toOption_completeRecord (finish : π → Except String α) (p : π) (rest : List Char) :
    (completeRecord finish p rest).toOption = (finish p).toOption.map fun x => (x, rest) := by
  unfold completeRecord
  cases finish p <;> rfl

lemma exists_of_completeRecord {finish : π → Except String α} {p : π} {q : List Char} {x : α}
    (h : completeRecord finish p q = .ok (x, rest)) : q = rest := by
  unfold completeRecord at h
  split at h
  · cases h
    rfl
  · cases h

lemma toOption_objectRecord (h : List.Forall₂ FieldSees fields views)
    {es : List (Option String × Tree)} (he : HeadEntries true es cs rest) (blank : π)
    (finish : π → Except String α) :
    (bracketed (objectRecord fields blank finish) endObject pastObject cs).toOption =
      ((View.entries (View.addField views) blank es).bind fun p => (finish p).toOption).map
        fun x => (x, rest) := by
  have hr := (addsBy_record h).toOption_repeatStep he blank
  have ho : (objectRecord fields blank finish cs).toOption =
      ((View.entries (View.addField views) blank es).bind fun p => (finish p).toOption).map
        fun x => (x, '\x7d' :: rest) := by
    unfold objectRecord
    rw [recordStep_eq]
    rcases hs : repeatStep (entryStep (recordBody fields)) (true, blank) cs with u | ⟨s, q⟩ <;>
      rw [hs] at hr <;> cases hv : View.entries (View.addField views) blank es <;> rw [hv] at hr <;>
      cases hr
    · rfl
    · exact toOption_completeRecord finish s.2 _
  rw [toOption_bracketed, ho]
  cases (View.entries (View.addField views) blank es).bind fun p => (finish p).toOption with
  | none => rfl
  | some x =>
    change (endObject ('\x7d' :: rest)).toOption.map _ = _
    rw [endObject_cons]
    rfl

lemma toOption_listRecord (h : List.Forall₂ FieldSees fields views) {vs : List Tree}
    (hi : HeadItems true vs cs rest) (blank : π) (finish : π → Except String α) :
    (bracketed (listRecord fields blank finish) endList pastList cs).toOption =
      ((View.items views blank vs).bind fun p => (finish p).toOption).map fun x => (x, rest) := by
  have hr := toOption_recordItems h hi blank
  rw [toOption_bracketed]
  unfold listRecord
  rcases hs : recordItems fields true blank cs with u | ⟨p, q⟩ <;> rw [hs] at hr
  · cases hv : View.items views blank vs with
    | none => rfl
    | some p =>
      rw [hv] at hr
      cases hr
  · change (completeRecord finish p q).toOption.bind _ = _
    rw [toOption_completeRecord]
    change (endList q).toOption.map _ = _ at hr
    rcases he : endList q with u | rest' <;> rw [he] at hr <;>
      cases hv : View.items views blank vs <;> rw [hv] at hr <;> cases hr
    · cases (finish p).toOption with
      | none => rfl
      | some x =>
        change (endList q).toOption.map _ = _
        rw [he]
        rfl
    · change _ = (finish p).toOption.map _
      cases (finish p).toOption with
      | none => rfl
      | some x =>
        change (endList q).toOption.map _ = _
        rw [he]
        rfl

/-- A record sees the record of views. -/
lemma sees_record (h : List.Forall₂ FieldSees fields views) (name : String) (blank : π)
    (finish : π → Except String α) :
    Sees (Reader.record name fields blank finish) (View.record name views blank finish) where
  agrees {v cs rest} hv := by
    obtain ⟨c, r, hb, -, -⟩ := hv.exists_cons
    rw [Reader.record, hb]
    dsimp only
    split_ifs with hl ho
    · subst hl
      obtain ⟨vs, rfl, hi⟩ := (heads_list_iff hb).1 hv
      exact toOption_listRecord h hi blank finish
    · subst ho
      obtain ⟨es, rfl, he⟩ := (heads_object_iff hb).1 hv
      exact toOption_objectRecord h he blank finish
    · rw [toOption_wrongType]
      cases v with
      | list vs =>
        obtain ⟨q, hq, -⟩ := hv
        cases hb.symm.trans hq
        exact absurd rfl hl
      | object es =>
        obtain ⟨q, hq, -⟩ := hv
        cases hb.symm.trans hq
        exact absurd rfl ho
      | _ => rfl
  exists_tree {cs rest x} hr := by
    unfold Reader.record at hr
    split at hr
    · cases hr
    · rename_i c r hb
      split_ifs at hr with hl ho
      · subst hl
        obtain ⟨q, hq, hend⟩ := exists_of_bracketed hr
        unfold listRecord at hq
        rcases hi : recordItems fields true blank r with u | ⟨p, q'⟩ <;> simp only [hi] at hq
        · cases hq
        · obtain rfl := exists_of_completeRecord hq
          obtain ⟨vs, hvs⟩ := exists_of_recordItems h hi hend
          exact ⟨.list vs, r, hb, hvs⟩
      · subst ho
        obtain ⟨q, hq, hend⟩ := exists_of_bracketed hr
        unfold objectRecord at hq
        rw [recordStep_eq] at hq
        rcases hs : repeatStep (entryStep (recordBody fields)) (true, blank) r with u | ⟨s, q'⟩ <;>
          simp only [hs] at hq
        · cases hq
        · obtain rfl := exists_of_completeRecord hq
          obtain ⟨es, r', hes, rfl⟩ := (addsBy_record h).exists_entries hs
          rw [endObject_cons] at hend
          cases hend
          exact ⟨.object es, r, hb, hes⟩
      · exact absurd hr wrongType_ne_ok

end

/-! ## Whole documents -/

/-- A text holds a tree and nothing else. -/
def Tree.Fills (v : Tree) (s : String) : Prop :=
  ∃ rest, v.Heads s.toList rest ∧ skipBlanks rest = []

/-- What is read from a document is what the view gives of its tree. -/
lemma Sees.readDocument {read : Reader α} {view : View α} (h : Sees read view) {s : String}
    (hv : v.Fills s) : (Json.readDocument read s).toOption = view v := by
  obtain ⟨rest, hv, hb⟩ := hv
  have hr := h.agrees hv
  unfold Json.readDocument
  rcases hx : read s.toList with f | ⟨x, r⟩ <;> rw [hx] at hr <;> cases hw : view v <;>
    rw [hw] at hr <;> cases hr
  · rfl
  · dsimp only
    rw [hb]
    rfl

/-- A document that is read holds a tree. -/
lemma Sees.exists_fills {read : Reader α} {view : View α} (h : Sees read view) {s : String} {x : α}
    (hr : Json.readDocument read s = .ok x) : ∃ v : Tree, v.Fills s := by
  unfold Json.readDocument at hr
  split at hr
  · cases hr
  · rename_i y rest hy
    split at hr
    · obtain ⟨v, hv⟩ := h.exists_tree hy
      exact ⟨v, rest, hv, ‹_›⟩
    · cases hr

end BenchRoster.Json
