/-
# Repeated names

Backends are compared by their names twice.  The check of a draft does it while it goes through the
backends, and takes the rules for each backend on its own between one name and the next; making a
roster does it for descriptors that are finished.  Where every backend keeps the rules on its own,
both find the same: either no name occurs twice, and then the roster holds the descriptors as they
are written down, or both report the name at the first place whose name stands at an earlier place.

* `RepeatsAt` says that the item at a place stands at an earlier place, too, and
  `firstRepeated?_eq_some_iff_isLeast` that the first such place is the one that is found;
* `BackendDraft.entry` is what becomes of a backend that keeps the rules on its own;
* `checkBackends_eq_firstRepeated` compares the two ways of looking for a repeated name, step by
  step, and `Draft.check_of_others` sets the rules for the rest of a draft aside;
* `Draft.repeats_alike` is the main statement.
-/
import BenchRoster.Proofs.Drafts
import Mathlib.Order.Bounds.Defs

namespace BenchRoster

/-! ## Places with a repeated item -/

section Places

variable {α β : Type} {xs : List α} {i : ℕ}

/-- The item at a place stands at an earlier place, too. -/
def RepeatsAt (xs : List α) (i : ℕ) : Prop := i < xs.length ∧ ∃ j < i, xs[j]? = xs[i]?

instance [DecidableEq α] (xs : List α) (i : ℕ) : Decidable (RepeatsAt xs i) :=
  inferInstanceAs (Decidable (_ ∧ _))

lemma repeatsAt_iff_mem_take {x : α} (h : xs[i]? = some x) : RepeatsAt xs i ↔ x ∈ xs.take i := by
  have hi : i < xs.length := (List.getElem?_eq_some_iff.1 h).1
  rw [RepeatsAt, h, List.mem_iff_getElem?]
  constructor
  · rintro ⟨-, j, hj, hx⟩
    exact ⟨j, by rw [List.getElem?_take_of_lt hj, hx]⟩
  · rintro ⟨j, hx⟩
    rw [List.getElem?_take] at hx
    split at hx
    · exact ⟨hi, j, ‹_›, hx⟩
    · cases hx

/-- Up to a place no item is repeated exactly if the items before it differ. -/
lemma nodup_take_iff (hi : i ≤ xs.length) : (xs.take i).Nodup ↔ ∀ k < i, ¬RepeatsAt xs k := by
  rw [List.nodup_iff_getElem?_ne_getElem?, List.length_take, Nat.min_eq_left hi]
  constructor
  · rintro h k hk ⟨-, j, hj, hx⟩
    refine h j k hj hk ?_
    rw [List.getElem?_take_of_lt (hj.trans hk), List.getElem?_take_of_lt hk, hx]
  · intro h j k hj hk hx
    rw [List.getElem?_take_of_lt (hj.trans hk), List.getElem?_take_of_lt hk] at hx
    exact h k hk ⟨hk.trans_le hi, j, hj, hx⟩

/-- Items that are told apart by their images repeat where the images do. -/
lemma repeatsAt_map_iff {f : α → β} (hf : f.Injective) :
    RepeatsAt (xs.map f) i ↔ RepeatsAt xs i := by
  simp only [RepeatsAt, List.length_map, List.getElem?_map, (Option.map_injective hf).eq_iff]

end Places

/-- The repeated name that is found is the one at the first place that repeats a name. -/
lemma firstRepeated?_eq_some_iff_isLeast {names : List BackendName} {n : BackendName} :
    firstRepeated? [] names = some n ↔
      ∃ i, IsLeast {i | RepeatsAt names i} i ∧ names[i]? = some n := by
  rw [firstRepeated?_eq_some_iff]
  constructor
  · rintro ⟨before, after, rfl, hm, hb, -⟩
    have hn : (before ++ n :: after)[before.length]? = some n := by simp
    have ht : (before ++ n :: after).take before.length = before := List.take_left
    -- the place is the number of names before it; among those no name is repeated
    refine ⟨before.length, ⟨?_, fun k hk => Nat.not_lt.1 fun hlt => ?_⟩, hn⟩
    · refine (repeatsAt_iff_mem_take hn).2 ?_
      rw [ht]
      exact hm.resolve_left List.not_mem_nil
    · rw [← ht, nodup_take_iff (by simp)] at hb
      exact hb k hlt hk
  · rintro ⟨i, ⟨hr, hl⟩, hn⟩
    obtain ⟨hi, hx⟩ := List.getElem?_eq_some_iff.1 hn
    refine ⟨names.take i, names.drop (i + 1), ?_, .inr ((repeatsAt_iff_mem_take hn).1 hr),
      (nodup_take_iff hi.le).2 fun k hk hr => Nat.not_le.2 hk (hl hr), by simp⟩
    rw [← hx, List.getElem_cons_drop, List.take_append_drop]

lemma BackendName.text_injective : Function.Injective BackendName.text := by
  rintro ⟨s, hs⟩ ⟨t, ht⟩ rfl
  rfl

/-- The same by the texts of the names, for the rejection that the repeated name leads to. -/
lemma exists_firstRepeated_iff {names : List BackendName} {r : Rejection} :
    (∃ n, firstRepeated? [] names = some n ∧ r = .duplicateBackend n.text) ↔
      ∃ i t, IsLeast {i | RepeatsAt (names.map (·.text)) i} i ∧
        (names.map (·.text))[i]? = some t ∧ r = .duplicateBackend t := by
  simp only [repeatsAt_map_iff BackendName.text_injective, List.getElem?_map,
    Option.map_eq_some_iff, firstRepeated?_eq_some_iff_isLeast]
  constructor
  · rintro ⟨n, ⟨i, hi, hn⟩, rfl⟩
    exact ⟨i, n.text, hi, ⟨n, hn, rfl⟩, rfl⟩
  · rintro ⟨i, _, hi, ⟨n, hn, rfl⟩, rfl⟩
    exact ⟨n, ⟨i, hi, hn⟩, rfl⟩

/-- Descriptors make a roster exactly if their names differ. -/
lemma Roster.exists_ofList_iff {τ : Type} {ds : List (Descriptor τ)} :
    (∃ s, ofList ds = .ok s) ↔ (ds.map (·.name)).Nodup := by
  constructor
  · rintro ⟨s, hs⟩
    rw [← ofList_eq_ok_iff.1 hs]
    exact s.distinct
  · intro h
    exact ⟨⟨ds, h⟩, ofList_eq_ok_iff.2 rfl⟩

/-! ## Backends that keep the rules on their own -/

namespace BackendDraft

/-- The backend that a draft becomes if it keeps the rules on its own. -/
def entry (b : BackendDraft) (h : b.Valid) : BackendEntry :=
  { name := ⟨b.name, nameFault?_eq_none_iff_isName.2 h.name⟩,
    locator := ⟨b.locator, locatorFault?_eq_none_iff.2 h.locator⟩,
    args := b.args, options := b.options, flag := b.flag }

/-- The rules for a backend on its own, as the checks test them. -/
lemma valid_iff {b : BackendDraft} :
    b.Valid ↔ nameFault? b.name = none ∧ locatorFault? b.locator = none ∧ b.lacksFlag = false := by
  have hf : b.lacksFlag = false ↔ (b.options.isSome = true → HasMark b.flag) := by
    rw [lacksFlag, Bool.and_eq_false_imp, ← Bool.not_eq_true, blank_iff, not_not]
  rw [nameFault?_eq_none_iff_isName, locatorFault?_eq_none_iff, hf]
  constructor
  · intro h
    exact ⟨h.name, h.locator, h.flag⟩
  · rintro ⟨hn, hl, ho⟩
    exact ⟨hn, hl, ho⟩

instance (b : BackendDraft) : Decidable b.Valid := decidable_of_iff _ valid_iff.symm

/-- The check lets it pass at every place. -/
lemma check_eq_ok {b : BackendDraft} (h : b.Valid) (index : ℕ) :
    b.check index = .ok (b.entry h) := by
  have hn : BackendName.ofString b.name = .ok (b.entry h).name :=
    BackendName.ofString_text (b.entry h).name
  have hl : Locator.ofString b.locator = .ok (b.entry h).locator :=
    Locator.ofString_text (b.entry h).locator
  simp only [check, hn, hl, (valid_iff.1 h).2.2]
  rfl

/-- The names stay as they are written down. -/
lemma map_text_entries {bs : List BackendDraft} (hb : ∀ b ∈ bs, b.Valid) :
    (bs.pmap entry hb).map (·.name.text) = bs.map (·.name) := by
  rw [List.map_pmap]
  exact List.pmap_eq_map hb

end BackendDraft

/-- The check of backends that keep the rules on their own looks for a repeated name and does
nothing else: between one name and the next it always passes. -/
lemma checkBackends_eq_firstRepeated {bs : List BackendDraft} (hb : ∀ b ∈ bs, b.Valid) (index : ℕ)
    (seen : List BackendName) :
    checkBackends index seen bs =
      match firstRepeated? seen ((bs.pmap BackendDraft.entry hb).map (·.name)) with
      | none => .ok (bs.pmap BackendDraft.entry hb)
      | some n => .error (.duplicateBackend n.text) := by
  induction bs generalizing index seen with
  | nil => rfl
  | cons b bs ih =>
    obtain ⟨hv, hb'⟩ := List.forall_mem_cons.1 hb
    -- the backend itself passes, so both now ask whether its name has been seen
    rw [checkBackends, BackendDraft.check_eq_ok hv, List.pmap_cons, List.map_cons, firstRepeated?]
    by_cases hs : seen.contains (b.entry hv).name = true
    · simp only [bind, Except.bind, hs, if_true]
    · simp only [bind, Except.bind, hs, ih hb']
      cases firstRepeated? ((b.entry hv).name :: seen)
        ((bs.pmap BackendDraft.entry hb').map (·.name)) <;> rfl

/-! ## The check of a draft and the making of a roster -/

namespace Draft

variable {d : Draft} {bs : List BackendDraft}

/-- Where the rest of a draft is valid, its check is that of its backends. -/
lemma check_of_others (ho : Valid { d with backends := none }) (hd : d.backends = some bs) :
    ∃ suite : SuiteName,
      d.check = (checkBackends 0 [] bs).map fun es => ⟨suite, d.timing, d.searchPaths, es⟩ := by
  obtain ⟨c, hc⟩ := exists_check_eq_ok_iff.2 ho
  obtain ⟨suite, hs, hc⟩ := exists_of_bind_ok hc
  obtain ⟨⟨⟩, ht, hc⟩ := exists_of_bind_ok hc
  obtain ⟨⟨⟩, hp, -⟩ := exists_of_bind_ok hc
  dsimp only at hs ht hp
  refine ⟨suite, ?_⟩
  rw [check, hs, ht, hp, hd]
  rfl

section Repeated

variable (ho : Valid { d with backends := none }) (hd : d.backends = some bs)
  (hb : ∀ b ∈ bs, b.Valid)

include ho hd

/-- A draft is refused for the first repeated name of its backends and for nothing else. -/
lemma check_eq_error_iff_firstRepeated {r : Rejection} :
    d.check = .error r ↔
      ∃ n, firstRepeated? [] ((bs.pmap BackendDraft.entry hb).map (·.name)) = some n ∧
        r = .duplicateBackend n.text := by
  obtain ⟨suite, hc⟩ := check_of_others ho hd
  rw [hc, checkBackends_eq_firstRepeated hb]
  cases firstRepeated? [] ((bs.pmap BackendDraft.entry hb).map (·.name)) <;>
    simp [Except.map, eq_comm]

lemma backends_of_check {c : Config} (h : d.check = .ok c) :
    c.backends = bs.pmap BackendDraft.entry hb := by
  obtain ⟨suite, hc⟩ := check_of_others ho hd
  rw [hc, checkBackends_eq_firstRepeated hb] at h
  cases hf : firstRepeated? [] ((bs.pmap BackendDraft.entry hb).map (·.name)) with
  | none =>
    rw [hf] at h
    cases h
    rfl
  | some n =>
    rw [hf] at h
    cases h

end Repeated

/-- **Names are compared alike.**  Let every backend of a draft keep the rules on its own, and the
rest of the draft be valid; then the check makes an entry of each backend.  It refuses the draft
exactly when no roster can be made of the descriptors of these entries, and with the same rejection:
the name that is reported is the one at the first place whose name stands at an earlier place.  Both
accept exactly when no name occurs twice, and then the roster holds just the descriptors, in the
order of the draft, so that its names and its size are those of the list of backends. -/
theorem repeats_alike (τ : Type) {d : Draft} {bs : List BackendDraft}
    (ho : Valid { d with backends := none }) (hd : d.backends = some bs)
    (hb : ∀ b ∈ bs, b.Valid) :
    let names := bs.map (·.name)
    let es := bs.pmap BackendDraft.entry hb
    let ds := es.map (BackendEntry.descriptor τ)
    (∀ (i : ℕ) (b : BackendDraft), bs[i]? = some b → ∃ e, es[i]? = some e ∧ b.check i = .ok e) ∧
    (∀ r, d.check = .error r ↔ Roster.ofList ds = .error r) ∧
    (∀ r, Roster.ofList ds = .error r ↔
      ∃ i n, IsLeast {i | RepeatsAt names i} i ∧ names[i]? = some n ∧ r = .duplicateBackend n) ∧
    (names.Nodup ↔ ∃ c s, d.check = .ok c ∧ Roster.ofList ds = .ok s) ∧
    ∀ c s, d.check = .ok c → Roster.ofList ds = .ok s →
      c.descriptors τ = ds ∧ c.roster τ = .ok s ∧ s.descriptors = ds ∧
        s.names.map (·.text) = names ∧ s.size = bs.length := by
  intro names es ds
  have hn : ds.map (·.name) = es.map (·.name) := by
    rw [List.map_map]
    rfl
  have ht : (es.map (·.name)).map (·.text) = names := by
    rw [List.map_map]
    exact BackendDraft.map_text_entries hb
  have hc (r : Rejection) := check_eq_error_iff_firstRepeated ho hd hb (r := r)
  have hr (r : Rejection) : Roster.ofList ds = .error r ↔
      ∃ n, firstRepeated? [] (es.map (·.name)) = some n ∧ r = .duplicateBackend n.text := by
    rw [Roster.ofList_eq_error_iff, hn]
  have hnd : names.Nodup ↔ ∃ s, Roster.ofList ds = .ok s := by
    rw [Roster.exists_ofList_iff, hn, ← ht, List.nodup_map_iff BackendName.text_injective]
  refine ⟨fun i b hi => ?_, fun r => (hc r).trans (hr r).symm, fun r => ?_, ⟨fun h => ?_, ?_⟩,
    fun c s hcc hs => ?_⟩
  · have hv : b.Valid := hb b (List.mem_of_getElem? hi)
    exact ⟨b.entry hv, by simp [es, hi], BackendDraft.check_eq_ok hv i⟩
  · rw [hr, exists_firstRepeated_iff, ht]
  · obtain ⟨s, hs⟩ := hnd.1 h
    rcases hcd : d.check with r | c
    · have he : Roster.ofList ds = .error r := (hr r).2 ((hc r).1 hcd)
      rw [hs] at he
      cases he
    · exact ⟨c, s, rfl, hs⟩
  · rintro ⟨-, s, -, hs⟩
    exact hnd.2 ⟨s, hs⟩
  · have hcd : c.descriptors τ = ds := by rw [Config.descriptors, backends_of_check ho hd hb hcc]
    have hsd : s.descriptors = ds := Roster.ofList_eq_ok_iff.1 hs
    refine ⟨hcd, by rw [Config.roster, hcd, hs], hsd, ?_, ?_⟩
    · rw [Roster.names, hsd, hn, ht]
    · rw [Roster.size, hsd, List.length_map, List.length_pmap]

/-- Four backends of which the third and the fourth repeat names. -/
def crowd : List BackendDraft :=
  [{ name := "left", locator := "tool" },
    { name := "right", locator := "tool", options := some {}, flag := "-o" },
    { name := "right", locator := "tool" }, { name := "left", locator := "tool" }]

/-- A draft that says nothing but which backends there are. -/
def ofBackends (bs : List BackendDraft) : Draft := { backends := some bs }

/-- What stands for what a draft does not say keeps all rules. -/
lemma valid_default : Valid {} :=
  have h := Config.wellFormed_stock
  ⟨h.suite, h.sampleSize, h.measurementTime, h.warmUpTime, h.searchPaths, nofun⟩

/-- The name at the third place is reported, though the other one was given before it; the first two
backends make a configuration and a roster. -/
theorem repeats_alike_crowd :
    ∃ hb : ∀ b ∈ crowd, b.Valid,
      (ofBackends crowd).check = .error (.duplicateBackend "right") ∧
      Roster.ofList ((crowd.pmap BackendDraft.entry hb).map (BackendEntry.descriptor Unit)) =
        .error (.duplicateBackend "right") ∧
      ∃ c s, (ofBackends (crowd.take 2)).check = .ok c ∧ c.roster Unit = .ok s ∧
        s.names.map (·.text) = ["left", "right"] ∧ s.size = 2 := by
  have ho (bs : List BackendDraft) : Valid { ofBackends bs with backends := none } := valid_default
  have hb : ∀ b ∈ crowd, b.Valid := by decide
  obtain ⟨-, hc, hr, -, -⟩ := repeats_alike Unit (ho crowd) rfl hb
  obtain ⟨-, -, -, hn, hs⟩ :=
    repeats_alike Unit (ho (crowd.take 2)) rfl fun b h => hb b (List.mem_of_mem_take h)
  have hp : RepeatsAt (crowd.map (·.name)) 2 ∧ ∀ k < 2, ¬RepeatsAt (crowd.map (·.name)) k := by
    decide
  have hl : IsLeast {i | RepeatsAt (crowd.map (·.name)) i} 2 :=
    ⟨hp.1, fun k hk => Nat.not_lt.1 fun h => hp.2 k h hk⟩
  have hd : Roster.ofList ((crowd.pmap BackendDraft.entry hb).map (BackendEntry.descriptor Unit)) =
      .error (.duplicateBackend "right") := (hr _).2 ⟨2, "right", hl, rfl, rfl⟩
  obtain ⟨c, s, hc', hs'⟩ := hn.1 (by decide)
  obtain ⟨-, hcs, -, hsn, hss⟩ := hs c s hc' hs'
  exact ⟨hb, (hc _).2 hd, hd, c, s, hc', hcs, hsn, hss⟩

end Draft

end BenchRoster
