/-
# Definitions that are refused

A definition is a name for a suite with the descriptors of its backends.  It is checked as a whole
before the sweep begins, so it is either refused, and then nothing at all has happened, or it is
registered as any suite is that was made beforehand.  Which refusal it is depends on the names
alone: first the name of the suite counts, and then the first backend whose name has occurred
before.

* `Refused` says which definitions are refused, and why;
* `Suite.ofList_eq_error_iff` and `exists_refused_iff` compare it with the checks;
* `registerSuite_all_or_nothing` is the main statement.
-/
import BenchRoster.Proofs.Session
import BenchRoster.Proofs.WellFormed

namespace BenchRoster

/-! ## Refusals -/

/-- The refusal of a definition by the name of its suite and the names of its backends. -/
inductive Refused (name : String) (names : List BackendName) : Rejection → Prop
  /-- The name of the suite breaks a rule, whatever the backends are called. -/
  | badName {f : NameFault} (h : nameFault? name = some f) :
      Refused name names (.suiteName name f)
  /-- The name of the suite is fine, and this is the first backend whose name has occurred before:
  the ones before it differ. -/
  | repeated {before after : List BackendName} {n : BackendName} (hn : IsName name)
      (he : names = before ++ n :: after) (hm : n ∈ before) (hb : before.Nodup) :
      Refused name names (.duplicateBackend n.text)

lemma nameFault?_eq_none_iff_isName {s : String} : nameFault? s = none ↔ IsName s := by
  refine ⟨isName_of_valid, fun ⟨hn, hs, hc⟩ => nameFault?_eq_none_iff.2 ⟨hn, hs, fun c hm => ?_⟩⟩
  simpa [isNameChar, or_assoc] using hc c hm

lemma exists_nameFault_iff {s : String} : (∃ f, nameFault? s = some f) ↔ ¬IsName s := by
  rw [← nameFault?_eq_none_iff_isName, ← Option.ne_none_iff_exists']

/-- A list with a repeated name has a first one. -/
lemma exists_repeated_iff {names : List BackendName} :
    (∃ before after n, names = before ++ n :: after ∧ n ∈ before ∧ before.Nodup) ↔
      ¬names.Nodup := by
  rcases h : firstRepeated? [] names with _ | n
  · have hn : names.Nodup := (firstRepeated?_eq_none_iff.1 h).1
    refine iff_of_false ?_ (not_not.2 hn)
    rintro ⟨before, after, n, rfl, hm, -⟩
    exact List.disjoint_of_nodup_append hn hm List.mem_cons_self
  · obtain ⟨before, after, he, hm, hb, -⟩ := firstRepeated?_eq_some_iff.1 h
    have hm : n ∈ before := hm.resolve_left List.not_mem_nil
    refine iff_of_true ⟨before, after, n, he, hm, hb⟩ fun hn => ?_
    rw [he] at hn
    exact List.disjoint_of_nodup_append hn hm List.mem_cons_self

/-- A definition is refused exactly when a name breaks a rule or two backends share one. -/
lemma exists_refused_iff {name : String} {names : List BackendName} :
    (∃ r, Refused name names r) ↔ ¬IsName name ∨ ¬names.Nodup := by
  constructor
  · rintro ⟨_, ⟨h⟩ | ⟨-, he, hm, hb⟩⟩
    · exact .inl (exists_nameFault_iff.1 ⟨_, h⟩)
    · exact .inr (exists_repeated_iff.1 ⟨_, _, _, he, hm, hb⟩)
  · intro h
    by_cases hn : IsName name
    · obtain ⟨before, after, n, he, hm, hb⟩ := exists_repeated_iff.2 (h.resolve_left (not_not.2 hn))
      exact ⟨_, .repeated hn he hm hb⟩
    · obtain ⟨f, hf⟩ := exists_nameFault_iff.2 hn
      exact ⟨_, .badName hf⟩

/-! ## The checks -/

section Checks

variable {τ : Type}

/-- A roster is refused because of the first name that has occurred before. -/
lemma Roster.ofList_eq_error_iff_append {ds : List (Descriptor τ)} {r : Rejection} :
    ofList ds = .error r ↔ ∃ before after n, ds.map (·.name) = before ++ n :: after ∧
      n ∈ before ∧ before.Nodup ∧ r = .duplicateBackend n.text := by
  rw [ofList_eq_error_iff]
  constructor
  · rintro ⟨n, h, rfl⟩
    obtain ⟨before, after, he, hm, hb, -⟩ := firstRepeated?_eq_some_iff.1 h
    exact ⟨before, after, n, he, hm.resolve_left List.not_mem_nil, hb, rfl⟩
  · rintro ⟨before, after, n, he, hm, hb, rfl⟩
    exact ⟨n, firstRepeated?_eq_some_iff.2 ⟨before, after, he, .inr hm, hb, by simp⟩, rfl⟩

/-- Making a suite fails exactly with the refusal of its definition. -/
lemma Suite.ofList_eq_error_iff {name : String} {ds : List (Descriptor τ)} {r : Rejection} :
    ofList name ds = .error r ↔ Refused name (ds.map (·.name)) r := by
  rcases hn : SuiteName.ofString name with e | n
  · -- the name of the suite is checked first, so the backends do not matter
    obtain ⟨f, hf, rfl⟩ := SuiteName.ofString_eq_error_iff.1 hn
    have ho : ofList name ds = .error (.suiteName name f) := by
      rw [ofList, hn]
      rfl
    rw [ho, Except.error.injEq]
    constructor
    · rintro rfl
      exact .badName hf
    · rintro (⟨hg⟩ | ⟨hi, -, -, -⟩)
      · rw [hf] at hg
        cases hg
        rfl
      · exact absurd hi (exists_nameFault_iff.1 ⟨f, hf⟩)
  · have hv : nameFault? name = none := SuiteName.ofString_eq_ok_iff.1 hn ▸ n.valid
    have ho : ofList name ds = .error r ↔ Roster.ofList ds = .error r := by
      rw [ofList, hn]
      cases Roster.ofList ds <;> simp [bind, Except.bind]
    rw [ho, Roster.ofList_eq_error_iff_append]
    constructor
    · rintro ⟨before, after, m, he, hm, hb, rfl⟩
      exact .repeated (nameFault?_eq_none_iff_isName.1 hv) he hm hb
    · rintro (⟨hf⟩ | ⟨-, he, hm, hb⟩)
      · rw [hv] at hf
        cases hf
      · exact ⟨_, _, _, he, hm, hb, rfl⟩

/-- A definition that is not refused makes a suite. -/
lemma Suite.exists_ofList_eq_ok {name : String} {ds : List (Descriptor τ)} (hn : IsName name)
    (hd : (ds.map (·.name)).Nodup) : ∃ s, ofList name ds = .ok s := by
  rcases h : ofList name ds with r | s
  · have hr := exists_refused_iff.1 ⟨r, ofList_eq_error_iff.1 h⟩
    exact absurd hr (not_or.2 ⟨not_not.2 hn, not_not.2 hd⟩)
  · exact ⟨s, rfl⟩

end Checks

/-! ## Registering a definition -/

section Registering

variable {τ : Type}

/-- The registration of a definition is refused exactly when its suite cannot be made; no loader,
registrar, sink or world has a part in that. -/
lemma registerSuite_eq_error_iff {ρ σ δ : Type} {rg : Registrar τ ρ σ} {name : String}
    {ds : List (Descriptor τ)} {l : Loader τ} {report : Sink τ δ} {kept : ρ} {sink : δ}
    {w : World τ} {r : Rejection} :
    registerSuite rg name ds l report kept sink w = .error r ↔
      Refused name (ds.map (·.name)) r := by
  rw [← Suite.ofList_eq_error_iff, registerSuite]
  cases Suite.ofList name ds <;> simp [Except.map]

/-- A suite that can be made is registered. -/
lemma registerSuite_of_ofList {ρ σ δ : Type} {name : String} {ds : List (Descriptor τ)}
    {s : Suite τ} (h : Suite.ofList name ds = .ok s) (rg : Registrar τ ρ σ) (l : Loader τ)
    (report : Sink τ δ) (kept : ρ) (sink : δ) (w : World τ) :
    registerSuite rg name ds l report kept sink w = .ok (s.register rg l report kept sink w) := by
  rw [registerSuite, h, Except.map]

namespace Session

/-- A refused definition leaves a session as it is. -/
lemma step_registerSuite_of_refused {name : String} {ds : List (Descriptor τ)} {r : Rejection}
    (h : Refused name (ds.map (·.name)) r) (loader : HandleTable τ → Loader τ) (t : Session τ) :
    t.step loader (.registerSuite name ds) = (.rejected r, t) := by
  rw [step, registerSuite_eq_error_iff.2 h]

/-- Any other definition is registered as its suite is. -/
lemma step_registerSuite_of_ofList {name : String} {ds : List (Descriptor τ)} {s : Suite τ}
    (h : Suite.ofList name ds = .ok s) (loader : HandleTable τ → Loader τ) (t : Session τ) :
    t.step loader (.registerSuite name ds) = t.step loader (.register s) := by
  simp only [step, registerSuite_of_ofList h]

end Session

/-- **A definition is registered as a whole or not at all.**  It is refused exactly when the name of
the suite is not valid or two backends share a name, with the fault of the suite's name if there is
one, and otherwise with the first backend whose name has occurred before.  A refusal depends on
nothing but the names, and it leaves a session as it is: the recorder, the lines of the sink, and
the world, in which no resolver and no adapter has acted.  What is not refused makes a suite of that
name and these backends, and registering the definition is registering that suite. -/
theorem registerSuite_all_or_nothing (name : String) (ds : List (Descriptor τ)) :
    ((∃ r, Refused name (ds.map (·.name)) r) ↔ ¬IsName name ∨ ¬(ds.map (·.name)).Nodup) ∧
    (∀ (ρ σ δ : Type) (rg : Registrar τ ρ σ) (l : Loader τ) (report : Sink τ δ) (kept : ρ)
      (sink : δ) (w : World τ) (r : Rejection),
      registerSuite rg name ds l report kept sink w = .error r ↔
        Refused name (ds.map (·.name)) r) ∧
    (∀ r, Refused name (ds.map (·.name)) r →
      ∀ (loader : HandleTable τ → Loader τ) (t : Session τ),
        t.step loader (.registerSuite name ds) = (.rejected r, t)) ∧
    (IsName name → (ds.map (·.name)).Nodup →
      ∃ s, Suite.ofList name ds = .ok s ∧ s.name.text = name ∧ s.roster.descriptors = ds ∧
        (∀ (ρ σ δ : Type) (rg : Registrar τ ρ σ) (l : Loader τ) (report : Sink τ δ) (kept : ρ)
          (sink : δ) (w : World τ),
          registerSuite rg name ds l report kept sink w =
            .ok (s.register rg l report kept sink w)) ∧
        ∀ (loader : HandleTable τ → Loader τ) (t : Session τ),
          t.step loader (.registerSuite name ds) = t.step loader (.register s)) := by
  refine ⟨exists_refused_iff, fun _ _ _ _ _ _ _ _ _ _ => registerSuite_eq_error_iff,
    fun r hr => Session.step_registerSuite_of_refused hr, fun hn hd => ?_⟩
  obtain ⟨s, hs⟩ := Suite.exists_ofList_eq_ok hn hd
  obtain ⟨hsn, hsd⟩ := Suite.ofList_eq_ok_iff.1 hs
  exact ⟨s, hs, hsn, hsd, fun _ _ _ => registerSuite_of_ofList hs,
    Session.step_registerSuite_of_ofList hs⟩

end Registering

/-- Four backends of which the third and the fourth repeat names. -/
def repeatingDescriptors : List (Descriptor Unit) :=
  [⟨"left", by decide⟩, ⟨"right", by decide⟩, ⟨"right", by decide⟩, ⟨"left", by decide⟩].map
    fun n => { name := n, locator := ⟨"shared", by decide⟩, adapter := Adapter.forward Unit [] }

/-- A session that has a line in its sink. -/
def begunSession : Session Unit :=
  { lines := ["begun"], world := { machine := Machine.fresh, ambient := () } }

/-- Under a bad name the name of the suite is at fault, under a good one the third backend, and
without the repetitions nothing is. -/
theorem registerSuite_repeatingDescriptors :
    let loader (t : HandleTable Unit) : Loader Unit := { resolver := t.resolver }
    begunSession.step loader (.registerSuite "two words" repeatingDescriptors) =
        (.rejected (.suiteName "two words" .badCharacter), begunSession) ∧
      begunSession.step loader (.registerSuite "words" repeatingDescriptors) =
        (.rejected (.duplicateBackend "right"), begunSession) ∧
      ∃ s, Suite.ofList "words" (repeatingDescriptors.take 2) = .ok s ∧
        begunSession.step loader (.registerSuite "words" (repeatingDescriptors.take 2)) =
          begunSession.step loader (.register s) := by
  intro loader
  have hw : IsName "words" := isName_of_valid (by decide)
  refine ⟨?_, ?_, ?_⟩
  · exact (registerSuite_all_or_nothing "two words" repeatingDescriptors).2.2.1 _
      (.badName (by decide)) loader begunSession
  · exact (registerSuite_all_or_nothing "words" repeatingDescriptors).2.2.1 _
      (@Refused.repeated _ _ [⟨"left", by decide⟩, ⟨"right", by decide⟩] [⟨"left", by decide⟩] _ hw
        rfl (by decide) (by decide)) loader begunSession
  · obtain ⟨s, hs, -, -, -, hr⟩ :=
      (registerSuite_all_or_nothing "words" (repeatingDescriptors.take 2)).2.2.2 hw (by decide)
    exact ⟨s, hs, hr loader begunSession⟩

end BenchRoster
