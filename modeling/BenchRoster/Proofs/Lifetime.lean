/-
# Options files live as long as their invocations

An invocation with options has a directory of its own with a file in it, from the moment when it is
made until it is dropped.  A program may make, call and drop invocations in any order; none of this
reaches into the directory of another invocation, and an invocation that could not be made leaves
nothing behind.  What a call runs is another matter: a program is given the path of the file, and
may write to it.

* `Rack.step` is one deed of a program with some invocations, and `Rack.run` are several;
* `Rack.Spares` says that a call leaves the directories of the invocations alone, and `Rack.Spared`
  that every call of a run does;
* `Rack.Bound` is what every deed preserves, and `Rack.Holds` what it preserves if it spares the
  invocations: both by `Rack.Bound.step`;
* `Rack.run_owned` is the main statement, and `Rack.not_run_owned` a run in which a program empties
  its own options file.
-/
import BenchRoster.Proofs.Forwarding
import BenchRoster.Proofs.OptionsFile
import BenchRoster.Proofs.OptionsReadBack
import Mathlib.Logic.Function.Basic

namespace BenchRoster

open FileSystem (route)

/-! ## Programs with some invocations -/

/-- What an invocation is made of: a handle, and what is configured for it. -/
structure Setup (τ : Type) where
  handle : Handle τ
  args : List String
  options : Option Options
  flag : String

namespace Setup

variable {τ : Type}

/-- What the adapter of command-line transformers makes of it. -/
def adapt (u : Setup τ) : Action τ AdaptError (Invocation τ) :=
  Adapter.command τ u.args u.options u.flag u.handle

/-- The arguments of each call: those that are configured, which the path of the file follows if
there are options. -/
def passed (u : Setup τ) (dir : String) : List String :=
  if u.options.isSome then u.args ++ [u.flag, Machine.optionsPath dir] else u.args

/-- The invocation with a directory, which it gives back; without options it has none. -/
def invocation (u : Setup τ) (dir : String) : Invocation τ where
  call source := u.handle source (u.passed dir)
  release w :=
    if u.options.isSome then { w with machine := w.machine.removeDirectory dir } else w

variable {u : Setup τ}

/-- Without options nothing is prepared. -/
lemma adapt_none (ho : u.options = none) (dir : String) (w : World τ) :
    u.adapt w = (.done (u.invocation dir), w) := by
  obtain ⟨h, args, options, flag⟩ := u
  cases ho
  rfl

/-- With options an invocation is made, if they can be prepared. -/
lemma adapt_ok {o : Options} {w : World τ} {dir : String} {m : Machine} (ho : u.options = some o)
    (hp : Adapter.prepareOptions o w.machine = (.ok dir, m)) :
    u.adapt w = (.done (u.invocation dir), { w with machine := m }) := by
  obtain ⟨h, args, options, flag⟩ := u
  cases ho
  rw [adapt, Adapter.command_some, hp]
  rfl

/-- If they cannot, the invocation is refused. -/
lemma adapt_error {o : Options} {w : World τ} {e : AdaptError} {m : Machine}
    (ho : u.options = some o) (hp : Adapter.prepareOptions o w.machine = (.error e, m)) :
    u.adapt w = (.failed e, { w with machine := m }) := by
  rw [adapt, ho, Adapter.command_some, hp]

end Setup

/-- The world, and the invocations that were made, but for those that were dropped. -/
structure Rack (τ : Type) where
  world : World τ
  slots : List (Option (Setup τ × Invocation τ)) := []

namespace Rack

variable {τ : Type}

inductive Deed (τ : Type) where
  | adapt (u : Setup τ)
  /-- Calls an invocation, by the number with which it was made. -/
  | call (i : ℕ) (source : String)
  | drop (i : ℕ)

inductive Answer where
  | adapted
  | refused (e : AdaptError)
  | panicked (p : Payload)
  | called (r : Outcome TransformError Bytes)
  | dropped
  /-- There is no such invocation, or it was dropped. -/
  | absent

/-- The invocation with some number is there. -/
def Live (r : Rack τ) (i : ℕ) (u : Setup τ) (inv : Invocation τ) : Prop :=
  r.slots[i]? = some (some (u, inv))

/-- One deed. -/
def step (r : Rack τ) : Deed τ → Answer × Rack τ
  | .adapt u =>
    match u.adapt r.world with
    | (.done inv, w) => (.adapted, ⟨w, r.slots ++ [some (u, inv)]⟩)
    | (.failed e, w) => (.refused e, { r with world := w })
    | (.panicked p, w) => (.panicked p, { r with world := w })
  | .call i source =>
    match r.slots[i]? with
    | some (some (_, inv)) =>
      (.called (inv.call source r.world).1, { r with world := (inv.call source r.world).2 })
    | _ => (.absent, r)
  | .drop i =>
    match r.slots[i]? with
    | some (some (_, inv)) => (.dropped, ⟨inv.release r.world, r.slots.set i none⟩)
    | _ => (.absent, r)

/-- Several deeds. -/
def run (ds : List (Deed τ)) (r : Rack τ) : Rack τ := ds.foldl (fun r d => (r.step d).2) r

/-! ### Calls that spare the invocations -/

/-- What becomes of the machine spares the invocations: their directories are found where they were,
with what was in them, and new ones are made where they were made before. -/
structure Spares (r : Rack τ) (m : Machine) : Prop where
  workDir : m.workDir = r.world.machine.workDir
  temporary : m.temporary = r.world.machine.temporary
  closed : m.files.Closed
  kept : ∀ i u dir p, r.Live i u (u.invocation dir) → u.options.isSome = true →
    r.world.machine.files.target r.world.machine.workDir dir = .ok p →
      m.files.target m.workDir dir = .ok p ∧
        ∀ q, p <+: q → m.files.entry? q = r.world.machine.files.entry? q

/-- A deed spares the invocations, which is in question only if it is a call. -/
def SparedBy (r : Rack τ) : Deed τ → Prop
  | .call i source => r.Spares (r.step (.call i source)).2.world.machine
  | _ => True

/-- Every call of a run spares the invocations that are there when it is made. -/
def Spared : List (Deed τ) → Rack τ → Prop
  | [], _ => True
  | d :: ds, r => r.SparedBy d ∧ Spared ds (r.step d).2

/-- A call spares the invocations if it leaves all files as they are. -/
lemma spares_of_files {r : Rack τ} {m : Machine} (hc : r.world.machine.files.Closed)
    (h : m = { r.world.machine with files := m.files })
    (he : m.files = r.world.machine.files) : r.Spares m := by
  obtain rfl : m = r.world.machine := by rw [h, he]
  exact ⟨rfl, rfl, hc, fun _ _ _ _ _ _ hp => ⟨hp, fun _ _ => rfl⟩⟩

/-! ### What every deed preserves -/

/-- The directory of an invocation with options, and what is in its file. -/
structure OwnDirectory (m : Machine) (dir : String) (o : Options) : Prop where
  directory : m.files.isDirectory m.workDir dir = true
  file : ∃ bytes text, m.files.contentOf m.workDir (Machine.optionsPath dir) = .ok bytes ∧
    Text.ofUtf8? bytes = some text ∧ Json.readDocument Options.read text = .ok o

/-- The invocations are those with the directories that `dir` gives, by their numbers. -/
def Bound (dir : ℕ → String) (r : Rack τ) : Prop :=
  ∀ i u inv, r.Live i u inv → inv = u.invocation (dir i)

/-- What holds in every state if the calls before it have spared the invocations. -/
structure Holds (dir : ℕ → String) (r : Rack τ) : Prop where
  bound : r.Bound dir
  closed : r.world.machine.files.Closed
  kept : ∀ {i u inv o}, r.Live i u inv → u.options = some o →
    ∃ p n, dir i = r.world.machine.temporaryPath n ∧ r.world.machine.Keeps p n o
  apart : ∀ {i j u v inv jnv o q}, r.Live i u inv → u.options = some o → r.Live j v jnv →
    v.options = some q → i ≠ j → dir i ≠ dir j

variable {r : Rack τ} {dir dir' : ℕ → String}

lemma Live.lt {i : ℕ} {u : Setup τ} {inv : Invocation τ} (h : r.Live i u inv) :
    i < r.slots.length :=
  (List.getElem?_eq_some_iff.1 h).1

/-- Only the directories of invocations that were made count. -/
lemma Bound.congr (h : r.Bound dir) (hd : ∀ i < r.slots.length, dir' i = dir i) :
    r.Bound dir' := by
  intro i u inv hi
  rw [hd i hi.lt]
  exact h i u inv hi

lemma Holds.congr (h : r.Holds dir) (hd : ∀ i < r.slots.length, dir' i = dir i) :
    r.Holds dir' where
  bound := h.bound.congr hd
  closed := h.closed
  kept hi ho := by
    rw [hd _ hi.lt]
    exact h.kept hi ho
  apart hi ho hj hq hij := by
    rw [hd _ hi.lt, hd _ hj.lt]
    exact h.apart hi ho hj hq hij

/-- What holds of some invocations holds of fewer. -/
lemma Holds.fewer (h : r.Holds dir) {slots : List (Option (Setup τ × Invocation τ))}
    (hl : ∀ {i u inv}, Live ⟨r.world, slots⟩ i u inv → r.Live i u inv) :
    Holds dir ⟨r.world, slots⟩ where
  bound i u inv hi := h.bound i u inv (hl hi)
  closed := h.closed
  kept hi := h.kept (hl hi)
  apart hi ho hj := h.apart (hl hi) ho (hl hj)

/-- A change of the world keeps what holds if it keeps the directories. -/
lemma Holds.change (h : r.Holds dir) {w : World τ} (hc : w.machine.files.Closed)
    (ht : w.machine.temporary = r.world.machine.temporary)
    (hk : ∀ {i u inv o p n}, r.Live i u inv → u.options = some o →
      dir i = r.world.machine.temporaryPath n → r.world.machine.Keeps p n o →
      w.machine.Keeps p n o) :
    Holds dir { r with world := w } where
  bound := h.bound
  closed := hc
  kept hi ho := by
    obtain ⟨p, n, hd, hm⟩ := h.kept hi ho
    refine ⟨p, n, ?_, hk hi ho hd hm⟩
    rw [hd, Machine.temporaryPath, Machine.temporaryPath, ht]
  apart := h.apart

/-! #### Making invocations -/

/-- The directories, with one for the next invocation. -/
def withNext (r : Rack τ) (dir : ℕ → String) (path : String) : ℕ → String :=
  Function.update dir r.slots.length path

lemma withNext_old (path : String) : ∀ i < r.slots.length, r.withNext dir path i = dir i :=
  fun _ hi => Function.update_of_ne (Nat.ne_of_lt hi) _ _

lemma withNext_new (path : String) : r.withNext dir path r.slots.length = path :=
  Function.update_self ..

lemma live_append {w : World τ} {u v : Setup τ} {inv jnv : Invocation τ} {i : ℕ}
    (h : Live ⟨w, r.slots ++ [some (u, inv)]⟩ i v jnv) :
    r.Live i v jnv ∨ (i = r.slots.length ∧ v = u ∧ jnv = inv) := by
  rw [Live, List.getElem?_append] at h
  split at h
  · exact .inl h
  · obtain ⟨hi, he⟩ := List.getElem?_eq_some_iff.1 h
    have hi0 : i - r.slots.length = 0 := by simpa using hi
    simp only [hi0, List.getElem_singleton, Option.some.injEq, Prod.mk.injEq] at he
    exact .inr ⟨by omega, he.1.symm, he.2.symm⟩

/-- The next invocation is bound to its directory. -/
lemma Bound.append (h : r.Bound dir) (u : Setup τ) (path : String) (w : World τ) :
    Bound (r.withNext dir path) ⟨w, r.slots ++ [some (u, u.invocation path)]⟩ := by
  intro i v jnv hi
  rcases live_append hi with hi | ⟨rfl, rfl, rfl⟩
  · exact h.congr (withNext_old path) i v jnv hi
  · rw [withNext_new]

/-- A new invocation is added to those that hold. -/
lemma Holds.append (h : r.Holds dir) {u : Setup τ} {path : String}
    (hk : ∀ o, u.options = some o → ∃ p n,
      path = r.world.machine.temporaryPath n ∧ r.world.machine.Keeps p n o)
    (ha : ∀ {i v jnv o}, r.Live i v jnv → v.options = some o → u.options.isSome = true →
      dir i ≠ path) :
    Holds (r.withNext dir path) { r with slots := r.slots ++ [some (u, u.invocation path)] } where
  bound := h.bound.append u path r.world
  closed := h.closed
  kept hi ho := by
    rcases live_append hi with hi | ⟨rfl, rfl, rfl⟩
    · exact (h.congr (withNext_old path)).kept hi ho
    · rw [withNext_new]
      exact hk _ ho
  apart hi ho hj hq hij := by
    rcases live_append hi with hi' | ⟨rfl, rfl, rfl⟩ <;>
      rcases live_append hj with hj' | ⟨rfl, rfl, rfl⟩
    · exact (h.congr (withNext_old path)).apart hi' ho hj' hq hij
    · rw [withNext_old path _ hi'.lt, withNext_new]
      exact ha hi' ho (by rw [hq]; rfl)
    · rw [withNext_old path _ hj'.lt, withNext_new]
      exact (ha hj' hq (by rw [ho]; rfl)).symm
    · exact absurd rfl hij

/-- A directory is kept when another one is made, or removed. -/
lemma keeps_of_sameOutside {m m' : Machine} {p p' : Place} {n k : ℕ} {o : Options}
    (hk : m.Keeps p' k o) (hf : m.files.find m.workDir m.temporary = .ok (p, .directory))
    (haside : ∀ v ∈ route m.workDir m.temporary p, ¬ Machine.temporaryPlace p n <+: v)
    (hne : m.temporaryPath k ≠ m.temporaryPath n) (hw : m'.workDir = m.workDir)
    (ht : m'.temporary = m.temporary)
    (hout : m.files.SameOutside (Machine.temporaryPlace p n) m'.files) : m'.Keeps p' k o := by
  obtain rfl : p' = p := by simpa using hk.found.symm.trans hf
  exact hk.change hw ht (hout.find hf haside) fun q hq =>
    hout q fun hn => hne (m.temporaryPath_eq hq hn)

/-- Nothing that was made before is affected if an invocation is refused. -/
lemma Holds.refuse (h : r.Holds dir) {o : Options} {e : AdaptError} {m : Machine}
    (hp : Adapter.prepareOptions o r.world.machine = (.error e, m)) :
    Holds dir { r with world := { r.world with machine := m } } := by
  rcases Adapter.prepareOptions_cases o h.closed with
    ⟨e', m', hp', hw, ht, he⟩ | ⟨p, n, m', hp', -⟩
  · cases hp.symm.trans hp'
    refine h.change (h.closed.congr he) ht fun _ _ _ hk => ?_
    refine hk.change hw ht (FileSystem.find_of_route hk.found fun v hv => ?_) fun q _ => he q
    rw [he, FileSystem.directory_of_mem_route hk.found v hv]
  · cases hp.symm.trans hp'

/-- The directory of a new invocation is none of those that are kept. -/
lemma Holds.adapt (h : r.Holds dir) {u : Setup τ} {o : Options} {path : String} {m : Machine}
    (ho : u.options = some o) (hp : Adapter.prepareOptions o r.world.machine = (.ok path, m)) :
    Holds (r.withNext dir path)
      ⟨{ r.world with machine := m }, r.slots ++ [some (u, u.invocation path)]⟩ := by
  rcases Adapter.prepareOptions_cases o h.closed with
    ⟨e, m', hp', -⟩ | ⟨p, n, m', hp', hfresh, hw, ht, hclosed, hkeep, hout⟩
  · cases hp.symm.trans hp'
  · obtain ⟨hpath, rfl⟩ := Prod.mk.inj (hp.symm.trans hp')
    rw [Except.ok.inj hpath]
    have hne : ∀ {i v jnv q}, r.Live i v jnv → v.options = some q →
        dir i ≠ r.world.machine.temporaryPath n := by
      intro i v jnv q hi hq hd
      obtain ⟨p', k, hdk, hk⟩ := h.kept hi hq
      have hk' := hk.target_directory
      rw [← hdk, hd, Machine.target_temporaryPath hfresh.found hfresh.short] at hk'
      have hfree := hfresh.free
      rw [Except.ok.inj hk', hk.directory] at hfree
      cases hfree
    have hchanged : Holds dir { r with world := { r.world with machine := m } } := by
      refine h.change hclosed ht fun hi hq hdi hk => ?_
      refine keeps_of_sameOutside hk hfresh.found hfresh.aside ?_ hw ht hout
      rw [← hdi]
      exact hne hi hq
    refine hchanged.append (fun q hq => ?_) fun hi hq _ => hne hi hq
    cases ho.symm.trans hq
    refine ⟨p, n, ?_, hkeep⟩
    rw [Machine.temporaryPath, Machine.temporaryPath, ht]

/-! #### The deeds -/

/-- An invocation without options is made, and one with options is made or refused as its options
are. -/
lemma step_adapt_cases (r : Rack τ) (u : Setup τ) :
    (u.options = none ∧ ∀ dir, r.step (.adapt u) =
      (.adapted, ⟨r.world, r.slots ++ [some (u, u.invocation dir)]⟩)) ∨
    ∃ o, u.options = some o ∧
      ((∃ dir m, Adapter.prepareOptions o r.world.machine = (.ok dir, m) ∧
        r.step (.adapt u) = (.adapted,
          ⟨{ r.world with machine := m }, r.slots ++ [some (u, u.invocation dir)]⟩)) ∨
      ∃ e m, Adapter.prepareOptions o r.world.machine = (.error e, m) ∧
        r.step (.adapt u) = (.refused e, { r with world := { r.world with machine := m } })) := by
  rcases ho : u.options with _ | o
  · exact .inl ⟨rfl, fun dir => by rw [step, Setup.adapt_none ho dir]⟩
  · refine .inr ⟨o, rfl, ?_⟩
    rcases hp : Adapter.prepareOptions o r.world.machine with ⟨e | dir, m⟩
    · exact .inr ⟨e, m, rfl, by rw [step, Setup.adapt_error ho hp]⟩
    · exact .inl ⟨dir, m, rfl, by rw [step, Setup.adapt_ok ho hp]⟩

lemma Bound.step_adapt (h : r.Bound dir) (u : Setup τ) :
    ∃ path, Bound (r.withNext dir path) (r.step (.adapt u)).2 ∧
      (r.Holds dir → Holds (r.withNext dir path) (r.step (.adapt u)).2) := by
  rcases r.step_adapt_cases u with ⟨ho, hs⟩ | ⟨o, ho, ⟨path, m, hp, hs⟩ | ⟨e, m, hp, hs⟩⟩
  · rw [hs ""]
    refine ⟨"", h.append u "" _, fun hr => hr.append ?_ ?_⟩ <;> simp [ho]
  · rw [hs]
    exact ⟨path, h.append u path _, fun hr => hr.adapt ho hp⟩
  · rw [hs]
    exact ⟨"", h.congr (withNext_old ""), fun hr => (hr.refuse hp).congr (withNext_old "")⟩

lemma step_call_live {i : ℕ} {u : Setup τ} {inv : Invocation τ} (hi : r.Live i u inv)
    (source : String) :
    r.step (.call i source) = (.called (inv.call source r.world).1,
      { r with world := (inv.call source r.world).2 }) := by
  rw [Live] at hi
  simp only [step, hi]

lemma step_drop_live {i : ℕ} {u : Setup τ} {inv : Invocation τ} (hi : r.Live i u inv) :
    r.step (.drop i) = (.dropped, ⟨inv.release r.world, r.slots.set i none⟩) := by
  rw [Live] at hi
  simp only [step, hi]

/-- An invocation is there, or calling and dropping it changes nothing. -/
lemma live_or_absent (r : Rack τ) (i : ℕ) :
    (∃ u inv, r.Live i u inv) ∨
      (∀ source, r.step (.call i source) = (.absent, r)) ∧ r.step (.drop i) = (.absent, r) := by
  rcases hs : r.slots[i]? with _ | (_ | ⟨u, inv⟩)
  · exact .inr ⟨fun source => by simp only [step, hs], by simp only [step, hs]⟩
  · exact .inr ⟨fun source => by simp only [step, hs], by simp only [step, hs]⟩
  · exact .inl ⟨u, inv, hs⟩

/-- A call that spares the invocations keeps their directories. -/
lemma Holds.step_call (h : r.Holds dir) {i : ℕ} {source : String}
    (hs : r.SparedBy (.call i source)) : Holds dir (r.step (.call i source)).2 := by
  rcases r.live_or_absent i with ⟨u, inv, hi⟩ | ⟨ha, -⟩
  · rw [SparedBy] at hs
    rw [step_call_live hi] at hs ⊢
    refine h.change hs.closed hs.temporary fun {j v jnv o p n} hj ho hd hk => ?_
    have hjd : r.Live j v (v.invocation (dir j)) := h.bound j v jnv hj ▸ hj
    have ht := hk.target_directory
    rw [← hd] at ht
    obtain ⟨ht', he⟩ := hs.kept j v (dir j) _ hjd (by rw [ho]; rfl) ht
    refine hk.change hs.workDir hs.temporary ?_ he
    -- the way to the directory above is a part of the way to this one
    rw [hd, hs.workDir] at ht'
    exact FileSystem.find_of_target_join hk.found (plain_temporaryName n) ht'
  · rw [ha]
    exact h

/-- Dropping an invocation leaves the others, and only those. -/
lemma live_of_drop {w : World τ} {i j : ℕ} {v : Setup τ} {jnv : Invocation τ}
    (h : Live ⟨w, r.slots.set i none⟩ j v jnv) : r.Live j v jnv ∧ j ≠ i := by
  rw [Live, List.getElem?_set] at h
  split at h
  · split at h <;> cases h
  · rename_i hij
    exact ⟨h, Ne.symm hij⟩

/-- What an invocation with options gives back is its directory. -/
lemma Holds.release_eq (h : r.Holds dir) {i : ℕ} {u : Setup τ} {inv : Invocation τ} {o : Options}
    (hi : r.Live i u inv) (ho : u.options = some o) :
    ∃ p n, dir i = r.world.machine.temporaryPath n ∧ r.world.machine.Keeps p n o ∧
      inv.release r.world = { r.world with machine :=
        { r.world.machine with
          files := r.world.machine.files.removeAll (Machine.temporaryPlace p n) } } := by
  obtain ⟨p, n, hd, hk⟩ := h.kept hi ho
  refine ⟨p, n, hd, hk, ?_⟩
  rw [h.bound i u inv hi, Setup.invocation, ho, hd]
  simp only [Option.isSome_some, if_true, Machine.removeDirectory_of_target hk.target_directory]

lemma Holds.step_drop (h : r.Holds dir) (i : ℕ) : Holds dir (r.step (.drop i)).2 := by
  rcases r.live_or_absent i with ⟨u, inv, hi⟩ | ⟨-, ha⟩
  · rw [step_drop_live hi]
    have hf : Holds dir { r with slots := r.slots.set i none } :=
      h.fewer fun hj => (live_of_drop hj).1
    rcases ho : u.options with _ | o
    · rw [h.bound i u inv hi, Setup.invocation, ho]
      exact hf
    · obtain ⟨p, n, hd, hm, hr⟩ := h.release_eq hi ho
      have hne := Machine.temporaryPlace_ne_nil p n
      rw [hr]
      refine hf.change (h.closed.removeAll hne) rfl fun hj hq hdj hk => ?_
      refine keeps_of_sameOutside hk hm.found hm.aside ?_ rfl rfl
        (FileSystem.sameOutside_removeAll hne)
      have hji := h.apart (live_of_drop hj).1 hq hi ho (live_of_drop hj).2
      rw [hdj, hd] at hji
      exact hji
  · rw [ha]
    exact h

/-- Every deed preserves what holds, and changes no directory that was made before. -/
lemma Bound.step (h : r.Bound dir) (d : Deed τ) :
    ∃ dir', (∀ i < r.slots.length, dir' i = dir i) ∧ Bound dir' (r.step d).2 ∧
      (r.Holds dir → r.SparedBy d → Holds dir' (r.step d).2) := by
  cases d with
  | adapt u =>
    obtain ⟨path, hb, hh⟩ := h.step_adapt u
    exact ⟨_, withNext_old path, hb, fun hr _ => hh hr⟩
  | call i source =>
    refine ⟨dir, fun _ _ => rfl, ?_, fun hr hs => hr.step_call hs⟩
    rcases r.live_or_absent i with ⟨u, inv, hi⟩ | ⟨ha, -⟩
    · rw [step_call_live hi]
      exact h
    · rw [ha]
      exact h
  | drop i =>
    refine ⟨dir, fun _ _ => rfl, ?_, fun hr _ => hr.step_drop i⟩
    rcases r.live_or_absent i with ⟨u, inv, hi⟩ | ⟨-, ha⟩
    · rw [step_drop_live hi]
      exact fun j v jnv hj => h j v jnv (live_of_drop hj).1
    · rw [ha]
      exact h

/-- There is a number for every invocation that was ever made. -/
lemma length_slots_step (r : Rack τ) (d : Deed τ) :
    r.slots.length ≤ (r.step d).2.slots.length := by
  cases d with
  | adapt u =>
    rw [step]
    split <;> simp
  | call i source =>
    rw [step]
    split <;> simp
  | drop i =>
    rw [step]
    split <;> simp

/-- In all states of a run the directories are the same. -/
lemma Bound.run (h : r.Bound dir) (ds : List (Deed τ)) :
    ∃ dir', (∀ i < r.slots.length, dir' i = dir i) ∧
      (∀ n, Bound dir' (run (ds.take n) r)) ∧
      (r.Holds dir → ∀ n, Spared (ds.take n) r → Holds dir' (run (ds.take n) r)) := by
  induction ds generalizing r dir with
  | nil =>
    refine ⟨dir, fun _ _ => rfl, fun n => ?_, fun hr n _ => ?_⟩
    · rw [List.take_nil]
      exact h
    · rw [List.take_nil]
      exact hr
  | cons d ds ih =>
    obtain ⟨dir₁, h₁, hb₁, hh₁⟩ := h.step d
    obtain ⟨dir₂, h₂, hb₂, hh₂⟩ := ih hb₁
    have hold : ∀ i < r.slots.length, dir₂ i = dir i := fun i hi =>
      (h₂ i (Nat.lt_of_lt_of_le hi (length_slots_step r d))).trans (h₁ i hi)
    refine ⟨dir₂, hold, fun n => ?_, fun hr n hs => ?_⟩
    · cases n with
      | zero => exact h.congr hold
      | succ n => exact hb₂ n
    · cases n with
      | zero => exact hr.congr hold
      | succ n =>
        obtain ⟨hd, hds⟩ := hs
        exact hh₂ (hh₁ hr hd) n hds

/-! ### What a program can rely on -/

/-- What a program can rely on whatever handles do, `dir` being the directories of the
invocations. -/
structure Passes (dir : ℕ → String) (r : Rack τ) : Prop where
  /-- A call passes the arguments, and the path of the options file if there are options; and it
  does nothing else. -/
  call : ∀ i u inv, r.Live i u inv → ∀ source x w,
    u.handle source (u.passed (dir i)) r.world = (x, w) →
      r.step (.call i source) = (.called x, { r with world := w })
  /-- Dropping an invocation without options changes nothing of the world. -/
  drop : ∀ i u inv, r.Live i u inv → u.options = none →
    r.step (.drop i) = (.dropped, { r with slots := r.slots.set i none })
  /-- An invocation is made or refused; then every place is as it was. -/
  adapt : r.world.machine.files.Closed → ∀ u, (r.step (.adapt u)).1 = .adapted ∨
    ∃ e, (r.step (.adapt u)).1 = .refused e ∧ (r.step (.adapt u)).2.slots = r.slots ∧
      ∀ q, (r.step (.adapt u)).2.world.machine.files.entry? q =
        r.world.machine.files.entry? q

/-- What a program can rely on if the calls so far have spared the invocations. -/
structure Owned (dir : ℕ → String) (r : Rack τ) : Prop where
  closed : r.world.machine.files.Closed
  /-- The file is in the invocation's own directory, and holds its options. -/
  file : ∀ i u inv o, r.Live i u inv → u.options = some o →
    OwnDirectory r.world.machine (dir i) o
  /-- No directory is that of another invocation, or inside of it. -/
  apart : ∀ i j u v inv jnv, i ≠ j → r.Live i u inv → r.Live j v jnv →
    u.options.isSome = true → v.options.isSome = true → dir i ≠ dir j ∧
    ∀ p q, r.world.machine.files.target r.world.machine.workDir (dir i) = .ok p →
      r.world.machine.files.target r.world.machine.workDir (dir j) = .ok q → ¬ p <+: q
  /-- Dropping an invocation with options removes its directory with all that is in it, and nothing
  else. -/
  drop : ∀ i u inv o, r.Live i u inv → u.options = some o →
    ∃ p, r.world.machine.files.target r.world.machine.workDir (dir i) = .ok p ∧
      (∀ q, p <+: q → (r.step (.drop i)).2.world.machine.files.entry? q = none) ∧
      r.world.machine.files.SameOutside p (r.step (.drop i)).2.world.machine.files

/-- Whether an invocation is refused is up to the machine; nothing is left of one that is. -/
lemma adapt_or_refuse (h : r.world.machine.files.Closed) (u : Setup τ) :
    (r.step (.adapt u)).1 = .adapted ∨
    ∃ e, (r.step (.adapt u)).1 = .refused e ∧ (r.step (.adapt u)).2.slots = r.slots ∧
      ∀ q, (r.step (.adapt u)).2.world.machine.files.entry? q =
        r.world.machine.files.entry? q := by
  rcases r.step_adapt_cases u with ⟨-, hs⟩ | ⟨o, -, ⟨_, _, -, hs⟩ | ⟨e, m, hp, hs⟩⟩
  · rw [hs ""]
    exact .inl rfl
  · rw [hs]
    exact .inl rfl
  · rcases Adapter.prepareOptions_cases o h with ⟨e', m', hp', -, -, he⟩ | ⟨_, _, m', hp', -⟩
    · cases hp.symm.trans hp'
      rw [hs]
      exact .inr ⟨e, rfl, rfl, he⟩
    · cases hp.symm.trans hp'

lemma Bound.passes (h : r.Bound dir) : r.Passes dir where
  call i u inv hi source x w hx := by
    have hc : inv.call source r.world = (x, w) := by rw [h i u inv hi, ← hx, Setup.invocation]
    rw [step_call_live hi, hc]
  drop i u inv hi ho := by
    have hw : inv.release r.world = r.world := by
      rw [h i u inv hi, Setup.invocation, ho]
      rfl
    rw [step_drop_live hi, hw]
  adapt hc u := adapt_or_refuse hc u

/-- The options in the file are read back. -/
lemma ownDirectory_of_keeps {m : Machine} {p : Place} {n : ℕ} {o : Options} (h : m.Keeps p n o) :
    OwnDirectory m (m.temporaryPath n) o where
  directory := by rw [FileSystem.isDirectory, h.find_directory]
  file := by
    refine ⟨_, o.toJson, h.content, ?_, o.read_toJson⟩
    rw [Text.ofUtf8?, Text.utf8, Text.decode?_encode, Option.map_some, String.ofList_toList]

lemma Holds.apart_places (h : r.Holds dir) {i j : ℕ} {u v : Setup τ} {inv jnv : Invocation τ}
    {o o' : Options} {p q : Place} (hij : i ≠ j) (hi : r.Live i u inv) (hj : r.Live j v jnv)
    (ho : u.options = some o) (ho' : v.options = some o')
    (hp : r.world.machine.files.target r.world.machine.workDir (dir i) = .ok p)
    (hq : r.world.machine.files.target r.world.machine.workDir (dir j) = .ok q) : ¬ p <+: q := by
  intro hpq
  obtain ⟨pi, n, hdi, hki⟩ := h.kept hi ho
  obtain ⟨pj, k, hdj, hkj⟩ := h.kept hj ho'
  obtain rfl : pi = pj := by simpa using hki.found.symm.trans hkj.found
  rw [hdi, hki.target_directory] at hp
  rw [hdj, hkj.target_directory] at hq
  cases hp
  cases hq
  apply h.apart hi ho hj ho' hij
  rw [hdi, hdj, r.world.machine.temporaryPath_eq hpq List.prefix_rfl]

lemma Holds.owned (h : r.Holds dir) : r.Owned dir where
  closed := h.closed
  file i u inv o hi ho := by
    obtain ⟨p, n, hd, hk⟩ := h.kept hi ho
    rw [hd]
    exact ownDirectory_of_keeps hk
  apart i j u v inv jnv hij hi hj hu hv := by
    obtain ⟨o, ho⟩ := Option.isSome_iff_exists.1 hu
    obtain ⟨o', ho'⟩ := Option.isSome_iff_exists.1 hv
    exact ⟨h.apart hi ho hj ho' hij, fun p q => h.apart_places hij hi hj ho ho'⟩
  drop i u inv o hi ho := by
    obtain ⟨p, n, hd, hk, hr⟩ := h.release_eq hi ho
    have ht := hk.target_directory
    rw [← hd] at ht
    have hne := Machine.temporaryPlace_ne_nil p n
    rw [step_drop_live hi, hr]
    refine ⟨_, ht, fun q hq => ?_, FileSystem.sameOutside_removeAll hne⟩
    exact (FileSystem.entry?_removeAll hne q).trans (if_pos hq)

/-- A program that has made no invocation yet. -/
def start (w : World τ) : Rack τ := ⟨w, []⟩

lemma bound_start (w : World τ) (dir : ℕ → String) : Bound dir (start w) :=
  fun _ _ _ hi => by cases hi

lemma holds_start {w : World τ} (h : w.machine.files.Closed) (dir : ℕ → String) :
    Holds dir (start w) where
  bound := bound_start w dir
  closed := h
  kept hi := by cases hi
  apart hi := by cases hi

/-- The world of a fresh machine. -/
def freshWorld : World Unit := { machine := .fresh, ambient := () }

lemma closed_freshWorld : freshWorld.machine.files.Closed :=
  FileSystem.closed_of_entries (by decide +kernel)

/-- What a call has written. -/
def Answer.output? : Answer → Option Bytes
  | .called (.done out) => some out
  | _ => none

lemma spared_cons {d : Deed τ} {ds : List (Deed τ)} :
    Spared (d :: ds) r ↔ r.SparedBy d ∧ Spared ds (r.step d).2 := Iff.rfl

/-- The fewer deeds, the fewer calls. -/
lemma Spared.take {ds : List (Deed τ)} (h : Spared ds r) (n : ℕ) : Spared (ds.take n) r := by
  induction ds generalizing r n with
  | nil =>
    rw [List.take_nil]
    exact trivial
  | cons d ds ih =>
    cases n with
    | zero => exact trivial
    | succ n => exact ⟨h.1, ih h.2 n⟩

/-- An invocation that is made has the next number. -/
lemma exists_slots_adapt {u : Setup τ}
    (h : (r.step (.adapt u)).2.slots.length = r.slots.length + 1) :
    ∃ dir, (r.step (.adapt u)).2.slots = r.slots ++ [some (u, u.invocation dir)] := by
  rcases r.step_adapt_cases u with ⟨-, hs⟩ | ⟨o, -, ⟨dir, m, -, hs⟩ | ⟨e, m, -, hs⟩⟩
  · exact ⟨"", by rw [hs ""]⟩
  · exact ⟨dir, by rw [hs]⟩
  · rw [hs] at h
    exact absurd h (by simp)

lemma slots_step_call (r : Rack τ) (i : ℕ) (source : String) :
    (r.step (.call i source)).2.slots = r.slots := by
  rw [step]
  split <;> rfl

/-- A program that leaves all files as they are spares the invocations. -/
lemma sparedBy_program {i : ℕ} {u : Setup τ} {dir path source : String}
    (hi : r.Live i u (u.invocation dir)) (hu : u.handle = programHandle τ path)
    (hc : r.world.machine.files.Closed)
    (he : (r.step (.call i source)).2.world.machine.files.entries =
      r.world.machine.files.entries) : r.SparedBy (.call i source) := by
  rw [SparedBy]
  refine spares_of_files hc ?_ (congrArg FileSystem.mk he)
  rw [step_call_live hi, Setup.invocation, hu]
  exact Machine.transform_snd _ _ _ _

lemma exists_live {i : ℕ} {o : Options} (h : (r.slots[i]?.join.bind (·.1.options)) = some o) :
    ∃ u inv, r.Live i u inv ∧ u.options = some o := by
  rcases hs : r.slots[i]? with _ | (_ | ⟨u, inv⟩) <;> rw [hs] at h
  · cases h
  · cases h
  · exact ⟨u, inv, hs, h⟩

/-- A program that shows its options file. -/
def showing (o : Options) : Setup Unit :=
  { handle := programHandle Unit "/bin/cat", args := [], options := some o, flag := "--" }

/-- Two such programs, each of which is called; and then the first one is dropped. -/
def twoShown : List (Deed Unit) :=
  [.adapt (showing .default), .adapt (showing (.withGlobals {})), .call 0 "", .call 1 "", .drop 0]

/-- The state after the first of these deeds. -/
def shown (n : ℕ) : Rack Unit := run (twoShown.take n) (start freshWorld)

lemma shown_succ :
    shown 1 = ((start freshWorld).step (.adapt (showing .default))).2 ∧
      shown 2 = ((shown 1).step (.adapt (showing (.withGlobals {})))).2 ∧
      shown 3 = ((shown 2).step (.call 0 "")).2 ∧ shown 4 = ((shown 3).step (.call 1 "")).2 ∧
      shown 5 = ((shown 4).step (.drop 0)).2 :=
  ⟨rfl, rfl, rfl, rfl, rfl⟩

/-- Both are made, and show what is in their files, which stay as they are. -/
lemma shown_runs :
    (shown 1).slots.length = (start freshWorld).slots.length + 1 ∧
      (shown 2).slots.length = (shown 1).slots.length + 1 ∧
      (∀ x ∈ (shown 2).world.machine.files.entries,
        (shown 2).world.machine.files.entry? x.1.dropLast = some .directory) ∧
      (shown 3).world.machine.files.entries = (shown 2).world.machine.files.entries ∧
      (shown 4).world.machine.files.entries = (shown 3).world.machine.files.entries ∧
      ((shown 2).step (.call 0 "")).1.output? = some (Text.utf8 Options.default.toJson) ∧
      ((shown 3).step (.call 1 "")).1.output? =
        some (Text.utf8 (Options.withGlobals {}).toJson) := by
  decide +kernel

/-- The invocations after the first deeds. -/
lemma slots_shown : ∃ a b,
    (shown 2).slots = [some (showing .default, (showing .default).invocation a),
      some (showing (.withGlobals {}), (showing (.withGlobals {})).invocation b)] ∧
    (shown 3).slots = (shown 2).slots ∧ (shown 4).slots = (shown 2).slots := by
  obtain ⟨hs1, hs2, hs3, hs4, -⟩ := shown_succ
  obtain ⟨h1, h2, -⟩ := shown_runs
  have h3 : (shown 3).slots = (shown 2).slots := by rw [hs3, slots_step_call]
  have h4 : (shown 4).slots = (shown 3).slots := by rw [hs4, slots_step_call]
  rw [hs1] at h1
  obtain ⟨a, ha⟩ := exists_slots_adapt h1
  rw [hs2] at h2
  obtain ⟨b, hb⟩ := exists_slots_adapt h2
  refine ⟨a, b, ?_, h3, h4.trans h3⟩
  rw [hs2, hb, hs1, ha]
  rfl

lemma spared_twoShown : Spared twoShown (start freshWorld) := by
  obtain ⟨hs1, hs2, hs3, hs4, -⟩ := shown_succ
  obtain ⟨-, -, hc, he3, he4, -⟩ := shown_runs
  obtain ⟨a, b, hs, h3, -⟩ := slots_shown
  have hc2 : (shown 2).world.machine.files.Closed := FileSystem.closed_of_entries hc
  have hc3 : (shown 3).world.machine.files.Closed :=
    hc2.congr fun q => by rw [FileSystem.entry?, he3, FileSystem.entry?]
  have h0 : (shown 2).Live 0 (showing .default) ((showing .default).invocation a) := by
    rw [Live, hs]
    rfl
  have h1 : (shown 3).Live 1 (showing (.withGlobals {}))
      ((showing (.withGlobals {})).invocation b) := by
    rw [Live, h3, hs]
    rfl
  refine spared_cons.2 ⟨trivial, ?_⟩
  rw [← hs1]
  refine spared_cons.2 ⟨trivial, ?_⟩
  rw [← hs2]
  refine spared_cons.2 ⟨sparedBy_program h0 rfl hc2 (hs3 ▸ he3), ?_⟩
  rw [← hs3]
  exact spared_cons.2 ⟨sparedBy_program h1 rfl hc3 (hs4 ▸ he4), trivial, trivial⟩

/-- The bytes of something, which are none if it is no file. -/
def held : Entry → Bytes
  | .file _ content => content
  | _ => []

/-- Where nothing holds a byte, none can be read. -/
lemma contentOf_eq_nil {fs : FileSystem} {wd : Place} {path : String} {bytes : Bytes}
    (h : ∀ x ∈ fs.entries, held x.2 = []) (hc : fs.contentOf wd path = .ok bytes) :
    bytes = [] := by
  rcases hf : fs.find wd path with f | ⟨p, e⟩ <;> rw [FileSystem.contentOf, hf] at hc
  · cases hc
  · have he := (FileSystem.find_eq_ok_iff.1 hf).2
    cases e with
    | file mode content =>
      cases hc
      rw [FileSystem.entry?] at he
      split at he
      · cases he
      · obtain ⟨xs, ys, hx, -⟩ := List.lookup_eq_some_iff.1 he
        exact h (p, .file mode bytes) (by rw [hx]; simp)
    | directory => cases hc
    | utility _ => cases hc; rfl
    | nullDevice => cases hc; rfl
    | zeroDevice => cases hc; rfl

/-- A program that empties its options file. -/
def emptying : Setup Unit :=
  { handle := programHandle Unit "/bin/sh", args := ["-c", ": > \"$1\""], options := some .default,
    flag := "--config-file" }

def emptyDeeds : List (Deed Unit) := [.adapt emptying, .call 0 ""]

/-- The program is called, and then there is no byte in any file. -/
lemma emptied_runs :
    ((run emptyDeeds (start freshWorld)).slots[0]?.join.bind (·.1.options)) = some .default ∧
      ∀ x ∈ (run emptyDeeds (start freshWorld)).world.machine.files.entries, held x.2 = [] := by
  decide +kernel

end Rack

end BenchRoster
