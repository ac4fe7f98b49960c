/-
# Which listener hears a panic

A program may install listeners for panics at any time, and while a backend is loading its panics
are meant to be kept from them.  The first load puts the muting listener in front of the one that it
finds, once and for all.  A listener that the program installs afterwards takes its place, and hears
the panics in loads as well.

* `Cue` is what can happen to an alarm, and `hearings` what is heard if a rule says who hears each
  panic;
* `prescribed` is the rule that loads are quiet, and `effective` the one that alarms follow;
* `Application` is code that installs listeners, panics, catches panics and loads backends whose
  resolvers and adapters are such code again, and it notes the cues that it gives;
* `Application.heard_action` says that the panics are heard by the effective rule, and when this
  comes to the prescribed one.
-/
import BenchRoster.Proofs.Nesting
import Mathlib.Data.List.Induction
import Mathlib.Data.List.TakeWhile

namespace BenchRoster

/-! ## Cues -/

/-- What can happen to an alarm. -/
inductive Cue where
  | installed (id : Nat)
  | raised (p : Payload)
  | began
  | ended
deriving DecidableEq, Repr

namespace Cue

/-- The listener that is installed, if one is. -/
def listener? : Cue → Option Nat
  | installed id => some id
  | _ => none

/-- How many loads are under way, if so many were before. -/
def depth (n : Nat) : Cue → Nat
  | began => n + 1
  | ended => n - 1
  | _ => n

/-- What is heard of the cue, if the panic that it may be reaches the listener. -/
def hearing (listener : Option Nat) : Cue → List (Nat × Payload)
  | raised p => (listener.map (·, p)).toList
  | _ => []

end Cue

/-- How many loads are under way after the cues. -/
def depth (cs : List Cue) : Nat := cs.foldl Cue.depth 0

/-- The listener that was installed last. -/
def latest (cs : List Cue) : Option Nat := (cs.filterMap Cue.listener?).getLast?

/-- The cues from the beginning of the first load on. -/
def sinceFirstLoad (cs : List Cue) : List Cue := cs.dropWhile (· ≠ .began)

/-- Loads are quiet: a panic is heard by the listener that was installed last, but by none while
something is loading. -/
def prescribed (before : List Cue) : Option Nat :=
  if depth before = 0 then latest before else none

/-- Loads are quiet for the listeners that were installed before the first of them began. -/
def effective (before : List Cue) : Option Nat :=
  if depth before = 0 then latest before else latest (sinceFirstLoad before)

/-- What is heard of cues that come after others, if the rule says from all the cues before a panic
which listener hears it. -/
def hearingsAfter (rule : List Cue → Option Nat) (before : List Cue) :
    List Cue → List (Nat × Payload)
  | [] => []
  | c :: cs => c.hearing (rule before) ++ hearingsAfter rule (before ++ [c]) cs

def hearings (rule : List Cue → Option Nat) (cs : List Cue) : List (Nat × Payload) :=
  hearingsAfter rule [] cs

/-- No panic is raised in a load after a listener was installed since the first load began. -/
def Hushed (cs : List Cue) : Prop :=
  ∀ before p after, cs = before ++ .raised p :: after →
    depth before = 0 ∨ latest (sinceFirstLoad before) = none

section Append

variable (cs : List Cue) (c : Cue)

@[simp] lemma depth_concat : depth (cs ++ [c]) = c.depth (depth cs) := by
  simp [depth]

lemma latest_concat : latest (cs ++ [c]) = c.listener?.or (latest cs) := by
  cases c <;> simp [latest, Cue.listener?]

/-- Once a load has begun, all that follows comes after it. -/
lemma sinceFirstLoad_concat (h : .began ∈ cs) :
    sinceFirstLoad (cs ++ [c]) = sinceFirstLoad cs ++ [c] := by
  have hs : (cs.dropWhile (· ≠ .began)).isEmpty = false := by
    rw [List.isEmpty_eq_false_iff, ne_eq, List.dropWhile_eq_nil_iff]
    intro hn
    simpa using hn _ h
  rw [sinceFirstLoad, List.dropWhile_append, hs]
  rfl

/-- The load that begins is the first one, unless another one has begun. -/
lemma sinceFirstLoad_concat_began (h : .began ∉ cs) :
    sinceFirstLoad (cs ++ [.began]) = [.began] := by
  have hs : cs.dropWhile (· ≠ .began) = [] := by
    rw [List.dropWhile_eq_nil_iff]
    intro c hc
    simpa using fun he : c = .began => h (he ▸ hc)
  rw [sinceFirstLoad, List.dropWhile_append, hs]
  rfl

lemma hearings_concat (rule : List Cue → Option Nat) :
    hearings rule (cs ++ [c]) = hearings rule cs ++ c.hearing (rule cs) := by
  have ha : ∀ before, hearingsAfter rule before (cs ++ [c]) =
      hearingsAfter rule before cs ++ c.hearing (rule (before ++ cs)) := by
    induction cs with
    | nil => intro before; simp [hearingsAfter]
    | cons b cs ih => intro before; simp [hearingsAfter, ih]
  exact ha []

end Append

/-- Nothing is loading before a load has begun. -/
lemma mem_began_of_depth {cs : List Cue} (h : depth cs ≠ 0) : .began ∈ cs := by
  induction cs using List.reverseRecOn with
  | nil => exact absurd rfl h
  | append_singleton cs c ih =>
    rw [depth_concat] at h
    cases c with
    | began => simp
    | installed id => exact List.mem_append_left _ (ih h)
    | raised p => exact List.mem_append_left _ (ih h)
    | ended => exact List.mem_append_left _ (ih fun h0 => h (by rw [h0]; rfl))

/-! ## Rules that agree -/

/-- What a rule that names fewer listeners lets be heard is not more. -/
lemma length_hearingsAfter_le {rule other : List Cue → Option Nat}
    (hr : ∀ cs, other cs = none ∨ other cs = rule cs) (before cs : List Cue) :
    (hearingsAfter other before cs).length ≤ (hearingsAfter rule before cs).length := by
  induction cs generalizing before with
  | nil => exact Nat.le_refl _
  | cons c cs ih =>
    have hs := ih (before ++ [c])
    rcases hr before with h | h <;> cases c <;>
      simp only [hearingsAfter, h, Cue.hearing, List.length_append, Option.map_none,
        Option.toList_none, List.length_nil] <;> omega

/-- The panics in a list are the first cue, if it is one, and those after it. -/
lemma forall_raised_cons {P : List Cue → Prop} (c : Cue) (cs : List Cue) :
    (∀ ds p es, c :: cs = ds ++ .raised p :: es → P ds) ↔
      (∀ p, c = .raised p → P []) ∧ ∀ ds p es, cs = ds ++ .raised p :: es → P (c :: ds) := by
  constructor
  · intro h
    exact ⟨fun p hc => h [] p cs (by rw [hc]; rfl),
      fun ds p es hcs => h (c :: ds) p es (by rw [hcs]; rfl)⟩
  · rintro ⟨h, k⟩ ds p es he
    cases ds with
    | nil => exact h p (List.cons.inj he).1
    | cons d ds =>
      obtain ⟨rfl, hcs⟩ : c = d ∧ cs = ds ++ .raised p :: es := by simpa using he
      exact k ds p es hcs

/-- A rule that names fewer listeners lets the same be heard exactly if it names as many at each
panic. -/
lemma hearingsAfter_eq_iff {rule other : List Cue → Option Nat}
    (hr : ∀ cs, other cs = none ∨ other cs = rule cs) (before cs : List Cue) :
    hearingsAfter rule before cs = hearingsAfter other before cs ↔
      ∀ ds p es, cs = ds ++ .raised p :: es → other (before ++ ds) = rule (before ++ ds) := by
  induction cs generalizing before with
  | nil => simp [hearingsAfter]
  | cons c cs ih =>
    rw [forall_raised_cons (P := fun ds => other (before ++ ds) = rule (before ++ ds))]
    have ih := ih (before ++ [c])
    simp only [List.append_assoc, List.cons_append, List.nil_append] at ih
    simp only [hearingsAfter, List.append_nil, ← ih]
    have hlen := length_hearingsAfter_le hr (before ++ [c]) cs
    cases c with
    | raised p =>
      by_cases he : other before = rule before
      · simp [he]
      · -- one rule lets this panic be heard, and the other one cannot make up for it later
        have ho := (hr before).resolve_right he
        obtain ⟨id, hid⟩ := Option.ne_none_iff_exists'.1 fun hn => he (ho.trans hn.symm)
        simp only [Cue.hearing, ho, hid, Option.map_some, Option.map_none, Option.toList_some,
          Option.toList_none, List.nil_append]
        refine iff_of_false (fun h => ?_) fun h => by simpa using h.1 p rfl
        have := congrArg List.length h
        simp only [List.length_append, List.length_singleton] at this
        omega
    | installed id => simp [Cue.hearing]
    | began => simp [Cue.hearing]
    | ended => simp [Cue.hearing]

/-- The rule that loads are quiet lets the same be heard as the effective one exactly for
hushed loads. -/
lemma hearings_effective_eq_iff {cs : List Cue} :
    hearings effective cs = hearings prescribed cs ↔ Hushed cs := by
  have hr (ds : List Cue) : prescribed ds = none ∨ prescribed ds = effective ds := by
    rw [prescribed, effective]
    split
    · exact .inr rfl
    · exact .inl rfl
  rw [hearings, hearings, hearingsAfter_eq_iff hr, Hushed]
  refine forall₃_congr fun ds p es => imp_congr_right fun _ => ?_
  rw [List.nil_append, prescribed, effective]
  by_cases hd : depth ds = 0
  · simp [hd]
  · simp [hd, eq_comm]

/-! ## Alarms -/

namespace Alarm

/-- The cues have made the alarm what it is. -/
structure Follows (a : Alarm) (cs : List Cue) : Prop where
  loading : a.loading = decide (depth cs ≠ 0)
  muted : a.muted = decide (.began ∈ cs)
  /-- Where nothing is loading, the listener that was installed last hears. -/
  outside : a.listener.hears? false = latest cs
  inside : .began ∈ cs → a.listener.hears? true = latest (sinceFirstLoad cs)
  heard : a.heard = hearings effective cs

namespace Follows

variable {a : Alarm} {cs : List Cue}

lemma nil : Follows {} [] :=
  ⟨rfl, rfl, rfl, fun h => absurd h List.not_mem_nil, rfl⟩

/-- The listener of the effective rule is the one that the alarm has. -/
lemma hears_eq (h : a.Follows cs) : a.listener.hears? a.loading = effective cs := by
  rw [effective, h.loading]
  by_cases hd : depth cs = 0
  · simpa [hd] using h.outside
  · simpa [hd] using h.inside (mem_began_of_depth hd)

lemma install (h : a.Follows cs) (id : Nat) : (a.install id).Follows (cs ++ [.installed id]) where
  loading := by simpa [Alarm.install, Cue.depth] using h.loading
  muted := by simpa [Alarm.install] using h.muted
  outside := by rw [latest_concat]; rfl
  inside := by
    intro hb
    have hb : .began ∈ cs := by simpa using hb
    rw [sinceFirstLoad_concat _ _ hb, latest_concat]
    rfl
  heard := by simpa [Alarm.install, hearings_concat, Cue.hearing] using h.heard

lemma sound (h : a.Follows cs) (p : Payload) : (a.sound p).Follows (cs ++ [.raised p]) := by
  have hs : a.sound p =
      { a with heard := a.heard ++ Cue.hearing (effective cs) (.raised p) } := by
    rw [Alarm.sound, h.hears_eq]
    cases effective cs <;> simp [Cue.hearing]
  rw [hs]
  exact {
    loading := by simpa [Cue.depth] using h.loading
    muted := by simpa using h.muted
    outside := by simpa [latest_concat, Cue.listener?] using h.outside
    inside := by
      intro hb
      have hb : .began ∈ cs := by simpa using hb
      rw [sinceFirstLoad_concat _ _ hb, latest_concat]
      exact h.inside hb
    heard := by rw [hearings_concat, h.heard] }

/-- The first load brings the muting listener; the others leave the listener that is there. -/
lemma beginLoading (h : a.Follows cs) : a.beginLoading.Follows (cs ++ [.began]) := by
  have hm := h.muted
  by_cases hb : .began ∈ cs
  · have hs : a.beginLoading = { a with loading := true } := by
      simp [Alarm.beginLoading, mute, hm, hb]
    rw [hs]
    exact {
      loading := by simp [Cue.depth]
      muted := by simpa [hb] using hm
      outside := by simpa [latest_concat, Cue.listener?] using h.outside
      inside := fun _ => by
        rw [sinceFirstLoad_concat _ _ hb, latest_concat]
        exact h.inside hb
      heard := by simpa [hearings_concat, Cue.hearing] using h.heard }
  · have hs : a.beginLoading =
        { a with listener := .muting a.listener, muted := true, loading := true } := by
      simp [Alarm.beginLoading, mute, hm, hb]
    rw [hs]
    exact {
      loading := by simp [Cue.depth]
      muted := by simp
      outside := by simpa [latest_concat, Cue.listener?, Listener.hears?] using h.outside
      inside := fun _ => by rw [sinceFirstLoad_concat_began _ hb]; rfl
      heard := by simpa [hearings_concat, Cue.hearing] using h.heard }

/-- The load that ends is the innermost one; so many are under way afterwards as before it. -/
lemma endLoading {n : Nat} (h : a.Follows cs) (hn : depth cs = n + 1) :
    (a.endLoading (decide (n ≠ 0))).Follows (cs ++ [.ended]) where
  loading := by simp [Alarm.endLoading, Cue.depth, hn]
  muted := by simpa [Alarm.endLoading] using h.muted
  outside := by simpa [Alarm.endLoading, latest_concat, Cue.listener?] using h.outside
  inside := fun _ => by
    have hb : .began ∈ cs := mem_began_of_depth (by omega)
    rw [sinceFirstLoad_concat _ _ hb, latest_concat]
    exact h.inside hb
  heard := by simpa [Alarm.endLoading, hearings_concat, Cue.hearing] using h.heard

end Follows

end Alarm

/-! ## Applications -/

/-- What an application keeps, and the cues that it has given. -/
structure Diary (τ : Type) where
  cues : List Cue := []
  rest : τ

namespace World

variable {τ : Type}

/-- The world in which an application starts. -/
def start (m : Machine) (r : τ) : World (Diary τ) := { machine := m, ambient := { rest := r } }

def cues (w : World (Diary τ)) : List Cue := w.ambient.cues

/-- Goes on with the diary. -/
def cue (w : World (Diary τ)) (c : Cue) : World (Diary τ) :=
  { w with ambient := { w.ambient with cues := w.ambient.cues ++ [c] } }

@[simp] lemma cues_cue (w : World (Diary τ)) (c : Cue) : (w.cue c).cues = w.cues ++ [c] := rfl

@[simp] lemma cues_beginLoading (w : World (Diary τ)) : w.beginLoading.cues = w.cues := rfl

@[simp] lemma cues_endLoading (v w : World (Diary τ)) : (v.endLoading w).cues = v.cues := rfl

/-- The alarm is as the diary tells. -/
def Told (w : World (Diary τ)) : Prop := w.alarm.Follows w.cues

end World

/-- Loads a backend, and notes that the load begins and ends. -/
def Loader.loadCued {τ : Type} (l : Loader (Diary τ)) (d : Descriptor (Diary τ))
    (w : World (Diary τ)) : Except LoadFailure (LoadedBackend (Diary τ)) × World (Diary τ) :=
  let x := l.load d (w.cue .began)
  (x.1, x.2.cue .ended)

/-- Code that installs listeners, panics, catches panics and loads backends.  The resolvers and the
adapters of these loads are such code again. -/
inductive Application (τ : Type) : Type → Type → Type 1 where
  /-- Ends with a value or an error. -/
  | finish {ε α : Type} (r : Except ε α) : Application τ ε α
  | panic {ε α : Type} (p : Payload) : Application τ ε α
  | install {ε α : Type} (id : Nat) (next : Application τ ε α) : Application τ ε α
  /-- Does anything that the alarm has no part in, and goes on. -/
  | step {β ε α : Type} (f : Machine × τ → β × Machine × τ) (next : β → Application τ ε α) :
      Application τ ε α
  /-- Catches the panic that other code may end with, and goes on. -/
  | guarded {δ β ε α : Type} (t : Application τ δ β) (next : Outcome δ β → Application τ ε α) :
      Application τ ε α
  /-- Loads a backend, and goes on with the answer. -/
  | load {ε α : Type} (workload : Workload) (backend : BackendName) (locator : Locator)
      (resolver : Locator → Application τ ResolveError (Handle (Diary τ)))
      (adapter : Handle (Diary τ) → Application τ AdaptError (Invocation (Diary τ)))
      (next : Except LoadFailure (LoadedBackend (Diary τ)) → Application τ ε α) :
      Application τ ε α

namespace Application

variable {τ : Type}

/-- What the application does in a world. -/
def action {ε α : Type} : Application τ ε α → Action (Diary τ) ε α
  | finish r => .ofExcept r
  | panic p => fun w => (.panicked p, { w with alarm := w.alarm.sound p }.cue (.raised p))
  | install id next => fun w =>
    next.action ({ w with alarm := w.alarm.install id }.cue (.installed id))
  | step f next => fun w =>
    let x := f (w.machine, w.ambient.rest)
    (next x.1).action
      { w with machine := x.2.1, ambient := { w.ambient with rest := x.2.2 } }
  | guarded t next => fun w => (next (t.action w).1).action (t.action w).2
  | load workload backend locator resolver adapter next => fun w =>
    let l : Loader (Diary τ) := { resolver := fun l => (resolver l).action, workload }
    let x := l.loadCued ⟨backend, locator, fun h => (adapter h).action⟩ w
    (next x.1).action x.2

end Application

/-! ## What applications tell -/

/-- After the action the diary tells of the alarm, if it did so before, and as many loads are under
way. -/
def Action.Tells {τ ε α : Type} (x : Action (Diary τ) ε α) : Prop :=
  ∀ w, w.Told → (x w).2.Told ∧ depth (x w).2.cues = depth w.cues

section Tells

variable {τ ε δ α β : Type}

lemma Action.Tells.mapError {x : Action (Diary τ) ε α} (hx : x.Tells) (f : ε → δ) :
    (x.mapError f).Tells := hx

lemma Action.Tells.bind {x : Action (Diary τ) ε α} {f : α → Action (Diary τ) ε β}
    (hx : x.Tells) (hf : ∀ a, (f a).Tells) : (x.bind f).Tells := by
  intro w hw
  obtain ⟨hv, hd⟩ := hx w hw
  rcases h : x w with ⟨a | e | p, v⟩ <;> rw [h] at hv hd
  · rw [Action.bind_done h, ← hd]
    exact hf a v hv
  · rw [Action.bind_failed h]
    exact ⟨hv, hd⟩
  · rw [Action.bind_panicked h]
    exact ⟨hv, hd⟩

/-- A load whose resolver and adapter tell is told as one that begins and ends. -/
lemma Loader.tells_loadCued {l : Loader (Diary τ)} {d : Descriptor (Diary τ)}
    (hr : (l.resolver d.locator).Tells) (ha : ∀ h, (d.adapter h).Tells) {w : World (Diary τ)}
    (hw : w.Told) :
    (l.loadCued d w).2.Told ∧ depth (l.loadCued d w).2.cues = depth w.cues := by
  have hattempt : (l.attempt d).Tells :=
    (hr.mapError LoadError.resolve).bind fun h => (ha h).mapError LoadError.adapt
  have hbegun : (w.cue .began).beginLoading.Told := Alarm.Follows.beginLoading hw
  obtain ⟨hv, hd⟩ := hattempt _ hbegun
  rw [World.cues_beginLoading, World.cues_cue, depth_concat] at hd
  have hload : (l.loadCued d w).2 =
      ((l.attempt d (w.cue .began).beginLoading).2.endLoading w).cue .ended := by
    rw [loadCued]
    dsimp only
    rw [snd_load]
    rfl
  rw [hload]
  constructor
  · have hended := hv.endLoading hd
    rw [← Alarm.Follows.loading hw] at hended
    exact hended
  · rw [World.cues_cue, World.cues_endLoading, depth_concat, hd]
    rfl

/-- Applications tell what they do to the alarm. -/
lemma Application.tells_action (t : Application τ ε α) : t.action.Tells := by
  induction t with
  | finish r => exact fun w hw => ⟨hw, rfl⟩
  | panic p => exact fun w hw => ⟨Alarm.Follows.sound hw p, depth_concat _ _⟩
  | install id next ih =>
    intro w hw
    obtain ⟨hv, hd⟩ := ih (World.cue { w with alarm := w.alarm.install id } (.installed id))
      (Alarm.Follows.install hw id)
    exact ⟨hv, hd.trans (depth_concat _ _)⟩
  | step f next ih => exact fun w hw => ih _ _ hw
  | guarded t next iht ih =>
    intro w hw
    obtain ⟨hv, hd⟩ := iht w hw
    obtain ⟨hu, he⟩ := ih (t.action w).1 _ hv
    exact ⟨hu, he.trans hd⟩
  | load workload n k resolver adapter next ihr iha ih =>
    intro w hw
    obtain ⟨hv, hd⟩ := Loader.tells_loadCued
      (l := { resolver := fun l => (resolver l).action, workload })
      (d := ⟨n, k, fun h => (adapter h).action⟩) (ihr k) iha hw
    obtain ⟨hu, he⟩ := ih _ _ hv
    exact ⟨hu, he.trans hd⟩

end Tells

/-- **Loads are quiet for the listeners that were there before the first of them.**  Whatever
listeners an application installs, whatever it loads, to any depth, and wherever it panics: each
panic is heard once by the listener of the effective rule, if there is one, and by no other, and all
loads have ended.  A panic outside of loads is thus heard by the listener that was installed last,
and a panic in a load by the one that was installed last since the first load began.  So loads are
quiet, as prescribed, exactly for the applications that do not panic in a load once they have
installed a listener since the first load began. -/
theorem Application.heard_action {τ ε α : Type} (t : Application τ ε α) (m : Machine) (r : τ) :
    let w := (t.action (.start m r)).2
    w.alarm.heard = hearings effective w.cues ∧
      (w.alarm.heard = hearings prescribed w.cues ↔ Hushed w.cues) ∧
      depth w.cues = 0 := by
  dsimp only
  obtain ⟨hw, hd⟩ := t.tells_action (.start m r) Alarm.Follows.nil
  refine ⟨hw.heard, ?_, hd⟩
  rw [hw.heard, hearings_effective_eq_iff]

namespace LateListener

def backend : BackendName := ⟨"panicky", by decide +kernel⟩
def place : Locator := NestedLoads.place

/-- Loads a backend whose adapter panics, with a listener that was there before the first load and
with one that was not. -/
def application : Application Unit Unit Unit :=
  .install 1 <| exploding <| .install 2 <| exploding <| .finish (.ok ())
where
  exploding (next : Application Unit Unit Unit) : Application Unit Unit Unit :=
    .load Workload.fixed backend place (fun _ => .finish (.ok fun _ _ => .pure []))
      (fun _ => .panic (.fixed "adapter exploded")) fun _ => next

example :
    (application.action (.start .fresh ())).2.cues =
      [.installed 1, .began, .raised (.fixed "adapter exploded"), .ended,
        .installed 2, .began, .raised (.fixed "adapter exploded"), .ended] := rfl

end LateListener

/-- Loads are not quiet for a listener that comes late. -/
theorem Application.not_heard_prescribed :
    ¬ ∀ (t : Application Unit Unit Unit) (m : Machine),
      (t.action (.start m ())).2.alarm.heard =
        hearings prescribed (t.action (.start m ())).2.cues := by
  intro h
  have hl : (LateListener.application.action (.start .fresh ())).2.alarm.heard =
      [(2, .fixed "adapter exploded")] := rfl
  have hq := h LateListener.application .fresh
  rw [hl] at hq
  exact absurd hq (by decide)

end BenchRoster
