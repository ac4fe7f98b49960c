/-
# Steady resolvers and adapters

A resolver may answer by the locator alone, and an adapter end by the handle alone, as long as the
worlds in which they act have something in common: a *view* of the machine and of what the program
keeps, through which neither of them can tell the worlds apart.

* `Resolver.Steady` and `Adapter.Steady` say so, the former of one locator; tables, look-ups of
  programs and chains of steady resolvers are steady, and so are adapters that write no options, and
  those that always or never can write them;
* `Loader.load_alike` compares two loads of one descriptor in worlds of one view: both succeed, or
  both fail with one diagnostic, but for the name of a temporary directory.
-/
import BenchRoster.Proofs.Forwarding
import BenchRoster.Resolver.Lookup

namespace BenchRoster

/-! ## Texts that are the same but for a temporary path -/

/-- Two texts are the same, or differ in the name of one temporary directory. -/
def SameButTemporary (s t : String) : Prop :=
  s = t ∨ ∃ (before after : String) (i k : ℕ),
    s = before ++ Machine.temporaryName i ++ after ∧
      t = before ++ Machine.temporaryName k ++ after

lemma SameButTemporary.append_left {s t : String} (h : SameButTemporary s t) (u : String) :
    SameButTemporary (u ++ s) (u ++ t) := by
  rcases h with rfl | ⟨before, after, i, k, rfl, rfl⟩
  · exact Or.inl rfl
  · exact Or.inr ⟨u ++ before, after, i, k, by simp only [String.append_assoc],
      by simp only [String.append_assoc]⟩

lemma SameButTemporary.append_right {s t : String} (h : SameButTemporary s t) (u : String) :
    SameButTemporary (s ++ u) (t ++ u) := by
  rcases h with rfl | ⟨before, after, i, k, rfl, rfl⟩
  · exact Or.inl rfl
  · exact Or.inr ⟨before, after ++ u, i, k, by simp only [String.append_assoc],
      by simp only [String.append_assoc]⟩

lemma isAbsolute_temporaryName (n : ℕ) : Path.isAbsolute (Machine.temporaryName n) = false := by
  simp [Path.isAbsolute, Machine.temporaryName, String.toList_append]

/-- The paths of two temporary directories in one directory differ in their last names. -/
lemma sameButTemporary_join (dir : String) (i k : ℕ) :
    SameButTemporary (Path.join dir (Machine.temporaryName i))
      (Path.join dir (Machine.temporaryName k)) := by
  have h : SameButTemporary (Machine.temporaryName i) (Machine.temporaryName k) :=
    Or.inr ⟨"", "", i, k, by simp, by simp⟩
  simp only [Path.join, isAbsolute_temporaryName, Bool.false_eq_true, if_false]
  split
  · exact h.append_left _
  · exact h.append_left _

/-- A fault names its path between other words. -/
lemma SameButTemporary.atPath {p q : String} (h : SameButTemporary p q) (f : IoFault) :
    SameButTemporary (IoFault.atPath f p).message (IoFault.atPath f q).message := by
  have hp : ∀ x, (IoFault.atPath f x).message = s!"{f.message} at path \"" ++ x ++ "\"" :=
    fun _ => rfl
  rw [hp, hp]
  exact (h.append_left _).append_right _

/-- An adapter's error has the text of the fault at its end. -/
lemma SameButTemporary.io {s t : String} (h : SameButTemporary s t) (context : String) :
    SameButTemporary (AdaptError.io context s).message (AdaptError.io context t).message := by
  have hs : ∀ x, (AdaptError.io context x).message = s!"IO error: {context} - " ++ x :=
    fun _ => rfl
  rw [hs, hs]
  exact h.append_left _

/-- The diagnostic of a failure is the one of its cause behind its name and locator. -/
lemma LoadFailure.sameButTemporary {f g : LoadFailure} (hb : f.backend = g.backend)
    (hl : f.locator = g.locator) (he : SameButTemporary f.error.message g.error.message) :
    SameButTemporary f.message g.message := by
  have hf : f.message = s!"Cannot load {f.locator.text} for backend '{f.backend.text}': " ++
      f.error.message := rfl
  have hg : g.message = s!"Cannot load {g.locator.text} for backend '{g.backend.text}': " ++
      g.error.message := rfl
  rw [hf, hg, hb, hl]
  exact he.append_left _

/-! ## Views -/

/-- What is known of a machine and of what the program keeps. -/
abbrev View (τ : Type) := Machine → τ → Prop

/-- The world is as the view says. -/
def World.In {τ : Type} (w : World τ) (P : View τ) : Prop := P w.machine w.ambient

/-- In the worlds of a view a resolver has one answer to a locator, and it stays in the view. -/
structure Resolver.Steady {τ : Type} (P : View τ) (r : Resolver τ) (l : Locator) : Prop where
  keeps : ∀ w, w.In P → (r l w).2.In P
  answers : ∀ w v, w.In P → v.In P → (r l w).1 = (r l v).1

/-- Two runs of an adapter end alike: with an invocation, with an error of the same text but for a
temporary path, or with panics of the same text. -/
inductive Outcome.Alike {α : Type} : Outcome AdaptError α → Outcome AdaptError α → Prop
  | done (a b : α) : Alike (.done a) (.done b)
  | failed {e f : AdaptError} (h : SameButTemporary e.message f.message) :
      Alike (.failed e) (.failed f)
  | panicked {p q : Payload} (h : p.message = q.message) : Alike (.panicked p) (.panicked q)

/-- In the worlds of a view an adapter ends by the handle alone. -/
def Adapter.Steady {τ : Type} (P : View τ) (a : Adapter τ) : Prop :=
  ∀ h w v, w.In P → v.In P → (a h w).1.Alike (a h v).1

section Steady

variable {τ : Type} {P : View τ}

/-- In two worlds of a view a steady resolver gives one answer, and leaves worlds of the view. -/
lemma Resolver.Steady.both {r : Resolver τ} {l : Locator} (h : Steady P r l) {w v : World τ}
    (hw : w.In P) (hv : v.In P) :
    ∃ x w' v', r l w = (x, w') ∧ r l v = (x, v') ∧ World.In w' P ∧ World.In v' P :=
  ⟨(r l w).1, (r l w).2, (r l v).2, rfl, Prod.ext (h.answers w v hw hv).symm rfl,
    h.keeps w hw, h.keeps v hv⟩

/-- An adapter that passes fixed arguments is steady. -/
lemma Adapter.steady_forward (args : List String) : Steady P (forward τ args) :=
  fun _ _ _ _ _ => .done _ _

/-- An adapter that always panics with one text is steady. -/
lemma Adapter.steady_panic (p : Payload) : Steady P (fun _ => .panic p) :=
  fun _ _ _ _ _ => .panicked rfl

/-- Without a directory for temporary files no options are written, and nothing is changed. -/
lemma Adapter.command_eq_failed {w : World τ} {f : IoFault}
    (h : w.machine.files.find w.machine.workDir w.machine.temporary = .error f)
    (args : List String) (o : Options) (flag : String) (a : Handle τ) :
    command τ args (some o) flag a w =
      (.failed (.io "creating options directory"
        (IoFault.atPath f (w.machine.temporaryPath w.machine.nextTemporary)).message), w) := by
  have hp : prepareOptions o w.machine =
      (.error (.io "creating options directory"
        (IoFault.atPath f (w.machine.temporaryPath w.machine.nextTemporary)).message),
        w.machine) := by
    simp [prepareOptions, Machine.makeTemporary, h]
  rw [command_some, hp]

/-- Where there is no such directory, an adapter that writes options is steady: its error names the
path of the directory that could not be made, and so the number of that directory. -/
lemma Adapter.steady_command {dir : String} {f : IoFault}
    (h : ∀ m t, P m t → m.temporary = dir ∧ m.files.find m.workDir dir = .error f)
    (args : List String) (o : Options) (flag : String) :
    Steady P (command τ args (some o) flag) := by
  intro a w v hw hv
  obtain ⟨hwd, hwf⟩ := h _ _ hw
  obtain ⟨hvd, hvf⟩ := h _ _ hv
  rw [← hwd] at hwf
  rw [← hvd] at hvf
  rw [command_eq_failed hwf, command_eq_failed hvf]
  refine .failed ?_
  rw [Machine.temporaryPath, Machine.temporaryPath, hwd, hvd]
  exact ((sameButTemporary_join dir _ _).atPath f).io _

/-- Where options can always be written, an adapter that writes them is steady. -/
lemma Adapter.steady_command_of_ok {o : Options}
    (h : ∀ m t, P m t → (prepareOptions o m).1.isOk = true) (args : List String) (flag : String) :
    Steady P (command τ args (some o) flag) := by
  have hdone : ∀ (a : Handle τ) (w : World τ), w.In P →
      ∃ i v, command τ args (some o) flag a w = (.done i, v) := by
    intro a w hw
    have hok := h _ _ hw
    rcases hp : prepareOptions o w.machine with ⟨e | dir, m⟩
    · rw [hp] at hok
      cases hok
    · exact ⟨_, _, by rw [command_some, hp]⟩
  intro a w v hw hv
  obtain ⟨i, w', hi⟩ := hdone a w hw
  obtain ⟨k, v', hk⟩ := hdone a v hv
  rw [hi, hk]
  exact .done i k

/-- A table of handles is steady. -/
lemma HandleTable.steady_resolver (t : HandleTable τ) (l : Locator) :
    Resolver.Steady P t.resolver l := by
  constructor
  · intro w hw
    rcases h : t.find? l.text with _ | a
    · simpa [resolver, h] using hw
    · simpa [resolver, h] using hw
  · intro w v _ _
    rcases h : t.find? l.text with _ | a
    · simp [resolver, h]
    · simp [resolver, h]

/-- Looking up a program changes nothing, and answers by what the look-up finds. -/
lemma programResolver_apply (paths : List String) (l : Locator) (w : World τ) :
    programResolver τ paths l w =
      (.ofExcept ((Lookup.program w.machine paths l).map (programHandle τ)), w) := by
  rcases h : Lookup.program w.machine paths l with e | path
  · simp [programResolver, Action.bind, Action.onMachine, h, Outcome.ofExcept, Except.map]
  · simp [programResolver, Action.bind, Action.onMachine, h, Outcome.ofExcept, Except.map]

/-- The look-up of programs is steady as long as the machines lead the locator to the same
program. -/
lemma steady_programResolver {paths : List String} {l : Locator}
    (h : ∀ w v : World τ, w.In P → v.In P →
      Lookup.program w.machine paths l = Lookup.program v.machine paths l) :
    Resolver.Steady P (programResolver τ paths) l := by
  constructor
  · intro w hw
    rw [programResolver_apply]
    exact hw
  · intro w v hw hv
    rw [programResolver_apply, programResolver_apply, h w v hw hv]

/-- One member of a chain after the other, the worlds stay in the view and the answers the same. -/
lemma chainFrom_steady {rs : List (Resolver τ)} {l : Locator}
    (h : ∀ r ∈ rs, Resolver.Steady P r l) (last : ResolveError) {w v : World τ} (hw : w.In P)
    (hv : v.In P) :
    (Resolver.chainFrom last l rs w).2.In P ∧
      (Resolver.chainFrom last l rs w).1 = (Resolver.chainFrom last l rs v).1 := by
  induction rs generalizing last w v with
  | nil => exact ⟨hw, rfl⟩
  | cons r rs ih =>
    obtain ⟨hr, hrs⟩ := List.forall_mem_cons.1 h
    obtain ⟨x, w', v', hx, hy, hkw, hkv⟩ := hr.both hw hv
    cases x with
    | done a =>
      rw [Resolver.chainFrom_cons_done hx, Resolver.chainFrom_cons_done hy]
      exact ⟨hkw, rfl⟩
    | failed e =>
      rw [Resolver.chainFrom_cons_failed hx, Resolver.chainFrom_cons_failed hy]
      exact ih hrs e hkw hkv
    | panicked p =>
      rw [Resolver.chainFrom_cons_panicked hx, Resolver.chainFrom_cons_panicked hy]
      exact ⟨hkw, rfl⟩

/-- A chain of steady resolvers is steady. -/
lemma steady_chain {rs : List (Resolver τ)} {l : Locator}
    (h : ∀ r ∈ rs, Resolver.Steady P r l) : Resolver.Steady P (Resolver.chain rs) l where
  keeps _ hw := (chainFrom_steady h (.notFound l) hw hw).1
  answers _ _ hw hv := (chainFrom_steady h (.notFound l) hw hv).2

end Steady

/-! ## Two loads of one descriptor -/

/-- Two results are alike: a value in both, or errors of the same text but for a temporary path. -/
inductive AlikeResults {ε α : Type} (text : ε → String) : Except ε α → Except ε α → Prop
  | ok (a b : α) : AlikeResults text (.ok a) (.ok b)
  | error {e f : ε} (h : SameButTemporary (text e) (text f)) :
      AlikeResults text (.error e) (.error f)

/-- Adapters that end alike have causes of the same text. -/
lemma Outcome.Alike.cause {α : Type} {x y : Outcome AdaptError α} (h : x.Alike y) :
    AlikeResults LoadError.message (Loader.cause (x.mapError .adapt))
      (Loader.cause (y.mapError .adapt)) := by
  cases h with
  | done a b =>
    rw [Outcome.mapError, Outcome.mapError, Loader.cause, Loader.cause]
    exact .ok a b
  | @failed e f h =>
    rw [Outcome.mapError, Outcome.mapError, Loader.cause, Loader.cause]
    have he : (LoadError.adapt e).message = e.message := rfl
    have hf : (LoadError.adapt f).message = f.message := rfl
    exact .error (by rw [he, hf]; exact h)
  | @panicked p q h =>
    rw [Outcome.mapError, Outcome.mapError, Loader.cause, Loader.cause, h]
    exact .error (Or.inl rfl)

namespace Loader

variable {τ : Type} {P : View τ} {l : Loader τ} {d : Descriptor τ}

/-- Attempts on one descriptor in two worlds of a view have causes of the same text. -/
lemma attempt_alike (hl : Resolver.Steady P l.resolver d.locator) (hd : Adapter.Steady P d.adapter)
    {w v : World τ} (hw : w.In P) (hv : v.In P) :
    AlikeResults LoadError.message (cause (l.attempt d w).1) (cause (l.attempt d v).1) := by
  obtain ⟨x, w', v', hx, hy, hkw, hkv⟩ := hl.both hw hv
  cases x with
  | done a =>
    rw [attempt_done hx, attempt_done hy]
    exact (hd a w' v' hkw hkv).cause
  | failed e =>
    rw [attempt_failed hx, attempt_failed hy]
    exact .error (Or.inl rfl)
  | panicked p =>
    rw [attempt_panicked hx, attempt_panicked hy]
    exact .error (Or.inl rfl)

/-- Loads of one descriptor in two worlds of a view are alike. -/
lemma load_alike (hl : Resolver.Steady P l.resolver d.locator) (hd : Adapter.Steady P d.adapter)
    {w v : World τ} (hw : w.In P) (hv : v.In P) :
    AlikeResults LoadFailure.message (l.load d w).1 (l.load d v).1 := by
  have ha := attempt_alike hl hd (w := { w with alarm := w.alarm.beginLoading })
    (v := { v with alarm := v.alarm.beginLoading }) hw hv
  rcases hx : cause (l.attempt d { w with alarm := w.alarm.beginLoading }).1 with e | i <;>
    rcases hy : cause (l.attempt d { v with alarm := v.alarm.beginLoading }).1 with f | j <;>
    rw [hx, hy] at ha <;> cases ha
  case error.error.error h =>
    rw [fst_load_error hx, fst_load_error hy]
    exact .error (LoadFailure.sameButTemporary rfl rfl h)
  case ok.ok.ok =>
    rw [fst_load_ok hx, fst_load_ok hy]
    exact .ok _ _

end Loader

end BenchRoster
