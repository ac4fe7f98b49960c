/-
# Conversations come to one result

A program, the party that feeds it and the one that collects what it writes act in any order, over
pipes that may hold no more than a byte.  Who is faster decides whether the input is taken to its
end or the pipe breaks on the way; it does not decide what is returned, nor whether anything is.

* `Feeding.report?` is what the feeding party reports, and `Conversation.returned?` the answer that
  is made of it and of what was collected;
* `Conversation.outcome` is what the program will have done in the end, as far as a state tells, if
  it needs no more than so many moves;
* `Conversation.Effect` says once what a step can do: it is a move of the program, or one of the
  feeding party, or one of the collecting party, and leaves the outcome as it is;
* `Conversation.left` bounds the steps that the two parties still have before them;
* `Conversation.exists_step` says that nobody waits for ever before the return;
* `Conversation.returns_alike` is the main statement.
-/
import BenchRoster.Pipes
import Mathlib.Data.List.Chain
import Mathlib.Logic.Basic
import Mathlib.Tactic.Lemma

namespace BenchRoster

variable {σ : Type}

/-! ## What is returned -/

/-- Why the input was not written to its end. -/
inductive FeedFault where
  /-- Nobody was left to read it. -/
  | brokenPipe
  | other (fault : IoFault)
deriving DecidableEq, Repr

/-- What the feeding party reports, once it is done. -/
def Feeding.report? : Feeding → Option (Except FeedFault Unit)
  | .writing _ => none
  | .finished => some (.ok ())
  | .broken => some (.error .brokenPipe)

/-- The bytes of the input that are still to be written. -/
def Feeding.rest : Feeding → Bytes
  | .writing rest => rest
  | _ => []

/-- The steps of the feeding party that are left: one for each byte, and one for being done. -/
def Feeding.effort : Feeding → ℕ
  | .writing rest => rest.length + 1
  | _ => 0

/-- The answer about a program that has ended, with the report of the feeding party.  A program that
did not end well is reported as such, whatever became of its input; and one that ended well need not
have read all of it. -/
def Finished.answer (r : Finished) (program : String) (fed : Except FeedFault Unit) :
    Except TransformError Bytes :=
  if r.status.isSuccess then
    match fed with
    | .error (.other f) => .error (.io program f)
    | .error .brokenPipe => .ok r.output
    | .ok () => .ok r.output
  else .error (.failed program r.status (complaintTail r.errors))

namespace Conversation

/-- The answer that is returned when the program has ended, all that it wrote has been collected,
and the feeding party has made its report. -/
def returned? (s : Conversation σ) (program : String) : Option (Except TransformError Bytes) :=
  match s.phase, s.feeding.report? with
  | .ended status, some fed =>
    if s.pipes.output = [] ∧ s.pipes.errors = [] then
      some (Finished.answer ⟨status, s.collected.output, s.collected.errors⟩ program fed)
    else none
  | _, _ => none

end Conversation

/-- The only fault that the feeding party reports does not count. -/
lemma Finished.answer_of_report {f : Feeding} {fed : Except FeedFault Unit}
    (h : f.report? = some fed) (r : Finished) (program : String) :
    r.answer program fed = r.result program := by
  cases f with
  | writing rest => cases h
  | finished =>
    cases h
    rfl
  | broken =>
    cases h
    rfl

lemma Feeding.rest_of_not_isOpen {f : Feeding} (h : f.isOpen = false) : f.rest = [] := by
  cases f with
  | writing rest => cases h
  | finished => rfl
  | broken => rfl

namespace Conversation

variable {p : Program σ} {c : Capacities} {s t : Conversation σ}

/-- What is returned does not depend on the report of the feeding party, as long as there is one. -/
lemma returned?_eq_result? (s : Conversation σ) (program : String) :
    s.returned? program = s.result? program := by
  rw [returned?, result?, finished?]
  rcases s.phase with q | status
  · rfl
  · rcases hf : s.feeding with rest | _ | _
    · simp [Feeding.report?, Feeding.isOpen]
    · simp only [Feeding.report?, Feeding.isOpen, true_and]
      split <;> rfl
    · simp only [Feeding.report?, Feeding.isOpen, true_and]
      split <;> rfl

/-! ## What the program will have done -/

/-- The bytes that the program can still come to read. -/
def remaining (s : Conversation σ) : Bytes :=
  if s.listening then s.inputPipe ++ s.feeding.rest else []

/-- Nothing is left to read where the program finds that its input has no more bytes. -/
lemma remaining_eq_nil
    (h : s.listening = false ∨ (s.inputPipe = [] ∧ s.feeding.isOpen = false)) :
    s.remaining = [] := by
  rcases h with hl | ⟨hi, hf⟩
  · simp [remaining, hl]
  · rw [remaining, hi, Feeding.rest_of_not_isOpen hf]
    simp

/-- What the program will do from now on, if nothing holds it up and it ends within that many
moves. -/
def future (p : Program σ) (s : Conversation σ) (n : ℕ) : Option Finished :=
  match s.phase with
  | .running q => p.run n q s.held s.remaining
  | .ended status => some ⟨status, [], []⟩

/-- What was collected, what is in the pipes, and then what is done from now on. -/
def total (s : Conversation σ) (r : Finished) : Finished where
  status := r.status
  output := s.collected.output ++ s.pipes.output ++ r.output
  errors := s.collected.errors ++ s.pipes.errors ++ r.errors

/-- What the program will have done in the end, if it ends within that many moves from now on. -/
def outcome (p : Program σ) (s : Conversation σ) (n : ℕ) : Option Finished :=
  (s.future p n).map s.total

/-- At the start that is all that the program does with the source. -/
lemma outcome_start (p : Program σ) (source : Bytes) (n : ℕ) :
    (start p source).outcome p n = p.run n p.start ⟨true, true⟩ source :=
  Option.map_id'

/-- A program that has a move before it has not done everything without it. -/
lemma outcome_zero {m : Move σ} (hm : s.move? p = some m) : s.outcome p 0 = none := by
  rcases hp : s.phase with q | status
  · rw [outcome, future, hp]
    rfl
  · rw [move?, hp] at hm
    cases hm

/-- What the program will have done is what comes of its next move. -/
lemma outcome_succ {m : Move σ} (hm : s.move? p = some m) (n : ℕ) :
    s.outcome p (n + 1) = (m.run (p.run n) s.held s.remaining).map s.total := by
  rcases hp : s.phase with q | status
  · rw [move?, hp] at hm
    cases hm
    rw [outcome, future, hp]
    rfl
  · rw [move?, hp] at hm
    cases hm

/-- The total changes with what was written and collected only. -/
lemma total_congr (hp : t.pipes = s.pipes) (hc : t.collected = s.collected) :
    t.total = s.total := by
  funext r
  rw [total, total, hp, hc]

/-! ## What a step does -/

/-- A step is a move of the program, or one of the feeding party, or a byte that is collected.  None
of them changes what the program will have done. -/
inductive Effect (p : Program σ) (s t : Conversation σ) : Prop where
  | moved (unfinished : s.outcome p 0 = none)
      (outcome : ∀ n, s.outcome p (n + 1) = t.outcome p n)
      (feeding : t.feeding = s.feeding) (collected : t.collected = s.collected)
  | fed (outcome : ∀ n, s.outcome p n = t.outcome p n)
      (effort : t.feeding.effort < s.feeding.effort) (collected : t.collected = s.collected)
  | drained (outcome : ∀ n, s.outcome p n = t.outcome p n) (feeding : t.feeding = s.feeding)
      (o : Outlet) (b : UInt8)
      (collected : t.collected = s.collected.set o (s.collected.get o ++ [b]))

/-- A move that writes nothing concerns the future only. -/
lemma Effect.of_move {m : Move σ} (hm : s.move? p = some m) (hp : t.pipes = s.pipes)
    (hc : t.collected = s.collected) (hf : t.feeding = s.feeding)
    (hr : ∀ n, t.future p n = m.run (p.run n) s.held s.remaining) : Effect p s t :=
  .moved (outcome_zero hm)
    (fun n => by rw [outcome_succ hm, outcome, hr, total_congr hp hc]) hf hc

/-- A step of the feeding party does not concern even that. -/
lemma Effect.of_feeding (hp : t.pipes = s.pipes) (hc : t.collected = s.collected)
    (he : t.feeding.effort < s.feeding.effort) (hr : ∀ n, t.future p n = s.future p n) :
    Effect p s t :=
  .fed (fun n => by rw [outcome, outcome, hr, total_congr hp hc]) he hc

/-- A byte that is written goes from the future into the pipe. -/
lemma total_cons (s : Conversation σ) (r : Finished) (o : Outlet) (b : UInt8) :
    s.total (r.cons o b) = total { s with pipes := s.pipes.set o (s.pipes.get o ++ [b]) } r := by
  cases o <;> simp [total, Finished.cons, PerOutlet.set, PerOutlet.get]

/-- A byte that is collected goes from the pipe to what was collected before. -/
lemma total_collect {o : Outlet} {b : UInt8} {rest : Bytes} (ho : s.pipes.get o = b :: rest)
    (r : Finished) :
    total { s with
      pipes := s.pipes.set o rest, collected := s.collected.set o (s.collected.get o ++ [b]) } r =
      s.total r := by
  cases o with
  | output =>
    have ho : s.pipes.output = b :: rest := ho
    simp [total, ho, PerOutlet.set, PerOutlet.get]
  | errors =>
    have ho : s.pipes.errors = b :: rest := ho
    simp [total, ho, PerOutlet.set, PerOutlet.get]

/-- Every step has such an effect. -/
lemma effect_of_step (h : Step p c s t) : Effect p s t := by
  cases h with
  | feed hf hl room =>
    refine .of_feeding rfl rfl (by simp [hf, Feeding.effort]) fun n => ?_
    simp [future, remaining, Feeding.rest, hf, hl]
  | breaks hf hl =>
    refine .of_feeding rfl rfl (by simp [hf, Feeding.effort]) fun n => ?_
    simp [future, remaining, hl]
  | finish hf =>
    refine .of_feeding rfl rfl (by simp [hf, Feeding.effort]) fun n => ?_
    simp [future, remaining, Feeding.rest, hf]
  | read hm hl hi =>
    refine .of_move hm rfl rfl rfl fun n => ?_
    simp [future, remaining, hl, hi, Move.run]
  | @readEnd next hm hi =>
    have hr : s.remaining = [] := remaining_eq_nil hi
    have hr' : remaining { s with phase := .running (next none) } = [] := hr
    refine .of_move hm rfl rfl rfl fun n => ?_
    simp [future, hr, hr', Move.run]
  | @write o b next hm hh room =>
    refine .moved (outcome_zero hm) (fun n => ?_) rfl rfl
    rw [outcome_succ hm, Move.run, Option.map_map]
    refine congrArg₂ Option.map (funext fun r => ?_) rfl
    rw [Function.comp_apply, if_pos hh]
    exact total_cons s r o b
  | writeLost hm hh =>
    refine .of_move hm rfl rfl rfl fun n => ?_
    simp [future, remaining, hh, Move.run]
  | closeInput hm =>
    refine .of_move hm rfl rfl rfl fun n => ?_
    simp [future, remaining, Move.run]
  | close hm =>
    refine .of_move hm rfl rfl rfl fun n => ?_
    simp [future, remaining, Move.run]
  | exit hm => exact .of_move hm rfl rfl rfl fun n => rfl
  | @collect o b rest ho =>
    refine .drained (fun n => ?_) rfl o b rfl
    exact congrArg₂ Option.map (funext fun r => (total_collect ho r).symm) rfl

/-- What the program will have done after a step it would have done before. -/
lemma exists_add_of_step (h : Step p c s t) : ∃ k, ∀ n, s.outcome p (n + k) = t.outcome p n := by
  cases effect_of_step h with
  | moved _ outcome _ _ => exact ⟨1, outcome⟩
  | fed outcome _ _ => exact ⟨0, outcome⟩
  | drained outcome _ _ _ _ => exact ⟨0, outcome⟩

/-! ## Every run of a program that ends is finite -/

/-- The steps that are left for the feeding and the collecting party, if this is what the program
will have done. -/
def left (s : Conversation σ) (r : Finished) : ℕ :=
  s.feeding.effort + (r.output.length - s.collected.output.length) +
    (r.errors.length - s.collected.errors.length)

/-- What was collected is part of what the program will have done. -/
lemma length_collected_le {n : ℕ} {r : Finished} (h : s.outcome p n = some r) :
    s.collected.output.length ≤ r.output.length ∧
      s.collected.errors.length ≤ r.errors.length := by
  obtain ⟨f, -, rfl⟩ := Option.map_eq_some_iff.1 h
  simp [total]

/-- Every step is one less to come, of the program or of the other parties. -/
lemma outcome_step (h : Step p c s t) {n : ℕ} {r : Finished} (hr : s.outcome p n = some r) :
    ∃ m, t.outcome p m = some r ∧ m + t.left r < n + s.left r := by
  cases effect_of_step h with
  | moved unfinished outcome feeding collected =>
    cases n with
    | zero => cases unfinished.symm.trans hr
    | succ n =>
      refine ⟨n, (outcome n).symm.trans hr, ?_⟩
      rw [left, left, feeding, collected]
      omega
  | fed outcome effort collected =>
    refine ⟨n, (outcome n).symm.trans hr, ?_⟩
    rw [left, left, collected]
    omega
  | drained outcome feeding o b collected =>
    have ht := (outcome n).symm.trans hr
    have hle := length_collected_le ht
    refine ⟨n, ht, ?_⟩
    rw [left, left, feeding]
    rw [collected] at hle ⊢
    cases o <;> simp only [PerOutlet.set, PerOutlet.get, List.length_append, List.length_singleton]
      at hle ⊢ <;> omega

/-- A run takes no more steps than are left at its beginning. -/
lemma length_le_left {n : ℕ} {r : Finished} (hr : s.outcome p n = some r)
    {ss : List (Conversation σ)} (h : (s :: ss).IsChain (Step p c)) : ss.length ≤ n + s.left r := by
  induction ss generalizing s n with
  | nil => exact Nat.zero_le _
  | cons t ss ih =>
    obtain ⟨hst, hss⟩ := List.isChain_cons_cons.1 h
    obtain ⟨m, ht, hlt⟩ := outcome_step hst hr
    have hl := ih ht hss
    rw [List.length_cons]
    omega

/-! ## Nobody waits for ever -/

/-- A program that has ended reads nothing any more. -/
def Deaf (s : Conversation σ) : Prop := ∀ status, s.phase = .ended status → s.listening = false

lemma deaf_start (p : Program σ) (source : Bytes) : (start p source).Deaf := by
  intro status h
  cases h

lemma deaf_step (hs : s.Deaf) (h : Step p c s t) : t.Deaf := by
  cases h with
  | exit hm => exact fun _ _ => rfl
  | feed hf hl room => exact hs
  | breaks hf hl => exact hs
  | finish hf => exact hs
  | collect ho => exact hs
  | _ =>
    intro status h
    cases h

/-- As long as something is in a pipe, it can be collected. -/
lemma exists_step_of_pipe {o : Outlet} (h : s.pipes.get o ≠ []) : ∃ t, Step p c s t := by
  obtain ⟨b, rest, ho⟩ := List.exists_cons_of_ne_nil h
  exact ⟨_, .collect ho⟩

/-- A program that waits for its input is fed, or finds that there is no more. -/
lemma exists_step_of_read (hc : c.Positive) {next : Option UInt8 → σ}
    (hm : s.move? p = some (.read next)) : ∃ t, Step p c s t := by
  by_cases hl : s.listening = true
  · rcases hi : s.inputPipe with _ | ⟨b, rest⟩
    · rcases hf : s.feeding with rest | _ | _
      · cases rest with
        | nil => exact ⟨_, .finish hf⟩
        | cons b rest => exact ⟨_, .feed hf hl (by simpa [hi] using hc.1)⟩
      · exact ⟨_, .readEnd hm (.inr ⟨hi, by rw [hf]; rfl⟩)⟩
      · exact ⟨_, .readEnd hm (.inr ⟨hi, by rw [hf]; rfl⟩)⟩
    · exact ⟨_, .read hm hl hi⟩
  · exact ⟨_, .readEnd hm (.inl (by simpa using hl))⟩

/-- A program that has a move before it makes it, or is fed first, or is relieved of what it
wrote. -/
lemma exists_step_of_move (hc : c.Positive) {m : Move σ} (hm : s.move? p = some m) :
    ∃ t, Step p c s t := by
  cases m with
  | exit status => exact ⟨_, .exit hm⟩
  | read next => exact exists_step_of_read hc hm
  | write o b next =>
    by_cases hh : s.held.get o = true
    · by_cases he : s.pipes.get o = []
      · exact ⟨_, .write hm hh (by simpa [he] using hc.2 o)⟩
      · exact exists_step_of_pipe he
    · exact ⟨_, .writeLost hm (by simpa using hh)⟩
  | closeInput next => exact ⟨_, .closeInput hm⟩
  | close o next => exact ⟨_, .close hm⟩

/-- When the program has ended, the feeding party is done at once or finds that nobody reads. -/
lemma exists_step_of_feeding (hs : s.Deaf) {status : ExitStatus} (hp : s.phase = .ended status)
    (hf : s.feeding.report? = none) : ∃ t, Step p c s t := by
  rcases hw : s.feeding with rest | _ | _
  · cases rest with
    | nil => exact ⟨_, .finish hw⟩
    | cons b rest => exact ⟨_, .breaks hw (hs status hp)⟩
  · rw [hw] at hf
    cases hf
  · rw [hw] at hf
    cases hf

/-- Before the return, one of the parties can act. -/
lemma exists_step (hc : c.Positive) (hs : s.Deaf) {program : String}
    (h : s.returned? program = none) : ∃ t, Step p c s t := by
  rcases hp : s.phase with q | status
  · exact exists_step_of_move hc (m := p.move q) (by rw [move?, hp])
  · rcases hf : s.feeding.report? with _ | fed
    · exact exists_step_of_feeding hs hp hf
    · simp only [returned?, hp, hf, ite_eq_right_iff, reduceCtorEq, imp_false, not_and_or] at h
      rcases h with h | h
      · exact exists_step_of_pipe (o := .output) h
      · exact exists_step_of_pipe (o := .errors) h

/-! ## The return -/

/-- Where something is returned, the program has ended, the pipes are empty, and the feeding party
is done. -/
lemma exists_of_returned {program : String} {x : Except TransformError Bytes}
    (h : s.returned? program = some x) :
    ∃ status fed, s.phase = .ended status ∧ s.feeding.report? = some fed ∧ s.pipes = ⟨[], []⟩ ∧
      x = Finished.answer ⟨status, s.collected.output, s.collected.errors⟩ program fed := by
  rw [returned?] at h
  split at h
  · rename_i status fed hp hf
    split at h
    · rename_i he
      have hpipes : s.pipes = ⟨s.pipes.output, s.pipes.errors⟩ := rfl
      rw [he.1, he.2] at hpipes
      exact ⟨status, fed, hp, hf, hpipes, (Option.some.inj h).symm⟩
    · cases h
  · cases h

/-- What is returned is the answer about what the program has done, which is settled then. -/
lemma outcome_of_returned {program : String} {x : Except TransformError Bytes}
    (h : s.returned? program = some x) :
    ∃ r, x = r.result program ∧ ∀ n, s.outcome p n = some r := by
  obtain ⟨status, fed, hp, hf, he, rfl⟩ := exists_of_returned h
  refine ⟨_, Finished.answer_of_report hf _ program, fun n => ?_⟩
  simp [outcome, future, hp, total, he]

/-- After it, nobody can act. -/
lemma returned?_of_step {program : String} (h : Step p c s t) : s.returned? program = none := by
  rcases hr : s.returned? program with _ | x
  · rfl
  · obtain ⟨status, fed, hp, hf, he, -⟩ := exists_of_returned hr
    have hm : s.move? p = none := by rw [move?, hp]
    cases h with
    | feed hw _ _ =>
      rw [hw] at hf
      cases hf
    | breaks hw _ =>
      rw [hw] at hf
      cases hf
    | finish hw =>
      rw [hw] at hf
      cases hf
    | @collect o b rest ho =>
      rw [he] at ho
      cases o <;> cases ho
    | read h' _ _ => cases hm.symm.trans h'
    | readEnd h' _ => cases hm.symm.trans h'
    | write h' _ _ => cases hm.symm.trans h'
    | writeLost h' _ => cases hm.symm.trans h'
    | closeInput h' => cases hm.symm.trans h'
    | close h' => cases hm.symm.trans h'
    | exit h' => cases hm.symm.trans h'

/-- If the program will end, a return is reached. -/
lemma exists_returned (hc : c.Positive) (program : String) (hs : s.Deaf) {n : ℕ} {r : Finished}
    (hr : s.outcome p n = some r) : ∃ t x, Reaches p c s t ∧ t.returned? program = some x := by
  -- the steps that are left become fewer with each one that is taken
  induction hk : n + s.left r using Nat.strong_induction_on generalizing s n with
  | _ k ih =>
    rcases hx : s.returned? program with _ | x
    · obtain ⟨t, ht⟩ := exists_step hc hs hx
      obtain ⟨m, hm, hlt⟩ := outcome_step ht hr
      obtain ⟨u, x, hu, hx⟩ := ih _ (hk ▸ hlt) (deaf_step hs ht) hm rfl
      exact ⟨u, x, (Reaches.step .here ht).trans hu, hx⟩
    · exact ⟨s, x, .here, hx⟩

/-! ## Reachable states -/

lemma Reaches.deaf {source : Bytes} (h : Reaches p c (start p source) s) : s.Deaf := by
  induction h with
  | here => exact deaf_start p source
  | step _ hs ih => exact deaf_step ih hs

/-- What the program will have done, it would have done from the beginning. -/
lemma Reaches.exists_add (h : Reaches p c s t) :
    ∃ k, ∀ n, s.outcome p (n + k) = t.outcome p n := by
  induction h with
  | here => exact ⟨0, fun _ => rfl⟩
  | step _ hs ih =>
    obtain ⟨j, hj⟩ := ih
    obtain ⟨k, hk⟩ := exists_add_of_step hs
    exact ⟨k + j, fun n => by rw [← Nat.add_assoc, hj, hk]⟩

/-- What it will have done at the beginning, it will still have done. -/
lemma Reaches.exists_outcome (h : Reaches p c s t) {n : ℕ} {r : Finished}
    (hr : s.outcome p n = some r) : ∃ m, t.outcome p m = some r := by
  induction h with
  | here => exact ⟨n, hr⟩
  | step _ hs ih =>
    obtain ⟨m, hm⟩ := ih
    obtain ⟨k, hk, -⟩ := outcome_step hs hm
    exact ⟨k, hk⟩

/-- **Conversations come to one result.**  Let a program be started on a source, over pipes with
room for a byte at least.  In every state that it can come to with its caller, whoever has acted so
far, some party can act exactly as long as nothing has been returned, and something is returned only
if the program is one that ends on this source.  If it is, then only so many steps can follow, and
some of them lead to a return; and what is returned is in all cases the answer about what the
program does with the source when nothing holds it up: all that it writes to its output if it ends
well, whether it has read the source to its end or not, and else its status with the end of its
complaints. -/
theorem returns_alike (hc : c.Positive) (p : Program σ) (source : Bytes) (program : String)
    (h : Reaches p c (start p source) s) :
    ((∃ t, Step p c s t) ↔ s.returned? program = none) ∧
    (∀ x, s.returned? program = some x → ∃ r, p.Ends source r) ∧
    ∀ r, p.Ends source r →
      (∃ n, ∀ ss, (s :: ss).IsChain (Step p c) → ss.length ≤ n) ∧
      (∃ t x, Reaches p c s t ∧ t.returned? program = some x) ∧
      ∀ x, s.returned? program = some x →
        x =
          if r.status.isSuccess then .ok r.output
          else .error (.failed program r.status (complaintTail r.errors)) := by
  have hs := h.deaf
  refine ⟨⟨?_, exists_step hc hs⟩, fun x hx => ?_, fun r ⟨n, hn⟩ => ?_⟩
  · rintro ⟨t, ht⟩
    exact returned?_of_step ht
  · obtain ⟨r, -, hr⟩ := outcome_of_returned (p := p) hx
    obtain ⟨k, hk⟩ := h.exists_add
    exact ⟨r, 0 + k, by rw [← outcome_start, hk, hr]⟩
  · rw [← outcome_start] at hn
    obtain ⟨m, hm⟩ := h.exists_outcome hn
    refine ⟨⟨_, fun ss => length_le_left hm⟩, exists_returned hc program hs hm, fun x hx => ?_⟩
    obtain ⟨r', rfl, hr'⟩ := outcome_of_returned (p := p) hx
    cases hm.symm.trans (hr' m)
    rfl

end Conversation

/-! ## A program that reads everything, and one that reads nothing -/

namespace Program

/-- A program that copies its input ends on every source, whatever its length. -/
lemma ends_copy (source : Bytes) : copy.Ends source ⟨.code 0, source, []⟩ := by
  suffices h : copy.run (2 * source.length + 2) .ready ⟨true, true⟩ source =
      some ⟨.code 0, source, []⟩ from ⟨_, h⟩
  induction source with
  | nil => rfl
  | cons b source ih =>
    -- a byte takes two moves
    have h : copy.run (2 * (b :: source).length + 2) .ready ⟨true, true⟩ (b :: source) =
        (copy.run (2 * source.length + 2) .ready ⟨true, true⟩ source).map
          fun r => r.cons .output b := rfl
    rw [h, ih]
    rfl

/-- Writes a byte and ends well, without a look at its input. -/
def hasty : Program Bool where
  start := false
  move
    | false => .write .output 7 true
    | true => .exit (.code 0)

lemma ends_hasty (source : Bytes) : hasty.Ends source ⟨.code 0, [7], []⟩ := ⟨2, rfl⟩

end Program

namespace Conversation

open Program

/-- Pipes with room for two bytes of input, and for one byte of each written stream. -/
def narrow : Capacities := ⟨2, ⟨1, 1⟩⟩

lemma positive_narrow : narrow.Positive := by
  refine ⟨by decide, fun p => ?_⟩
  cases p <;> decide

/-- The feeding party is faster, and is done before the program has begun. -/
def fed : Conversation Bool :=
  { feeding := .finished, phase := .ended (.code 0), listening := false, held := ⟨false, false⟩,
    collected := ⟨[7], []⟩ }

/-- The program is faster, and has ended before it is fed. -/
def unfed : Conversation Bool := { fed with feeding := .broken }

lemma reaches_fed : Reaches hasty narrow (start hasty [1, 2]) fed := by
  have h := Reaches.here (p := hasty) (c := narrow) (s := start hasty [1, 2])
  replace h := h.step (.feed rfl rfl (by decide))
  replace h := h.step (.feed rfl rfl (by decide))
  replace h := h.step (.finish rfl)
  replace h := h.step (.write rfl rfl (by decide))
  replace h := h.step (.exit rfl)
  exact h.step (.collect (o := .output) rfl)

lemma reaches_unfed : Reaches hasty narrow (start hasty [1, 2]) unfed := by
  have h := Reaches.here (p := hasty) (c := narrow) (s := start hasty [1, 2])
  replace h := h.step (.write rfl rfl (by decide))
  replace h := h.step (.exit rfl)
  replace h := h.step (.collect (o := .output) rfl)
  exact h.step (.breaks rfl rfl)

/-- The reports of the feeding party differ, and the answers do not.  A program that copies its
input over the same pipes is answered with all of it, though that does not fit into any of them. -/
theorem returns_alike_hasty :
    narrow.Positive ∧ Reaches hasty narrow (start hasty [1, 2]) fed ∧
      Reaches hasty narrow (start hasty [1, 2]) unfed ∧
      fed.feeding.report? = some (.ok ()) ∧ unfed.feeding.report? = some (.error .brokenPipe) ∧
      fed.returned? "tool" = some (.ok [7]) ∧ unfed.returned? "tool" = some (.ok [7]) ∧
      ∃ t, Reaches copy narrow (start copy [1, 2, 3, 4, 5]) t ∧
        t.returned? "tool" = some (.ok [1, 2, 3, 4, 5]) := by
  have he := ends_hasty [1, 2]
  have hfed := ((returns_alike positive_narrow hasty [1, 2] "tool" reaches_fed).2.2 _ he).2.2
  have hunfed := ((returns_alike positive_narrow hasty [1, 2] "tool" reaches_unfed).2.2 _ he).2.2
  refine ⟨positive_narrow, reaches_fed, reaches_unfed, rfl, rfl, congrArg some (hfed _ rfl),
    congrArg some (hunfed _ rfl), ?_⟩
  have hcopy := ends_copy [1, 2, 3, 4, 5]
  obtain ⟨t, x, ht, hx⟩ :=
    ((returns_alike positive_narrow copy [1, 2, 3, 4, 5] "tool" .here).2.2 _ hcopy).2.1
  have hall := ((returns_alike positive_narrow copy [1, 2, 3, 4, 5] "tool" ht).2.2 _ hcopy).2.2
  exact ⟨t, ht, hx.trans (congrArg some (hall x hx))⟩

end Conversation

end BenchRoster
