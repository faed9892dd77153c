import Roster.Metrics
import Roster.Proofs.Enrolment.Stages
import Roster.Proofs.Store.Runs

namespace Roster

namespace Metrics.Registry

variable (r : Registry) (s s' : Series)

def count : ℕ :=
  (r.counts.lookup s).getD 0

theorem lookup_increased (l : List (Series × ℕ)) :
    (l.map fun e ↦ if e.1 = s then (e.1, e.2 + 1) else e).lookup s' =
      (l.lookup s').map fun n ↦ if s' = s then n + 1 else n := by
  induction l with
  | nil => rfl
  | cons e l ih =>
    obtain ⟨k, n⟩ := e
    have hhead : (if (k, n).1 = s then ((k, n).1, (k, n).2 + 1) else (k, n)) =
        (k, if k = s then n + 1 else n) := by
      split <;> rfl
    rw [List.map_cons, hhead, Store.Table.lookup_cons_eq, Store.Table.lookup_cons_eq, ih]
    by_cases hk : s' = k
    · rw [if_pos hk, if_pos hk, hk, Option.map_some]
    · rw [if_neg hk, if_neg hk]

theorem count_bump : (r.bump s).count s' = r.count s' + if s' = s then 1 else 0 := by
  unfold bump count
  split
  · next h =>
    obtain ⟨n, hn⟩ := Option.isSome_iff_exists.mp h
    rw [lookup_increased]
    by_cases hs : s' = s
    · subst hs
      simp [hn]
    · simp [hs]
  · next h =>
    rw [List.lookup_append, Store.Table.lookup_cons_eq]
    by_cases hs : s' = s
    · subst hs
      simp [Option.not_isSome_iff_eq_none.mp h]
    · simp [hs]

end Metrics.Registry

namespace Enrolment

open Metrics (Registry Series)
open Store (Call Tables)

def Attempt.series (a : Attempt) : Series :=
  ⟨"membership_operations_total", [("kind", a.kind.name), ("action", a.action.name),
    ("outcome", if a.isSuccess then "success" else "error")]⟩

theorem Attempt.series_injective : Function.Injective series := by
  intro a b h
  obtain ⟨k, action, isSuccess⟩ := a
  obtain ⟨k', action', isSuccess'⟩ := b
  simp only [series, Series.mk.injEq, List.cons.injEq, Prod.mk.injEq, true_and, and_true] at h
  obtain ⟨hkind, haction, houtcome⟩ := h
  have hk : k = k' := by
    cases k <;> cases k' <;> simp [Kind.name] at hkind ⊢
  have ha : action = action' := by
    cases action <;> cases action' <;> simp [Action.name] at haction ⊢
  have hs : isSuccess = isSuccess' := by
    cases isSuccess <;> cases isSuccess' <;> simp at houtcome ⊢
  rw [hk, ha, hs]

theorem count_attempt (r : Registry) (a : Attempt) (s : Series) :
    (r.attempt a).count s = r.count s + if s = a.series then 1 else 0 :=
  r.count_bump a.series s

variable {σ : Type} (answer : (c : Call) → σ → Except Fault c.Result × σ)
variable (x : Task) (u : User) (c : Circle) (s : σ)

namespace Task

def resolved? : Option (User × Circle × σ) :=
  match answer (.findUser x.userRef) s with
  | (.ok (some u), s') =>
    match answer (.findCircle x.kind x.circleRef) s' with
    | (.ok (some c), s'') => some (u, c, s'')
    | _ => none
  | _ => none

def judged (row : Option Membership) : Except Fault Permission :=
  match x.action, row with
  | .attach, some _ => .error (.alreadyAssigned x.kind)
  | .permit, none => .error (.notAssigned x.kind)
  | _, _ => x.asked

def admission : Except Fault Unit :=
  match x.action with
  | .drop => .ok ()
  | _ => ((answer (.findMembership x.kind u.id c.id) s).1.bind x.judged).map fun _ ↦ ()

/-- A task that is refused ends with the fault and is not counted; one that comes to its write is
counted once, under its kind and action and by how it ended. -/
def Counted {β : Type} (admission : Except Fault β) (o : Outcome (Option Member)) : Prop :=
  match admission with
  | .error f => o.result = .error f ∧ o.attempt = none
  | .ok _ => o.attempt = some ⟨x.kind, x.action, o.result.isOk⟩

structure Round (σ : Type) where
  task : Task
  found : σ
  outcome : Outcome (Option Member)

def round : Round σ × σ :=
  (⟨x, s, (x.operation.run answer s).1⟩, (x.operation.run answer s).2)

theorem run_cases :
    (x.resolved? answer s = none ∧ ∃ f s', x.operation.run answer s = (⟨.error f, none⟩, s')) ∨
    ∃ u c s', x.resolved? answer s = some (u, c, s') ∧
      x.operation.run answer s = (x.withBoth u c).run answer s' := by
  rw [operation_eq]
  simp only [resolved?, seek, seekCircle, Dialogue.run_ask]
  obtain ⟨found, s'⟩ := answer (.findUser x.userRef) s
  rcases found with f | _ | u
  · exact .inl ⟨rfl, f, s', rfl⟩
  · exact .inl ⟨rfl, _, s', rfl⟩
  · simp only [orStop, Option.elim_some, Dialogue.run_ask]
    obtain ⟨found, s''⟩ := answer (.findCircle x.kind x.circleRef) s'
    rcases found with f | _ | c
    · exact .inl ⟨rfl, f, s'', rfl⟩
    · exact .inl ⟨rfl, _, s'', rfl⟩
    · exact .inr ⟨u, c, s'', rfl, rfl⟩

theorem isOk_map {α β : Type} (r : Except Fault α) (g : α → β) : (r.map g).isOk = r.isOk := by
  cases r <;> rfl

theorem counted_write (p : Permission) :
    ((x.write u c p).run answer s).1.attempt =
      some ⟨x.kind, x.action, ((x.write u c p).run answer s).1.result.isOk⟩ := by
  unfold write
  split
  · simp only [Dialogue.run_ask, Dialogue.run_done, isOk_map]
  · simp only [Dialogue.run_ask, Dialogue.run_done, isOk_map]

theorem judge_eq (row : Option Membership) :
    x.judge u c row = orStop (x.write u c) (x.judged row) := by
  unfold judge judged
  cases x.action <;> cases row <;> rfl

theorem counted_judge (row : Option Membership) :
    x.Counted (x.judged row) ((x.judge u c row).run answer s).1 := by
  rw [judge_eq]
  cases x.judged row with
  | error f => exact ⟨rfl, rfl⟩
  | ok p => exact x.counted_write answer u c s p

theorem counted_look : x.Counted ((answer (.findMembership x.kind u.id c.id) s).1.bind x.judged)
    ((Dialogue.ask (I := Store.interface) (.findMembership x.kind u.id c.id)
      (orStop (x.judge u c))).run answer s).1 := by
  rw [Dialogue.run_ask]
  cases (answer (.findMembership x.kind u.id c.id) s).1 with
  | error f => exact ⟨rfl, rfl⟩
  | ok row => exact x.counted_judge answer u c _ row

theorem Counted.map {β γ : Type} {admission : Except Fault β} {o : Outcome (Option Member)}
    (g : β → γ) (h : x.Counted admission o) : x.Counted (admission.map g) o := by
  cases admission with
  | error f => exact h
  | ok b => exact h

theorem counted_withBoth :
    x.Counted (x.admission answer u c s) ((x.withBoth u c).run answer s).1 := by
  cases hx : x.action with
  | drop =>
    simp only [admission, withBoth, hx, Counted, Dialogue.run_ask, Dialogue.run_done, isOk_map]
  | attach =>
    simp only [admission, withBoth, hx]
    exact (x.counted_look answer u c s).map x _
  | permit =>
    simp only [admission, withBoth, hx]
    exact (x.counted_look answer u c s).map x _

def Round.Settled (r : Round σ) : Prop :=
  match r.task.resolved? answer r.found with
  | none => (∃ f, r.outcome.result = .error f) ∧ r.outcome.attempt = none
  | some (u, c, s) => r.task.Counted (r.task.admission answer u c s) r.outcome

theorem round_settled : (x.round answer s).1.Settled answer := by
  unfold Round.Settled round
  rcases x.run_cases answer s with ⟨hnone, f, s', hrun⟩ | ⟨u, c, s', hsome, hrun⟩
  · rw [hnone, hrun]
    exact ⟨⟨f, rfl⟩, rfl⟩
  · rw [hsome, hrun]
    exact x.counted_withBoth answer u c s'

end Task

def rounds (tasks : List Task) : List (Task.Round σ) :=
  (transcript (fun s x ↦ x.round answer s) s tasks).1

def tally (r : Registry) (rounds : List (Task.Round σ)) : Registry :=
  rounds.foldl (fun r x ↦ x.outcome.attempt.elim r r.attempt) r

theorem rounds_settled (tasks : List Task) : ∀ r ∈ rounds answer s tasks, r.Settled answer := by
  induction tasks generalizing s with
  | nil => simp [rounds, transcript]
  | cons x tasks ih =>
    intro r hr
    rcases List.mem_cons.mp hr with hr | hr
    · rw [hr]
      exact x.round_settled answer s
    · exact ih _ r hr

theorem rounds_tasks (tasks : List Task) : (rounds answer s tasks).map (·.task) = tasks := by
  induction tasks generalizing s with
  | nil => rfl
  | cons x tasks ih => exact congrArg (x :: ·) (ih _)

theorem count_tally (r : Registry) (l : List (Task.Round σ)) (series : Series) :
    (tally r l).count series =
      r.count series + l.countP fun x ↦ x.outcome.attempt.map Attempt.series = some series := by
  induction l generalizing r with
  | nil => rfl
  | cons x l ih =>
    have htail : tally r (x :: l) = tally (x.outcome.attempt.elim r r.attempt) l := rfl
    have hhead : (x.outcome.attempt.elim r r.attempt).count series = r.count series +
        if x.outcome.attempt.map Attempt.series = some series then 1 else 0 := by
      cases x.outcome.attempt with
      | none => simp
      | some a => simp [count_attempt, eq_comm]
    rw [htail, ih, hhead, List.countP_cons]
    simp only [decide_eq_true_eq]
    omega

/-- Of every run of tasks, on whatever answers the calls: each that comes to its write is counted
once, and nothing else is. -/
theorem attempts_counted (r : Registry) (tasks : List Task) :
    (rounds answer s tasks).map (·.task) = tasks ∧
    (∀ x ∈ rounds answer s tasks, x.Settled answer) ∧
    (∀ a : Attempt, (tally r (rounds answer s tasks)).count a.series =
      r.count a.series + (rounds answer s tasks).countP (·.outcome.attempt = some a)) ∧
    ∀ series, (∀ a : Attempt, a.series ≠ series) →
      (tally r (rounds answer s tasks)).count series = r.count series := by
  refine ⟨rounds_tasks answer s tasks, rounds_settled answer s tasks, ?_, ?_⟩
  · intro a
    rw [count_tally]
    refine congrArg _ (List.countP_congr fun x _ ↦ ?_)
    cases x.outcome.attempt with
    | none => simp
    | some b => simp [Attempt.series_injective.eq_iff]
  · intro series hseries
    rw [count_tally, Nat.add_eq_left, List.countP_eq_zero]
    intro x _
    cases x.outcome.attempt with
    | none => simp
    | some a => simpa using hseries a

theorem refused_attach_not_counted :
    let ada : User := .new ⟨"u", by decide⟩ ⟨0, 0⟩ "ada" "ada@example.org" ""
    let core : Circle := .new ⟨"g", by decide⟩ ⟨0, 0⟩ "Core"
    let t := Tables.empty.after [.createUser ada, .createCircle .group core none]
    let task (action : Action) : Task := ⟨.group, action, ⟨0, 0⟩, "ada", "core", some "user"⟩
    let l := rounds Tables.answer t [task .drop, task .permit, task .attach, task .attach]
    let counted (action : Action) (isSuccess : Bool) : ℕ :=
      (tally .empty l).count (Attempt.series ⟨.group, action, isSuccess⟩)
    (∀ x ∈ l, (x.task.resolved? Tables.answer x.found).isSome) ∧
    l.map (·.outcome.result.isOk) = [false, false, true, false] ∧
    counted .drop false = 1 ∧ counted .permit false = 0 ∧
    counted .attach true = 1 ∧ counted .attach false = 0 := by
  decide

end Enrolment

end Roster
