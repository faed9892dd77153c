import Roster.Proofs.Dialogue.Interleaving
import Roster.Sql.Query
import Mathlib.Data.List.Forall2

namespace Roster.Sql

variable {α β γ δ : Type}

def hear : (ℕ → Except Refusal Answer) → Dialogue interface α →
    List (Statement × Except Refusal Answer) × α
  | _, .done a => ([], a)
  | replies, .ask s next =>
    let (rest, a) := hear (fun n ↦ replies (n + 1)) (next (replies 0))
    ((s, replies 0) :: rest, a)

/-- What follows a conversation is heard with the replies that it has left over. -/
theorem hear_bind (replies : ℕ → Except Refusal Answer) (d : Dialogue interface α)
    (f : α → Dialogue interface β) :
    ∃ rest, hear replies (d.bind f) = ((hear replies d).1 ++ (hear rest (f (hear replies d).2)).1,
      (hear rest (f (hear replies d).2)).2) := by
  induction d generalizing replies with
  | done a => exact ⟨replies, rfl⟩
  | ask s next ih =>
    obtain ⟨rest, hrest⟩ := ih (replies 0) fun n ↦ replies (n + 1)
    refine ⟨rest, ?_⟩
    simp only [Dialogue.bind, hear, hrest, List.cons_append]

theorem hear_bind_done (replies : ℕ → Except Refusal Answer) (d : Dialogue interface α)
    (g : α → β) :
    hear replies (d.bind fun a ↦ .done (g a)) = ((hear replies d).1, g (hear replies d).2) := by
  obtain ⟨rest, h⟩ := hear_bind replies d fun a ↦ .done (g a)
  rw [h, hear, List.append_nil]

theorem hear_value {P : Statement → Prop} {Q : α → Prop} {d : Dialogue interface α}
    (hd : d.Asks P Q) (replies : ℕ → Except Refusal Answer) : Q (hear replies d).2 := by
  induction d generalizing replies with
  | done a => exact hd
  | ask s next ih => exact ih _ (hd.2 _) _

/-- Under any replies the statements of two conversations are related one by one, and the values at
the end are related. -/
def InStep (P : Statement → Statement → Prop) (R : α → β → Prop) :
    Dialogue interface α → Dialogue interface β → Prop
  | .done a, .done b => R a b
  | .ask s next, .ask s' next' =>
    P s s' ∧ ∀ r : Except Refusal Answer, InStep P R (next r) (next' r)
  | _, _ => False

variable {P : Statement → Statement → Prop} {R : α → β → Prop} {S : γ → δ → Prop}

theorem InStep.bind {d : Dialogue interface α} {d' : Dialogue interface β}
    {f : α → Dialogue interface γ} {f' : β → Dialogue interface δ} (hd : InStep P R d d')
    (hf : ∀ a b, R a b → InStep P S (f a) (f' b)) : InStep P S (d.bind f) (d'.bind f') := by
  induction d generalizing d' with
  | done a =>
    cases d' with
    | done b => exact hf a b hd
    | ask s' next' => exact hd.elim
  | ask s next ih =>
    cases d' with
    | done b => exact hd.elim
    | ask s' next' => exact ⟨hd.1, fun r ↦ ih r (hd.2 r)⟩

theorem InStep.hear {d : Dialogue interface α} {d' : Dialogue interface β} (hd : InStep P R d d')
    (replies : ℕ → Except Refusal Answer) :
    List.Forall₂ (fun e e' ↦ P e.1 e'.1) (hear replies d).1 (hear replies d').1 := by
  induction d generalizing d' replies with
  | done a =>
    cases d' with
    | done b => exact .nil
    | ask s' next' => exact hd.elim
  | ask s next ih =>
    cases d' with
    | done b => exact hd.elim
    | ask s' next' => exact .cons hd.1 (ih _ (hd.2 _) _)

namespace Query

def Outcome (R : α → β → Prop) : Except Fault α → Except Fault β → Prop
  | .ok a, .ok b => R a b
  | .error _, .error _ => True
  | _, _ => False

protected def InStep (P : Statement → Statement → Prop) (R : α → β → Prop) (q : Query α)
    (q' : Query β) : Prop :=
  Sql.InStep P (Outcome R) q.run q'.run

def Settled (q : Query α) : Prop :=
  q.run.isDone = true

variable {q : Query α} {q' : Query β}

namespace Settled

theorem pure (a : α) : Settled (Pure.pure a) := rfl

theorem throw (f : Fault) : Settled (throw f : Query α) := rfl

theorem ofTrouble (action : String) (e : Except Trouble α) : Settled (ofTrouble action e) := rfl

theorem bind {g : α → Query β} (hq : q.Settled) (hg : ∀ a, (g a).Settled) :
    (q >>= g).Settled := by
  obtain ⟨e, hrun⟩ : ∃ e, q.run = .done e := by
    cases hrun : q.run with
    | done e => exact ⟨e, rfl⟩
    | ask s next =>
      rw [Settled, hrun] at hq
      cases hq
  show ((q.run).bind _).isDone = true
  rw [hrun]
  cases e with
  | ok a => exact hg a
  | error f => rfl

theorem mapM {g : α → Query β} (hg : ∀ a, (g a).Settled) (as : List α) : (as.mapM g).Settled := by
  induction as with
  | nil => exact .pure []
  | cons a as ih =>
    rw [List.mapM_cons]
    exact (hg a).bind fun _ ↦ ih.bind fun _ ↦ .pure _

theorem optionMapM {g : α → Query β} (hg : ∀ a, (g a).Settled) (a : Option α) :
    (a.mapM g).Settled := by
  cases a with
  | none => exact .pure none
  | some a => exact (hg a).bind fun _ ↦ .pure _

end Settled

namespace InStep

theorem pure {a : α} {b : β} (h : R a b) : Query.InStep P R (Pure.pure a) (Pure.pure b) := h

theorem throw {f f' : Fault} : Query.InStep P R (throw f) (throw f') := trivial

theorem bind {g : α → Query γ} {g' : β → Query δ} (hq : q.InStep P R q')
    (hg : ∀ a b, R a b → (g a).InStep P S (g' b)) : (q >>= g).InStep P S (q' >>= g') := by
  refine Sql.InStep.bind hq fun e e' h ↦ ?_
  cases e with
  | ok a =>
    cases e' with
    | ok b => exact hg a b h
    | error f' => exact h.elim
  | error f =>
    cases e' with
    | ok b => exact h.elim
    | error f' => trivial

theorem weaken {q q' : Query α} (hq : q.InStep P Eq q') : q.InStep P (fun _ _ ↦ True) q' := by
  rw [← bind_pure q, ← bind_pure q']
  exact hq.bind fun _ _ _ ↦ pure trivial

theorem andThen {q q' : Query α} {g : α → Query γ} {g' : α → Query δ} (hq : q.InStep P Eq q')
    (hg : ∀ a, (g a).InStep P S (g' a)) : (q >>= g).InStep P S (q' >>= g') :=
  hq.bind fun a _ h ↦ h ▸ hg a

theorem ofSettled {q : Query α} (hq : q.Settled) : q.InStep P Eq q := by
  rw [Settled] at hq
  rw [Query.InStep]
  cases hrun : q.run with
  | done e => cases e <;> first | exact rfl | trivial
  | ask s next =>
    rw [hrun] at hq
    cases hq

variable {s s' : Statement}

theorem sendOr {explain explain' : Refusal → Fault} (h : P s s') :
    (sendOr explain s).InStep P Eq (sendOr explain' s') := by
  refine ⟨h, fun r ↦ ?_⟩
  cases r with
  | ok a => exact rfl
  | error r => exact trivial

theorem send {action : String} (h : P s s') : (send action s).InStep P Eq (send action s') :=
  sendOr h

theorem fetchOptional {action : String} (h : P s s') :
    (fetchOptional action s).InStep P Eq (fetchOptional action s') :=
  (send h).andThen fun _ ↦ pure rfl

theorem scalar {action : String} {c : Cell α} (h : P s s') :
    (scalar action c s).InStep P Eq (scalar action c s') :=
  (fetchOptional h).andThen fun row ↦
    match row with
    | some _ => ofSettled (.ofTrouble _ _)
    | none => throw

theorem transaction {beginning commitment : String} (hbegin : P .begin .begin)
    (hcommit : P .commit .commit) (hrollback : P .rollback .rollback) (hq : q.InStep P R q') :
    (transaction beginning commitment q).InStep P R (transaction beginning commitment q') := by
  refine (send hbegin).andThen fun _ ↦ ?_
  refine Sql.InStep.bind (hq.bind fun a b h ↦ (send hcommit).andThen fun _ ↦ pure h) fun e e' h ↦ ?_
  cases e with
  | ok a =>
    cases e' with
    | ok b => exact h
    | error f' => exact h.elim
  | error f =>
    cases e' with
    | ok b => exact h.elim
    | error f' => exact ⟨hrollback, fun _ ↦ trivial⟩

end InStep

end Query

end Roster.Sql
