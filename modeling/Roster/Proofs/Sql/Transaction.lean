import Roster.Proofs.Sql.Conversation

namespace Roster.Sql

variable {α β : Type}

/-- A statement that has to go through, with the fault that its refusal is and the statements that
are sent in that case. -/
structure Step where
  statement : Statement
  explain : Refusal → Fault
  undo : List Statement

def failAfter (f : Fault) : List Statement → Dialogue interface (Except Fault α)
  | [] => .done (.error f)
  | s :: rest => .ask s fun _ ↦ failAfter f rest

def inTurn (a : α) : List Step → Dialogue interface (Except Fault α)
  | [] => .done (.ok a)
  | p :: rest => .ask p.statement fun
    | .ok _ => inTurn a rest
    | .error r => failAfter (p.explain r) p.undo

def Step.undoing (after : List Statement) (p : Step) : Step :=
  { p with undo := p.undo ++ after }

theorem failAfter_bind {g : Except Fault α → Dialogue interface (Except Fault β)}
    {after : List Statement} (hg : ∀ f, g (.error f) = failAfter f after) (f : Fault)
    (undo : List Statement) : (failAfter f undo).bind g = failAfter f (undo ++ after) := by
  induction undo with
  | nil => exact hg f
  | cons s rest ih => exact congrArg (Dialogue.ask s) (funext fun _ ↦ ih)

theorem inTurn_bind {g : Except Fault α → Dialogue interface (Except Fault β)}
    {after : List Statement} {rest : List Step} {a : α} {b : β} (hok : g (.ok a) = inTurn b rest)
    (herror : ∀ f, g (.error f) = failAfter f after) (steps : List Step) :
    (inTurn a steps).bind g = inTurn b (steps.map (·.undoing after) ++ rest) := by
  induction steps with
  | nil => exact hok
  | cons p steps ih =>
    refine congrArg (Dialogue.ask (I := interface) p.statement) (funext fun reply ↦ ?_)
    cases reply with
    | ok answer => exact ih
    | error r => exact failAfter_bind herror _ _

structure CarriedOut (statements : List Statement)
    (sent : List (Statement × Except Refusal Answer)) : Prop where
  statements : sent.map (·.1) = statements
  replies : ∀ e ∈ sent, e.2.isOk = true

theorem CarriedOut.cons {s : Statement} {statements : List Statement}
    {sent : List (Statement × Except Refusal Answer)} (h : CarriedOut statements sent)
    (answer : Answer) : CarriedOut (s :: statements) ((s, .ok answer) :: sent) where
  statements := congrArg (s :: ·) h.statements
  replies := List.forall_mem_cons.mpr ⟨rfl, h.replies⟩

theorem CarriedOut.append {statements statements' : List Statement}
    {sent sent' : List (Statement × Except Refusal Answer)} (h : CarriedOut statements sent)
    (h' : CarriedOut statements' sent') :
    CarriedOut (statements ++ statements') (sent ++ sent') where
  statements := by rw [List.map_append, h.statements, h'.statements]
  replies e he := (List.mem_append.mp he).elim (h.replies e) (h'.replies e)

inductive Broken : List Step → List (Statement × Except Refusal Answer) → Fault → Prop
  | here (p : Step) (rest : List Step) (r : Refusal)
    {undone : List (Statement × Except Refusal Answer)} (h : undone.map (·.1) = p.undo) :
    Broken (p :: rest) ((p.statement, .error r) :: undone) (p.explain r)
  | later (p : Step) (answer : Answer) {rest : List Step}
    {sent : List (Statement × Except Refusal Answer)} {f : Fault} (h : Broken rest sent f) :
    Broken (p :: rest) ((p.statement, .ok answer) :: sent) f

namespace Broken

variable {steps : List Step} {sent sent' : List (Statement × Except Refusal Answer)} {f : Fault}

theorem append (h : Broken steps sent f) (more : List Step) : Broken (steps ++ more) sent f := by
  induction h with
  | here p rest r h => exact .here p (rest ++ more) r h
  | later p answer h ih => exact .later p answer ih

theorem prepend {before : List Step} (hbefore : CarriedOut (before.map (·.statement)) sent)
    (h : Broken steps sent' f) : Broken (before ++ steps) (sent ++ sent') f := by
  induction before generalizing sent with
  | nil =>
    obtain rfl := List.map_eq_nil_iff.mp hbefore.statements
    exact h
  | cons p before ih =>
    obtain ⟨hstatements, hreplies⟩ := hbefore
    obtain ⟨⟨s, reply⟩, sent, rfl, rfl, hrest⟩ := List.map_eq_cons_iff.mp hstatements
    have hsent := (List.forall_mem_cons.mp hreplies).2
    cases reply with
    | ok answer => exact .later p answer (ih ⟨hrest, hsent⟩)
    | error r => cases (List.forall_mem_cons.mp hreplies).1

end Broken

section Hearing

variable {steps : List Step} {a b : α} (replies : ℕ → Except Refusal Answer)

theorem hear_failAfter (f : Fault) (undo : List Statement) :
    (hear replies (failAfter (α := α) f undo)).1.map (·.1) = undo ∧
      (hear replies (failAfter (α := α) f undo)).2 = .error f := by
  induction undo generalizing replies with
  | nil => exact ⟨rfl, rfl⟩
  | cons s rest ih =>
    obtain ⟨hsent, hvalue⟩ := ih fun n ↦ replies (n + 1)
    exact ⟨congrArg (s :: ·) hsent, hvalue⟩

/-- A sequence that succeeds has been carried out from its first step to its last. -/
theorem hear_inTurn_ok (h : (hear replies (inTurn a steps)).2 = .ok b) :
    b = a ∧ CarriedOut (steps.map (·.statement)) (hear replies (inTurn a steps)).1 := by
  induction steps generalizing replies with
  | nil =>
    cases h
    exact ⟨rfl, rfl, by simp [inTurn, hear]⟩
  | cons p steps ih =>
    simp only [inTurn, hear] at h ⊢
    cases hreply : replies 0 with
    | ok answer =>
      rw [hreply] at h
      obtain ⟨hb, hcarried⟩ := ih _ h
      exact ⟨hb, hcarried.cons answer⟩
    | error r =>
      rw [hreply] at h
      cases (hear_failAfter _ _ _).2.symm.trans h

theorem hear_inTurn_of_ok (h : ∀ e ∈ (hear replies (inTurn a steps)).1, e.2.isOk = true) :
    (hear replies (inTurn a steps)).2 = .ok a := by
  induction steps generalizing replies with
  | nil => rfl
  | cons p steps ih =>
    simp only [inTurn, hear] at h ⊢
    obtain ⟨hreply, hrest⟩ := List.forall_mem_cons.mp h
    cases hreply' : replies 0 with
    | ok answer =>
      rw [hreply'] at hrest
      exact ih _ hrest
    | error r =>
      rw [hreply'] at hreply
      cases hreply

/-- A refused statement is that of a step, and what is sent after it is what there is to undo, unless
it is part of that itself. -/
theorem hear_inTurn_refused {before after : List (Statement × Except Refusal Answer)}
    {s : Statement} {r : Refusal}
    (h : (hear replies (inTurn a steps)).1 = before ++ (s, .error r) :: after) :
    ∃ p ∈ steps,
      (s = p.statement ∧ after.map (·.1) = p.undo ∧
        (hear replies (inTurn a steps)).2 = .error (p.explain r)) ∨
      (∃ undone, p.undo = undone ++ s :: after.map (·.1)) ∧
        ∃ f, (hear replies (inTurn a steps)).2 = .error f := by
  induction steps generalizing replies before with
  | nil =>
    simp [inTurn, hear] at h
  | cons p steps ih =>
    simp only [inTurn, hear] at h ⊢
    cases hreply : replies 0 with
    | ok answer =>
      rw [hreply] at h
      cases before with
      | nil => cases h
      | cons e before =>
        obtain ⟨q, hq, hcase⟩ := ih _ (List.cons.inj h).2
        exact ⟨q, List.mem_cons_of_mem _ hq, hcase⟩
    | error r' =>
      rw [hreply] at h
      obtain ⟨hsent, hvalue⟩ :=
        hear_failAfter (α := α) (fun n ↦ replies (n + 1)) (p.explain r') p.undo
      refine ⟨p, List.mem_cons_self, ?_⟩
      cases before with
      | nil =>
        cases h
        exact .inl ⟨rfl, hsent, hvalue⟩
      | cons e before =>
        have hrest := (List.cons.inj h).2
        refine .inr ⟨⟨before.map (·.1), ?_⟩, _, hvalue⟩
        rw [← hsent, hrest]
        exact List.map_append

/-- Where every step but the beginning is undone by a rollback, nothing else follows a refusal. -/
theorem hear_inTurn_rolledBack {before after : List (Statement × Except Refusal Answer)}
    {s : Statement} {r : Refusal}
    (hundo : ∀ p ∈ steps,
      p.undo = (if p.statement = .begin ∨ p.statement = .rollback then [] else [.rollback]))
    (h : (hear replies (inTurn a steps)).1 = before ++ (s, .error r) :: after) :
    after.map (·.1) = (if s = .begin ∨ s = .rollback then [] else [.rollback]) ∧
      ∃ f, (hear replies (inTurn a steps)).2 = .error f := by
  obtain ⟨p, hp, ⟨rfl, hafter, hvalue⟩ | ⟨⟨undone, hundone⟩, f, hvalue⟩⟩ :=
    hear_inTurn_refused replies h
  · exact ⟨hafter.trans (hundo p hp), _, hvalue⟩
  · -- The rollback itself is refused, which is not told to anybody.
    have hsplit := (hundo p hp).symm.trans hundone
    split at hsplit
    · cases undone <;> cases hsplit
    · obtain ⟨rfl, hs⟩ | ⟨-, hs⟩ := List.singleton_eq_append_iff.mp hsplit
      · obtain ⟨rfl, hafter⟩ := List.cons.inj hs
        exact ⟨hafter, f, hvalue⟩
      · cases hs

/-- The fault of a sequence in which a statement is refused that nothing is undone by. -/
theorem hear_inTurn_fault {s : Statement} {r : Refusal} {f : Fault}
    (h : (s, .error r) ∈ (hear replies (inTurn a steps)).1) (hundo : ∀ p ∈ steps, s ∉ p.undo)
    (hexplain : ∀ p ∈ steps, p.statement = s → p.explain r = f) :
    (hear replies (inTurn a steps)).2 = .error f := by
  obtain ⟨before, after, hsplit⟩ := List.append_of_mem h
  obtain ⟨p, hp, ⟨hs, -, hvalue⟩ | ⟨⟨undone, hundone⟩, -⟩⟩ := hear_inTurn_refused replies hsplit
  · rw [hvalue, hexplain p hp hs.symm]
  · exact absurd (hundone ▸ List.mem_append_right undone List.mem_cons_self) (hundo p hp)

end Hearing

namespace Query

variable {q : Query α} {steps : List Step} {a : α}

theorem run_sendOr_bind {explain : Refusal → Fault} {s : Statement}
    (hq : q.run = inTurn a steps) :
    (sendOr explain s >>= fun _ ↦ q).run = inTurn a (⟨s, explain, []⟩ :: steps) := by
  refine congrArg (Dialogue.ask (I := interface) s) (funext fun reply ↦ ?_)
  cases reply with
  | ok answer => exact hq
  | error r => rfl

/-- A transaction takes the steps of its body between its beginning and its commitment, and is rolled
back from there on. -/
theorem run_transaction {beginning commitment : String} (hq : q.run = inTurn a steps) :
    (transaction beginning commitment q).run = inTurn a
      (⟨.begin, fun r ↦ (Trouble.refused r).toFault beginning, []⟩ ::
        (steps.map (·.undoing [.rollback]) ++
          [⟨.commit, fun r ↦ (Trouble.refused r).toFault commitment, [.rollback]⟩])) := by
  refine run_sendOr_bind ?_
  refine (Dialogue.bind_assoc q.run _ _).trans ?_
  rw [hq]
  refine inTurn_bind ?_ (fun f ↦ rfl) steps
  refine congrArg (Dialogue.ask (I := interface) .commit) (funext fun reply ↦ ?_)
  cases reply with
  | ok answer => rfl
  | error r => rfl

end Query

end Roster.Sql
