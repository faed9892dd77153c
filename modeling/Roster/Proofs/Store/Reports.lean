import Roster.Proofs.Store.Checks
import Roster.Proofs.Store.Runs

namespace Roster

namespace Sql

open Schema (fieldKey idKey joinKey pairKey)

section Explained

variable (message : String) (k : Kind)

theorem Users.explain_idKey (u : User) : explain u ((idKey "users").refusal message) =
    .conflict s!"User with ID '{u.id.text}' already exists" := by
  rw [explain, Schema.ofRefusal?_idKey]

theorem Users.explain_fieldKey (u : User) (key : User.Key) :
    explain u ((fieldKey "users" key.name).refusal message) =
      .field key.name "is already taken" := by
  rw [explain, Schema.ofRefusal?_fieldKey message "users" (by cases key <;> decide)]
  rfl

theorem Circles.explain_idKey (c : Circle) : explain k c ((idKey k.plural).refusal message) =
    .conflict s!"{k.name} with ID '{c.id.text}' already exists" := by
  rw [explain, Schema.ofRefusal?_idKey]

theorem Circles.explain_fieldKey (c : Circle) (key : Circle.Key) :
    explain k c ((fieldKey k.plural key.text).refusal message) =
      .field key.text "is already taken" := by
  rw [explain, Schema.ofRefusal?_fieldKey message k.plural (by cases key <;> decide)]
  rfl

variable (m : Membership)

theorem Circles.explainOwner_userKey :
    explainOwner k m ((joinKey k "user_id" "users").refusal message) =
      .userNotFound m.userId.text := by
  rw [explainOwner, Schema.ofRefusal?_userKey]

theorem Circles.explainOwner_circleKey : ∃ what, explainOwner k m
    ((joinKey k (Memberships.column k) k.plural).refusal message) = .storage what := by
  rw [explainOwner, Schema.ofRefusal?_circleKey]
  exact ⟨_, rfl⟩

theorem Circles.explainOwner_pairKey :
    ∃ what, explainOwner k m ((pairKey k).refusal message) = .storage what := by
  rw [explainOwner, Schema.ofRefusal?_pairKey]
  exact ⟨_, rfl⟩

theorem Memberships.explain_pairKey :
    explain k m ((pairKey k).refusal message) = .alreadyAssigned k := by
  rw [explain, Schema.ofRefusal?_pairKey]

theorem Memberships.explain_userKey :
    explain k m ((joinKey k "user_id" "users").refusal message) = .userNotFound m.userId.text := by
  rw [explain, Schema.ofRefusal?_userKey]

theorem Memberships.explain_circleKey :
    explain k m ((joinKey k (column k) k.plural).refusal message) =
      .circleNotFound k m.circleId.text := by
  rw [explain, Schema.ofRefusal?_circleKey]

end Explained

/-- The creation of a circle stops at its own row or at that of its owner, if anywhere. -/
theorem Circles.stop?_creation {now : Timestamp} {rows : Rows} (hrows : rows.violated = [])
    (k : Kind) (c : Circle) (owner : Option Membership) :
    (rows.stop? now (creation k c owner) = none ∧
      ((creationStatements k c owner).foldl (Rows.after now) rows).violated = []) ∨
    rows.stop? now (creation k c owner) =
      some (⟨insert k c, explain k c, [.rollback]⟩, (rows.after now (insert k c)).violated) ∨
    ((rows.after now (insert k c)).violated = [] ∧ ∃ m ∈ owner, rows.stop? now (creation k c owner) =
      some (⟨insertMembership k m, explainOwner k m, [.rollback]⟩,
        ((creationStatements k c owner).foldl (Rows.after now) rows).violated)) := by
  have hend (rows : Rows) (hrows : rows.violated = []) (p : Step) (hp : p.statement = .commit) :
      rows.stop? now [p] = none := by
    rw [Rows.stop?_cons, hp, Rows.after_of_none Statement.write?_commit, if_pos hrows]
    rfl
  rw [foldl_creationStatements, creation, List.cons_append, List.cons_append, Rows.stop?_cons,
    Rows.after_of_none Statement.write?_begin, if_pos hrows, List.cons_append, List.nil_append,
    List.cons_append, Rows.stop?_cons]
  by_cases hrow : (rows.after now (insert k c)).violated = []
  · rw [if_pos hrow]
    cases owner with
    | none => exact .inl ⟨hend _ hrow _ rfl, hrow⟩
    | some m =>
      rw [Option.toList_some, List.map_singleton, List.singleton_append, Rows.stop?_cons,
        Option.elim_some]
      by_cases hrow' : ((rows.after now (insert k c)).after now (insertMembership k m)).violated = []
      · rw [if_pos hrow']
        exact .inl ⟨hend _ hrow' _ rfl, hrow'⟩
      · rw [if_neg hrow']
        exact .inr (.inr ⟨hrow, m, rfl, rfl⟩)
  · rw [if_neg hrow]
    exact .inr (.inl rfl)

end Sql

open Sql (Constraint Engine Holdings Query Refusal Rows Statement Violation)
open Sql.Schema (fieldKey joinKey)

namespace Store

def Server.outcome {σ : Type} (e : Engine σ) (st : σ) (c : Call) : Except Fault c.Result :=
  ((Server.answer c).run e.answer st).1

/-- What a server is taken to say of a violation: the same as memory, if memory looks at that, and
otherwise that something is wrong with the storage. -/
def Call.Explains (c : Call) (κ : Constraint) (f : Fault) : Prop :=
  (κ, f) ∈ c.checks ∨ κ ∈ c.overlooked ∧ ∃ what, f = .storage what

/-- What the two stores say to a call: where it would break constraints, each names one of them, and
where it would break a single one, they say the same. -/
structure Reports {σ : Type} (e : Engine σ) (now : Timestamp) (st : σ) (t : Tables) (c : Call) :
    Prop where
  memory : ∀ κ ∈ c.violated now t, κ ∉ c.overlooked → ∃ check,
    firstAmong (c.violated now t) c.checks = some check ∧ (Tables.answer c t).1 = .error check.2
  server : c.violated now t ≠ [] → ∃ κ ∈ c.refused now t, κ ∈ c.violated now t ∧
    ∃ f, c.Explains κ f ∧ Server.outcome e st c = .error f
  alike : ∀ κ, c.violated now t = [κ] → κ ∉ c.overlooked → ∃ f, (κ, f) ∈ c.checks ∧
    (Tables.answer c t).1 = .error f ∧ Server.outcome e st c = .error f
  unviolated : c.violated now t = [] → Server.outcome e st c = (Tables.answer c t).1

section Served

variable {σ : Type} {e : Engine σ} {now : Timestamp} {st : σ} {t : Tables} {c : Call}

structure Served (e : Engine σ) (now : Timestamp) (st : σ) (t : Tables) (c : Call) : Prop where
  kept : c.violated now t = [] → Server.outcome e st c = c.unhindered t
  broken : c.violated now t ≠ [] → ∃ κ ∈ c.refused now t, κ ∈ c.violated now t ∧
    ∃ f, c.Explains κ f ∧ Server.outcome e st c = .error f

/-- Where a single constraint is violated, each store can report no other. -/
theorem Served.reports (hserved : Served e now st t c) (ht : t.Integrity)
    (hputs : c.putsRecord = true) : Reports e now st t c := by
  have hmemory {κ : Constraint} (hκ : κ ∈ c.violated now t) (hseen : κ ∉ c.overlooked) : ∃ check,
      firstAmong (c.violated now t) c.checks = some check ∧
        (Tables.answer c t).1 = .error check.2 := by
    obtain ⟨check, hcheck, hviolated⟩ := ht.exists_check hputs hκ hseen
    obtain ⟨first, hfirst⟩ := exists_firstAmong hcheck hviolated
    exact ⟨first, hfirst, by rw [ht.memory hputs, hfirst, Option.elim_some]⟩
  refine ⟨fun κ ↦ hmemory, hserved.broken, fun κ hκ hseen ↦ ?_, fun hkept ↦ ?_⟩
  · have hmem : κ ∈ c.violated now t := hκ ▸ List.mem_singleton_self κ
    obtain ⟨check, hfound, hanswer⟩ := hmemory hmem hseen
    obtain ⟨hcheck, hviolated⟩ := mem_of_firstAmong hfound
    obtain ⟨κ', -, hviolated', f, hexplains, houtcome⟩ := hserved.broken (List.ne_nil_of_mem hmem)
    rw [hκ, List.mem_singleton] at hviolated hviolated'
    rw [hviolated'] at hexplains
    have hcheck' : (κ, f) ∈ c.checks := hexplains.resolve_right fun h ↦ hseen h.1
    obtain rfl := c.checks_functional hcheck hcheck' hviolated
    exact ⟨f, hcheck', hanswer, houtcome⟩
  · rw [hserved.kept hkept, ht.memory hputs, hkept, firstAmong_nil, Option.elim_none]

theorem run_ite_affected {α : Type} {n : ℕ} {stored : Bool} (h : n = 0 ↔ stored = false) (f : Fault)
    (a : α) : ((if n = 0 then throw f else pure a : Query α).run.run e.answer st).1 =
      if stored = true then .ok a else .error f := by
  cases stored with
  | true =>
    rw [if_neg fun hn ↦ nomatch h.mp hn]
    rfl
  | false =>
    rw [if_pos (h.mpr rfl)]
    rfl

variable (he : e.Follows now st c.writing) (hst : e.rows st = t.rows)

include he hst

theorem Served.of_single {s : Statement} {explain : Refusal → Fault}
    {q : Sql.Answer → Query c.Result} (hwriting : c.writing = [s])
    (hanswer : Server.answer c = (Query.sendOr explain s >>= q).run)
    (hexplain : ∀ κ ∈ c.violated now t, ∀ message, (κ, explain (κ.refusal message)) ∈ c.checks)
    (hgoes : ∀ a st', a.affected = t.rows.affected s →
      ((q a).run.run e.answer st').1 = c.unhindered t) : Served e now st t c := by
  have hviolated : c.violated now t = ((e.rows st).after now s).violated := by
    rw [Call.violated, hwriting, List.foldl_cons, List.foldl_nil, hst]
  rw [hwriting] at he
  constructor
  · intro hkept
    obtain ⟨a, st', haffected, hrun⟩ := he.run_sendOr (hviolated ▸ hkept) explain q
    rw [Server.outcome, hanswer, hrun]
    exact hgoes a st' (hst ▸ haffected)
  · intro hbroken
    obtain ⟨κ, hκ, message, hrun⟩ := he.run_sendOr_refused (hviolated ▸ hbroken) explain q
    rw [← hviolated] at hκ
    refine ⟨κ, ?_, hκ, _, .inl (hexplain κ hκ message), ?_⟩
    · rwa [Call.refused, hwriting, Rows.refused_singleton, ← hst, ← hviolated]
    · rw [Server.outcome, hanswer, hrun]

theorem Served.of_steps {a : c.Result} {steps : List Sql.Step}
    (hwriting : c.writing = steps.map (·.statement))
    (hanswer : Server.answer c = Sql.inTurn a steps) (hgoes : c.unhindered t = .ok a)
    (hnone : t.rows.stop? now steps = none → c.violated now t = [])
    (hsome : ∀ p κs, t.rows.stop? now steps = some (p, κs) → ∀ κ ∈ κs, κ ∈ c.violated now t ∧
      ∀ message, c.Explains κ (p.explain (κ.refusal message))) :
    Served e now st t c := by
  rw [hwriting] at he
  obtain ⟨hkept, hbroken⟩ := he.run_inTurn a
  rw [hst] at hkept hbroken
  have hrefused : c.refused now t = (t.rows.stop? now steps).elim [] (·.2) := by
    rw [Call.refused, hwriting, Rows.refused_eq_stop?]
  cases hstop : t.rows.stop? now steps with
  | none =>
    refine ⟨fun _ ↦ ?_, fun hviolated ↦ absurd (hnone hstop) hviolated⟩
    rw [Server.outcome, hanswer, hkept hstop, hgoes]
  | some stop =>
    obtain ⟨κ, hκ, message, hrun⟩ := hbroken stop.1 stop.2 hstop
    obtain ⟨hviolated, hexplains⟩ := hsome stop.1 stop.2 hstop κ hκ
    refine ⟨fun hnil ↦ ?_, fun _ ↦ ⟨κ, ?_, hviolated, _, hexplains message, ?_⟩⟩
    · rw [hnil] at hviolated
      cases hviolated
    · rw [hrefused, hstop]
      exact hκ
    · rw [Server.outcome, hanswer, hrun]

end Served

section Calls

variable {σ : Type} {e : Engine σ} {now : Timestamp} {st : σ} {t : Tables} (ht : t.Integrity)

include ht

theorem served_createUser (u : User) (he : e.Follows now st (Call.createUser u).writing)
    (hst : e.rows st = t.rows) : Served e now st t (.createUser u) := by
  have hanswer : Server.answer (.createUser u) =
      (Query.sendOr (Sql.Users.explain u) (Sql.Users.insert u) >>= fun _ ↦ pure u).run := rfl
  refine .of_single he hst rfl hanswer (fun κ hκ message ↦ ?_) fun a st' _ ↦ rfl
  rcases (ht.mem_violated_createUser u).mp hκ with ⟨rfl, -⟩ | ⟨key, rfl, -⟩
  · rw [Sql.Users.explain_idKey]
    exact List.mem_cons_self
  · rw [Sql.Users.explain_fieldKey]
    exact List.mem_cons_of_mem _ (Call.userCheck_mem key)

theorem served_updateUser (u : User) (he : e.Follows now st (Call.updateUser u).writing)
    (hst : e.rows st = t.rows) : Served e now st t (.updateUser u) := by
  have hanswer : Server.answer (.updateUser u) =
      (Query.sendOr (Sql.Users.explain u) (Sql.Users.replace u) >>= fun a ↦
        if a.affected = 0 then throw (.userNotFound u.id.text) else pure u).run := rfl
  refine .of_single he hst rfl hanswer (fun κ hκ message ↦ ?_)
    fun a st' haffected ↦ run_ite_affected ?_ _ _
  · obtain ⟨key, rfl, -⟩ := (ht.mem_violated_updateUser u).mp hκ
    rw [Sql.Users.explain_fieldKey]
    exact Call.userCheck_mem key
  · rw [haffected, Tables.rows, Holdings.affected_replaceUser, ht.lacks_user_iff]

theorem served_updateCircle (k : Kind) (c : Circle)
    (he : e.Follows now st (Call.updateCircle k c).writing) (hst : e.rows st = t.rows) :
    Served e now st t (.updateCircle k c) := by
  have hanswer : Server.answer (.updateCircle k c) =
      (Query.sendOr (Sql.Circles.explain k c) (Sql.Circles.replace k c) >>= fun a ↦
        if a.affected = 0 then throw (.circleNotFound k c.id.text) else pure c).run := rfl
  refine .of_single he hst rfl hanswer (fun κ hκ message ↦ ?_)
    fun a st' haffected ↦ run_ite_affected ?_ _ _
  · obtain ⟨key, rfl, -⟩ := (ht.mem_violated_updateCircle k c).mp hκ
    rw [Sql.Circles.explain_fieldKey]
    exact Call.circleCheck_mem k key
  · rw [haffected, Tables.rows, Holdings.affected_replaceCircle, ht.lacks_circle_iff]

theorem served_insertMembership (k : Kind) (m : Membership)
    (he : e.Follows now st (Call.insertMembership k m).writing) (hst : e.rows st = t.rows) :
    Served e now st t (.insertMembership k m) := by
  have hanswer : Server.answer (.insertMembership k m) =
      (Query.sendOr (Sql.Memberships.explain k m) (Sql.Circles.insertMembership k m) >>=
        fun _ ↦ pure m).run := rfl
  have hchecks := Call.mem_checks_insertMembership k m
  refine .of_single he hst rfl hanswer (fun κ hκ message ↦ ?_) fun a st' _ ↦ rfl
  rcases (ht.mem_violated_insertMembership k m).mp hκ with ⟨rfl, -⟩ | ⟨rfl, -⟩ | ⟨rfl, -⟩
  · rw [Sql.Memberships.explain_pairKey]
    exact (hchecks _).mpr (.inr (.inr rfl))
  · rw [Sql.Memberships.explain_userKey]
    exact (hchecks _).mpr (.inl rfl)
  · rw [Sql.Memberships.explain_circleKey]
    exact (hchecks _).mpr (.inr (.inl rfl))

/-- A circle is stored in a transaction: what its own row would break stops it at once, and the row
of its owner comes only after that. -/
theorem served_createCircle (k : Kind) (c : Circle) (owner : Option Membership)
    (he : e.Follows now st (Call.createCircle k c owner).writing) (hst : e.rows st = t.rows) :
    Served e now st t (.createCircle k c owner) := by
  have hsound : t.rows.violated = [] := ht.holdings_sound.violated_eq_nil
  have hchecks := Call.mem_checks_createCircle k c owner
  have hviolated {κ : Constraint} : κ ∈ (Call.createCircle k c owner).violated now t ↔ _ :=
    ht.mem_violated_createCircle k c owner
  refine .of_steps he hst (Sql.Circles.creation_statements k c owner).symm
    (Sql.Circles.run_create k c owner) rfl (fun hnone ↦ ?_) fun p κs hsome κ hκ ↦ ?_
  · rcases Sql.Circles.stop?_creation hsound k c owner with
      ⟨-, hkept⟩ | hstop | ⟨-, m, -, hstop⟩
    · exact hkept
    · cases hstop.symm.trans hnone
    · cases hstop.symm.trans hnone
  · rcases Sql.Circles.stop?_creation hsound k c owner with
      ⟨hstop, -⟩ | hstop | ⟨hrow, m, hm, hstop⟩
    · cases hstop.symm.trans hsome
    · cases hstop.symm.trans hsome
      rcases (ht.mem_violated_insertCircle k c).mp hκ with ⟨rfl, hid⟩ | ⟨key, rfl, htaken⟩
      · refine ⟨hviolated.mpr (.inl ⟨rfl, hid⟩), fun message ↦ .inl ?_⟩
        refine (hchecks _).mpr (.inr (.inl ?_))
        exact congrArg (Prod.mk _) (Sql.Circles.explain_idKey message k c)
      · refine ⟨hviolated.mpr (.inr (.inl ⟨key, rfl, htaken⟩)), fun message ↦ .inl ?_⟩
        refine (hchecks _).mpr (.inr (.inr ⟨key, ?_⟩))
        exact congrArg (Prod.mk _) (Sql.Circles.explain_fieldKey message k c key)
    · cases hstop.symm.trans hsome
      -- The own row of the circle breaks nothing, so what is broken is about the row of the owner.
      have hfree {κ : Constraint} (hκ : κ ∈ (t.rows.after now (Sql.Circles.insert k c)).violated) :
          False := List.not_mem_nil (hrow ▸ hκ)
      have hnew : (t.of k).circles.contains c.id.text ≠ true := fun hid ↦
        hfree ((ht.mem_violated_insertCircle k c).mpr (.inl ⟨rfl, hid⟩))
      refine ⟨hκ, fun message ↦ ?_⟩
      rcases hviolated.mp hκ with ⟨-, hid⟩ | ⟨key, rfl, htaken⟩ | ⟨rfl, n, hn, hattached⟩ |
        ⟨rfl, -⟩ | ⟨rfl, n, hn, hne, -⟩
      · exact absurd hid hnew
      · exact (hfree ((ht.mem_violated_insertCircle k c).mpr (.inr ⟨key, rfl, htaken⟩))).elim
      · have hne : n.circleId ≠ c.id := fun hfits ↦
          hnew (hfits ▸ ht.contains_of_isAttached hattached)
        exact .inr ⟨(Call.mem_overlooked hn hne).1, Sql.Circles.explainOwner_pairKey message k m⟩
      · refine .inl ((hchecks _).mpr (.inl ⟨m, hm, ?_⟩))
        exact congrArg (Prod.mk _) (Sql.Circles.explainOwner_userKey message k m)
      · exact .inr ⟨(Call.mem_overlooked hn hne).2, Sql.Circles.explainOwner_circleKey message k m⟩

theorem reports {c : Call} (he : e.Follows now st c.writing) (hst : e.rows st = t.rows)
    (hputs : c.putsRecord = true) : Reports e now st t c := by
  refine Served.reports ?_ ht hputs
  cases c with
  | createUser u => exact served_createUser ht u he hst
  | updateUser u => exact served_updateUser ht u he hst
  | createCircle k c owner => exact served_createCircle ht k c owner he hst
  | updateCircle k c => exact served_updateCircle ht k c he hst
  | insertMembership k m => exact served_insertMembership ht k m he hst
  | _ => cases hputs

end Calls

/-- Constraints are told from their names, and a violation of any that is declared is reported as in
memory, where no other constraint is violated with it and memory does not overlook it. What is asked
of the server is asked of the statements of the call alone, in the states in which they come. -/
theorem violations_reported_alike :
    Violation.NamingScheme ∧
    (∀ r : Refusal, r.code ≠ Violation.uniqueCode → r.code ≠ Violation.referenceCode →
      Violation.ofRefusal? r = none) ∧
    (∀ κ ∈ Sql.Schema.constraints, ∀ message,
      Violation.ofRefusal? (κ.refusal message) = κ.violation?) ∧
    (∀ t : Tables, t.Integrity → ∀ k user circle p changed now,
      (Call.updatePermission k user circle p changed).violated now t = []) ∧
    (∀ c : Call, c.OwnerFits → c.overlooked = []) ∧
    ∀ {σ : Type} (e : Engine σ) (now : Timestamp) (st : σ) (t : Tables) (c : Call),
      e.Follows now st c.writing → e.rows st = t.rows → t.Integrity → c.putsRecord = true →
        Reports e now st t c :=
  ⟨Violation.namingScheme, fun _ ↦ Violation.ofRefusal?_of_not_breach,
    fun _ hκ message ↦ Sql.Schema.ofRefusal?_refusal message hκ,
    fun _ ht k user circle p changed _ ↦ ht.violated_updatePermission k user circle p changed,
    fun _ ↦ Call.overlooked_eq_nil,
    fun _ _ _ _ _ he hst ht hputs ↦ reports ht he hst hputs⟩

theorem violations_reported_alike_of_ada :
    let ada : User := .new ⟨"u", by decide⟩ ⟨0, 0⟩ "ada" "ada@example.org" ""
    let other : User :=
      { User.new ⟨"v", by decide⟩ ⟨1, 0⟩ "ada" "ada@example.com" "" with slug := "other" }
    let t := Tables.empty.after [.createUser ada]
    let c := Call.createUser other
    let e := Engine.strict ⟨2, 0⟩
    e.Follows ⟨2, 0⟩ t.rows c.writing ∧ t.Integrity ∧ c.OwnerFits ∧
      c.violated ⟨2, 0⟩ t = [fieldKey "users" "username"] ∧
      (Tables.answer c t).1 = .error (.field "username" "is already taken") ∧
      Server.outcome e t.rows c = .error (.field "username" "is already taken") := by
  intro ada other t c e
  have hfollows : e.Follows ⟨2, 0⟩ t.rows c.writing := Engine.strict_follows _ _
  have ht : t.Integrity := Tables.Integrity.empty.after _ (by simp [Call.OwnerFits])
  have hanswer : (Tables.answer c t).1 = .error (.field "username" "is already taken") := by
    decide
  have hid : t.users.contains other.id.text = false := by decide
  have hfield (key : User.Key) :
      other.get key ∈ t.users.values.map (·.get key) ↔ key = .username := by
    cases key <;> decide
  have hviolated : c.violated ⟨2, 0⟩ t = [fieldKey "users" "username"] := by
    refine Rows.violated_eq_singleton fun κ ↦ (ht.mem_violated_createUser other).trans ?_
    simp only [hid, Bool.false_eq_true, and_false, false_or, hfield, exists_eq_right, User.Key.name]
  obtain ⟨-, -, -, -, hnone, hreports⟩ := violations_reported_alike
  have hseen : fieldKey "users" "username" ∉ c.overlooked := by
    rw [hnone c trivial]
    exact List.not_mem_nil
  obtain ⟨f, -, hmemory, houtcome⟩ :=
    (hreports e ⟨2, 0⟩ t.rows t c hfollows rfl ht rfl).alike _ hviolated hseen
  obtain rfl : Fault.field "username" "is already taken" = f :=
    Except.error.inj (hanswer.symm.trans hmemory)
  exact ⟨hfollows, ht, trivial, hviolated, hanswer, houtcome⟩

/-- Where several constraints are violated at once, the stores may name different ones: a server is
stopped by the row of a circle before it comes to the row of the owner. And a row of an owner may
name another circle, which is looked for by a server only. -/
theorem violations_not_reported_alike :
    let core : Circle := .new ⟨"g", by decide⟩ ⟨0, 0⟩ "core"
    let other : Circle := { Circle.new ⟨"h", by decide⟩ ⟨1, 0⟩ "other" with slug := "core" }
    let owner : Membership := .new ⟨"u", by decide⟩ other.id .owner ⟨1, 0⟩
    let t := Tables.empty.after [.createCircle .group core none]
    let c := Call.createCircle .group other (some owner)
    let ada : User := .new ⟨"u", by decide⟩ ⟨0, 0⟩ "ada" "ada@example.org" ""
    let stray : Membership := .new ada.id other.id .owner ⟨1, 0⟩
    let t' := Tables.empty.after [.createUser ada]
    let c' := Call.createCircle .group core (some stray)
    let e := Engine.strict ⟨2, 0⟩
    e.Follows ⟨2, 0⟩ t.rows c.writing ∧ t.Integrity ∧ c.OwnerFits ∧
      (Tables.answer c t).1 = .error (.userNotFound "u") ∧
      Server.outcome e t.rows c = .error (.field "slug" "is already taken") ∧
      e.Follows ⟨2, 0⟩ t'.rows c'.writing ∧ t'.Integrity ∧ (Tables.answer c' t').1 = .ok core ∧
      c'.violated ⟨2, 0⟩ t' = [joinKey .group "group_id" "groups"] ∧
      ∃ what, Server.outcome e t'.rows c' = .error (.storage what) := by
  intro core other owner t c ada stray t' c' e
  have ht : t.Integrity := Tables.Integrity.empty.after _ (by simp [Call.OwnerFits])
  have ht' : t'.Integrity := Tables.Integrity.empty.after _ (by simp [Call.OwnerFits])
  have hfits : c.OwnerFits := by simp [c, Call.OwnerFits, owner, Membership.new]
  have hfollows : e.Follows ⟨2, 0⟩ t.rows c.writing := Engine.strict_follows _ _
  have hfollows' : e.Follows ⟨2, 0⟩ t'.rows c'.writing := Engine.strict_follows _ _
  have hid : (t.of .group).circles.contains other.id.text = false := by decide
  have hfield (key : Circle.Key) :
      other.get key ∈ (t.of .group).circles.values.map (·.get key) ↔ key = .slug := by
    cases key <;> decide
  have hrow (κ : Constraint) :
      κ ∈ (t.rows.after ⟨2, 0⟩ (Sql.Circles.insert .group other)).violated ↔
        κ = fieldKey "groups" "slug" := by
    rw [ht.mem_violated_insertCircle]
    simp only [hid, hfield, Bool.false_eq_true, and_false, false_or, exists_eq_right]
    rfl
  have houtcome : Server.outcome e t.rows c = .error (.field "slug" "is already taken") := by
    have hviolated : fieldKey "groups" "slug" ∈ c.violated ⟨2, 0⟩ t :=
      (ht.mem_violated_createCircle .group other (some owner)).mpr
        (.inr (.inl ⟨.slug, rfl, (hfield .slug).mpr rfl⟩))
    obtain ⟨κ, hrefused, -, f, hexplains, houtcome⟩ :=
      (reports ht hfollows rfl rfl).server (List.ne_nil_of_mem hviolated)
    rw [ht.refused_createCircle _ (List.ne_nil_of_mem ((hrow _).mpr rfl)), hrow] at hrefused
    have hcheck : (κ, f) ∈ c.checks := by
      refine hexplains.resolve_right fun h ↦ ?_
      rw [Call.overlooked_eq_nil hfits] at h
      exact List.not_mem_nil h.1
    have hslug : Call.circleCheck .group .slug ∈ c.checks :=
      (Call.mem_checks_createCircle .group other (some owner) _).mpr (.inr (.inr ⟨.slug, rfl⟩))
    have hf : f = .field "slug" "is already taken" :=
      congrArg Prod.snd (c.checks_functional hcheck hslug hrefused)
    rw [houtcome, hf]
  have hviolated : c'.violated ⟨2, 0⟩ t' = [joinKey .group "group_id" "groups"] := by
    have huser : t'.users.contains stray.userId.text = true := by decide
    have hempty (id : CircleId) : (t'.of .group).circles.contains id.text = false := rfl
    have hfree (key : Circle.Key) :
        core.get key ∉ (t'.of .group).circles.values.map (·.get key) := List.not_mem_nil
    have hunattached : t'.isAttached .group stray.userId stray.circleId = false := by decide
    have hne : stray.circleId ≠ core.id := by decide
    refine Rows.violated_eq_singleton fun κ ↦
      (ht'.mem_violated_createCircle .group core (some stray)).trans ?_
    simp only [hempty, hfree, hunattached, huser, hne, Option.mem_def, Option.some.injEq,
      exists_eq_left', ne_eq, Bool.false_eq_true, Bool.true_eq_false, not_false_eq_true, and_false,
      and_true, exists_false, false_or]
    rfl
  obtain ⟨κ, -, hκ, f, hexplains, hstray⟩ :=
    (reports ht' hfollows' rfl rfl).server (by rw [hviolated]; exact List.cons_ne_nil _ _)
  rw [hviolated, List.mem_singleton] at hκ
  subst hκ
  have hunchecked : (joinKey .group "group_id" "groups", f) ∉ c'.checks :=
    Call.not_mem_checks_of_overlooked (Call.mem_overlooked rfl (by decide)).2 f
  obtain ⟨-, what, rfl⟩ := hexplains.resolve_left hunchecked
  exact ⟨hfollows, ht, hfits, by decide, houtcome, hfollows', ht', by decide,
    hviolated, what, hstray⟩

end Store

end Roster
