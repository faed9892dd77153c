import Roster.Proofs.Dialogue.Interleaving
import Roster.Proofs.Enrolment.Rolls

namespace Roster

theorem Permission.ofName?_eq_find? (s : String) :
    Permission.ofName? s = Permission.all.find? (·.name == s) := by
  unfold ofName?
  split
  · rfl
  · rfl
  · rfl
  · next huser hadmin howner =>
    have h (p : Permission) : (p.name == s) = false := by
      rw [beq_eq_false_iff_ne]
      cases p
      · exact fun h ↦ huser h.symm
      · exact fun h ↦ hadmin h.symm
      · exact fun h ↦ howner h.symm
    simp [all, h]

namespace Enrolment

open Store (Call Tables)

variable {α β : Type}

theorem ask_congr {c : Call} {next next' : Except Fault c.Result → Operation α}
    (h : ∀ r, next r = next' r) :
    Dialogue.ask (I := Store.interface) c next = Dialogue.ask (I := Store.interface) c next' :=
  congrArg _ (funext h)

def stop (f : Fault) : Operation α :=
  .done ⟨.error f, none⟩

def orStop (next : β → Operation α) : Except Fault β → Operation α
  | .error f => stop f
  | .ok b => next b

namespace Task

variable (x : Task)

def write (u : User) (c : Circle) (p : Permission) : Operation (Option Member) :=
  match x.action with
  | .attach => .ask (.insertMembership x.kind (.new u.id c.id p x.now)) fun r ↦
      .done ⟨r.map fun m ↦ some ⟨m, u, c⟩, some ⟨x.kind, x.action, r.isOk⟩⟩
  | _ => .ask (.updatePermission x.kind u.id c.id p x.now) fun r ↦
      .done ⟨r.map fun m ↦ some ⟨m, u, c⟩, some ⟨x.kind, x.action, r.isOk⟩⟩

def judge (u : User) (c : Circle) (row : Option Membership) : Operation (Option Member) :=
  match x.action, row with
  | .attach, some _ => stop (.alreadyAssigned x.kind)
  | .permit, none => stop (.notAssigned x.kind)
  | _, _ => orStop (x.write u c) x.asked

def withBoth (u : User) (c : Circle) : Operation (Option Member) :=
  match x.action with
  | .drop => .ask (.deleteMembership x.kind u.id c.id) fun r ↦
      .done ⟨r.map fun _ ↦ none, some ⟨x.kind, x.action, r.isOk⟩⟩
  | _ => .ask (.findMembership x.kind u.id c.id) (orStop (x.judge u c))

def seekCircle (next : Circle → Operation (Option Member)) : Operation (Option Member) :=
  .ask (.findCircle x.kind x.circleRef) (orStop fun found ↦
    found.elim (stop (.circleNotFound x.kind x.circleRef)) next)

def seek (next : User → Circle → Operation (Option Member)) : Operation (Option Member) :=
  .ask (.findUser x.userRef) (orStop fun found ↦
    found.elim (stop (.userNotFound x.userRef)) fun u ↦ x.seekCircle (next u))

theorem asked_of_attach (hx : x.action = .attach) : x.asked = permissionToAttach x.permission := by
  unfold asked permissionToAttach
  cases x.permission with
  | none => simp only [hx, if_true, Option.filter_none]
  | some s =>
    by_cases hs : Text.blank s = true
    · simp only [hx, hs, decide_true, Bool.true_and, if_true, Option.filter_some, Bool.not_true,
        Bool.false_eq_true, if_false]
    · simp only [hx, hs, decide_true, Bool.and_false, Bool.false_eq_true, if_false, if_true, named,
        Option.filter_some, Bool.not_false, Permission.ofName?_eq_find?]

theorem asked_of_permit (hx : x.action = .permit) : x.asked = permissionToPermit x.permission := by
  have hne : x.action ≠ .attach := by
    rw [hx]
    decide
  unfold asked permissionToPermit
  cases x.permission with
  | none => exact if_neg hne
  | some s =>
    simp only [hne, decide_false, Bool.false_and, Bool.false_eq_true, if_false, named,
      Permission.ofName?_eq_find?]

theorem attempting_eq {action : Action} {before : User × Circle → Errand β} {write : β → Errand α}
    (finish : Outcome α → Operation (Option Member))
    (hfinish : ∀ f, finish ⟨.error f, none⟩ = stop f) :
    (attempting x.kind action (resolve x.kind x.userRef x.circleRef >>= before) write).bind finish =
      x.seek fun u c ↦ (attempting x.kind action (before (u, c)) write).bind finish := by
  refine ask_congr fun r ↦ ?_
  rcases r with f | _ | u
  · exact hfinish _
  · exact hfinish _
  refine ask_congr fun r ↦ ?_
  rcases r with f | _ | c
  · exact hfinish _
  · exact hfinish _
  · rfl

theorem operation_eq : x.operation = x.seek x.withBoth := by
  cases hx : x.action with
  | attach =>
    have hasked := x.asked_of_attach hx
    simp only [operation, hx, attach]
    refine (x.attempting_eq (fun o ↦ .done ⟨o.result.map some, o.attempt⟩) fun _ ↦ rfl).trans
      (congrArg x.seek (funext₂ fun u c ↦ ?_))
    simp only [withBoth, hx]
    refine ask_congr fun r ↦ ?_
    rcases r with f | _ | row
    · rfl
    · simp only [orStop, judge, write, hx, hasked]
      cases permissionToAttach x.permission with
      | error f => rfl
      | ok p => exact ask_congr fun r ↦ by cases r <;> rfl
    · simp only [orStop, judge, hx]
      rfl
  | permit =>
    have hasked := x.asked_of_permit hx
    simp only [operation, hx, permit]
    refine (x.attempting_eq (fun o ↦ .done ⟨o.result.map some, o.attempt⟩) fun _ ↦ rfl).trans
      (congrArg x.seek (funext₂ fun u c ↦ ?_))
    simp only [withBoth, hx]
    refine ask_congr fun r ↦ ?_
    rcases r with f | _ | row
    · rfl
    · simp only [orStop, judge, hx]
      rfl
    · simp only [orStop, judge, write, hx, hasked]
      cases permissionToPermit x.permission with
      | error f => rfl
      | ok p => exact ask_congr fun r ↦ by cases r <;> rfl
  | drop =>
    simp only [operation, hx, drop]
    rw [← bind_pure (resolve x.kind x.userRef x.circleRef)]
    refine (x.attempting_eq (fun o ↦ .done ⟨o.result.map fun _ ↦ none, o.attempt⟩)
      fun _ ↦ rfl).trans (congrArg x.seek (funext₂ fun u c ↦ ?_))
    simp only [withBoth, hx]
    exact ask_congr fun r ↦ by cases r <;> rfl

theorem operation_within : x.operation.Within 4 := by
  have hwrite (u : User) (c : Circle) (p : Permission) : (x.write u c p).Within 1 := by
    unfold write
    split <;> exact fun r ↦ trivial
  have hjudge (u : User) (c : Circle) (row : Option Membership) : (x.judge u c row).Within 1 := by
    unfold judge
    split
    · trivial
    · trivial
    · cases x.asked with
      | error f => trivial
      | ok p => exact hwrite u c p
  have hboth (u : User) (c : Circle) : (x.withBoth u c).Within 2 := by
    unfold withBoth
    split
    · exact fun r ↦ trivial
    · rintro (f | row)
      · trivial
      · exact hjudge u c row
  rw [operation_eq]
  rintro (f | _ | u)
  · trivial
  · trivial
  · rintro (f | _ | c)
    · trivial
    · trivial
    · exact hboth u c

@[simp] theorem withBoth_isDone (u : User) (c : Circle) : (x.withBoth u c).isDone = false := by
  unfold withBoth
  split <;> rfl

@[simp] theorem write_isDone (u : User) (c : Circle) (p : Permission) :
    (x.write u c p).isDone = false := by
  unfold write
  split <;> rfl

end Task

/-- Where an operation can be, given the records that its references name. -/
inductive Stage (t : Tables) (x : Task) : Operation (Option Member) → Prop
  | start : Stage t x x.operation
  | user {u : User} (hu : t.findUser x.userRef = some u) :
    Stage t x (x.seekCircle (x.withBoth u))
  | both {u : User} {c : Circle} (hu : t.findUser x.userRef = some u)
    (hc : t.findCircle x.kind x.circleRef = some c) : Stage t x (x.withBoth u c)
  | write {u : User} {c : Circle} {p : Permission} (hu : t.findUser x.userRef = some u)
    (hc : t.findCircle x.kind x.circleRef = some c) (hx : x.action ≠ .drop) (hp : x.asked = .ok p) :
    Stage t x (x.write u c p)

/-- What a call leads to: another stage and no change, or the end of the operation and one step of
the machine. -/
inductive Stage.Next (t₀ t : Tables) (x : Task) : Operation (Option Member) × Tables → Prop
  | goesOn {d : Operation (Option Member)} (hd : Stage t₀ x d) (hopen : d.isDone = false) :
    Next t₀ t x (d, t)
  | ends {o : Outcome (Option Member)} {t' : Tables} (hs : t.SameRecords t') (ht : t'.Integrity)
    (ho : enrolling t₀ t.roll x = (o.result, t'.roll)) : Next t₀ t x (.done o, t')

variable {t₀ t : Tables} {x : Task} {d : Operation (Option Member)}

namespace Stage

variable {u : User} {c : Circle} {p : Permission}

theorem next_stop {f : Fault} (ht : t.Integrity)
    (hf : enrolling t₀ t.roll x = (.error f, t.roll)) : Next t₀ t x (stop f, t) :=
  .ends ⟨rfl, fun _ ↦ rfl⟩ ht hf

theorem advance_drop (ht : t.Integrity) (hu : t₀.findUser x.userRef = some u)
    (hc : t₀.findCircle x.kind x.circleRef = some c) (hx : x.action = .drop) :
    Next t₀ t x ((x.withBoth u c).advance Tables.answer t) := by
  have hstep : (x.withBoth u c).advance Tables.answer t =
      (.done ⟨(t.deleteMembership x.kind u.id c.id).1.map fun _ ↦ none,
        some ⟨x.kind, x.action, (t.deleteMembership x.kind u.id c.id).1.isOk⟩⟩,
        (t.deleteMembership x.kind u.id c.id).2) := by
    simp only [Task.withBoth, hx]
    rfl
  rw [hstep]
  refine .ends (t.deleteMembership_sameRecords _ _ _) (ht.deleteMembership _ _ _) ?_
  simp only [enrolling, Roll.enrol, hu, hc, hx]
  cases hr : t.roll x.kind u.id c.id with
  | none => simp only [Tables.deleteMembership_of_absent hr, Except.map]
  | some s =>
    obtain ⟨hok, hroll⟩ := Tables.deleteMembership_of_attached ht hr
    simp only [hok, hroll, Except.map]

/-- The others look at the pair first. They end if it stands otherwise than it should or if the
permission is bad. -/
theorem advance_look (ht : t.Integrity) (hu : t₀.findUser x.userRef = some u)
    (hc : t₀.findCircle x.kind x.circleRef = some c) (hx : x.action ≠ .drop) :
    Next t₀ t x ((x.withBoth u c).advance Tables.answer t) := by
  have hstep : (x.withBoth u c).advance Tables.answer t =
      (x.judge u c ((t.of x.kind).memberships.find? (·.isPair u.id c.id)), t) := by
    unfold Task.withBoth
    split
    · contradiction
    · rfl
  have hrow : t.roll x.kind u.id c.id =
      ((t.of x.kind).memberships.find? (·.isPair u.id c.id)).map Membership.standing := rfl
  -- What remains where the pair stands as it should.
  have hpass (henrol : ∀ f, x.asked = .error f → enrolling t₀ t.roll x = (.error f, t.roll)) :
      Next t₀ t x (orStop (x.write u c) x.asked, t) := by
    cases hp : x.asked with
    | error f => exact next_stop ht (henrol f hp)
    | ok p => exact .goesOn (.write hu hc hx hp) (x.write_isDone u c p)
  rw [hstep]
  cases hfind : (t.of x.kind).memberships.find? (·.isPair u.id c.id) with
  | none =>
    rw [hfind, Option.map_none] at hrow
    cases hact : x.action with
    | attach =>
      simp only [Task.judge, hact]
      refine hpass fun f hf ↦ ?_
      simp only [enrolling, Roll.enrol, hu, hc, hact, hrow, hf]
    | permit =>
      simp only [Task.judge, hact]
      refine next_stop ht ?_
      simp only [enrolling, Roll.enrol, hu, hc, hact, hrow]
    | drop => exact absurd hact hx
  | some m =>
    rw [hfind, Option.map_some] at hrow
    cases hact : x.action with
    | attach =>
      simp only [Task.judge, hact]
      refine next_stop ht ?_
      simp only [enrolling, Roll.enrol, hu, hc, hact, hrow]
    | permit =>
      simp only [Task.judge, hact]
      refine hpass fun f hf ↦ ?_
      simp only [enrolling, Roll.enrol, hu, hc, hact, hrow, hf]
    | drop => exact absurd hact hx

/-- The write ends the operation as the pair stands by then, not as it stood at the look. -/
theorem advance_write (ht : t.Integrity) (hs : t₀.SameRecords t)
    (hu : t₀.findUser x.userRef = some u) (hc : t₀.findCircle x.kind x.circleRef = some c)
    (hx : x.action ≠ .drop) (hp : x.asked = .ok p) :
    Next t₀ t x ((x.write u c p).advance Tables.answer t) := by
  cases hact : x.action with
  | attach =>
    have hstep : (x.write u c p).advance Tables.answer t =
        (.done ⟨(t.insertMembership x.kind (.new u.id c.id p x.now)).1.map fun m ↦ some ⟨m, u, c⟩,
          some ⟨x.kind, x.action, (t.insertMembership x.kind (.new u.id c.id p x.now)).1.isOk⟩⟩,
          (t.insertMembership x.kind (.new u.id c.id p x.now)).2) := by
      simp only [Task.write, hact]
      rfl
    rw [hstep]
    refine .ends (t.insertMembership_sameRecords _ _) (ht.insertMembership _ _) ?_
    have hu' := Tables.contains_of_findUser ht.users_sound ((hs.findUser _).trans hu)
    have hc' := Tables.contains_of_findCircle (ht.kinds_sound x.kind).circles_sound
      ((hs.findCircle _ _).trans hc)
    simp only [enrolling, Roll.enrol, hu, hc, hact]
    cases hr : t.roll x.kind u.id c.id with
    | none =>
      obtain ⟨hok, hroll⟩ := Tables.insertMembership_of_absent
        (m := .new u.id c.id p x.now) hu' hc' hr
      simp only [hp, hok, hroll, Except.map]
      rfl
    | some s =>
      simp only [Tables.insertMembership_of_attached (m := .new u.id c.id p x.now) hu' hc' hr,
        Except.map]
  | permit =>
    have hstep : (x.write u c p).advance Tables.answer t =
        (.done ⟨(t.updatePermission x.kind u.id c.id p x.now).1.map fun m ↦ some ⟨m, u, c⟩,
          some ⟨x.kind, x.action, (t.updatePermission x.kind u.id c.id p x.now).1.isOk⟩⟩,
          (t.updatePermission x.kind u.id c.id p x.now).2) := by
      simp only [Task.write, hact]
      rfl
    rw [hstep]
    refine .ends (t.updatePermission_sameRecords _ _ _ _ _) (ht.updatePermission _ _ _ _ _) ?_
    simp only [enrolling, Roll.enrol, hu, hc, hact]
    cases hr : t.roll x.kind u.id c.id with
    | none => simp only [Tables.updatePermission_of_absent hr, Except.map]
    | some s =>
      obtain ⟨hok, hroll⟩ := Tables.updatePermission_of_attached p x.now hr
      simp only [hp, hok, hroll, Except.map]
  | drop => exact absurd hact hx

end Stage

/-- Every call takes an operation to another stage or ends it as the machine would. -/
theorem Stage.advance (hd : Stage t₀ x d) (ht : t.Integrity) (hs : t₀.SameRecords t) :
    Stage.Next t₀ t x (d.advance Tables.answer t) := by
  cases hd with
  | start =>
    have hstep : (x.seek x.withBoth).advance Tables.answer t =
        ((t₀.findUser x.userRef).elim (stop (.userNotFound x.userRef)) fun u ↦
          x.seekCircle (x.withBoth u), t) := by
      rw [← hs.findUser]
      rfl
    rw [x.operation_eq, hstep]
    cases hu : t₀.findUser x.userRef with
    | none => exact next_stop ht (by simp only [enrolling, Roll.enrol, hu])
    | some u => exact .goesOn (.user hu) rfl
  | @user u hu =>
    have hstep : (x.seekCircle (x.withBoth u)).advance Tables.answer t =
        ((t₀.findCircle x.kind x.circleRef).elim (stop (.circleNotFound x.kind x.circleRef))
          (x.withBoth u), t) := by
      rw [← hs.findCircle]
      rfl
    rw [hstep]
    cases hc : t₀.findCircle x.kind x.circleRef with
    | none => exact next_stop ht (by simp only [enrolling, Roll.enrol, hu, hc])
    | some c => exact .goesOn (.both hu hc) (x.withBoth_isDone u c)
  | both hu hc =>
    by_cases hx : x.action = .drop
    · exact advance_drop ht hu hc hx
    · exact advance_look ht hu hc hx
  | write hu hc hx hp => exact advance_write ht hs hu hc hx hp

theorem Stage.isDone (hd : Stage t x d) : d.isDone = false := by
  cases hd with
  | start => rw [x.operation_eq]; rfl
  | user hu => rfl
  | both hu hc => exact x.withBoth_isDone _ _
  | write hu hc hx hp => exact x.write_isDone _ _ _

theorem Stage.run (hd : Stage t₀ x d) (ht : t.Integrity) (hs : t₀.SameRecords t) :
    t.SameRecords (d.run Tables.answer t).2 ∧ (d.run Tables.answer t).2.Integrity ∧
      enrolling t₀ t.roll x =
        ((d.run Tables.answer t).1.result, (d.run Tables.answer t).2.roll) := by
  -- The induction is on the dialogue: the stages are what it goes through, and the last one ends it.
  induction d with
  | done o => cases hd.isDone
  | ask c next ih =>
    have hnext := hd.advance ht hs
    rw [Dialogue.advance] at hnext
    rw [Dialogue.run_ask]
    generalize hz : (next (Tables.answer c t).1, (Tables.answer c t).2) = z at hnext
    cases hnext with
    | goesOn hd' hopen =>
      obtain ⟨hfst, hsnd⟩ := Prod.mk.inj hz
      rw [hsnd]
      exact ih _ (hfst ▸ hd')
    | ends hs' ht' ho =>
      obtain ⟨hfst, hsnd⟩ := Prod.mk.inj hz
      rw [hfst, hsnd]
      exact ⟨hs', ht', ho⟩

end Enrolment

end Roster
