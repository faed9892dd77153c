import Roster.Enrolment
import Roster.Proofs.Store.Effects

namespace Roster.Enrolment

structure Standing where
  permission : Permission
  since : Timestamp
  changed : Timestamp
  deriving DecidableEq, Repr

abbrev Roll := Kind → UserId → CircleId → Option Standing

structure Task where
  kind : Kind
  action : Action
  now : Timestamp
  userRef : String
  circleRef : String
  permission : Option String
  deriving DecidableEq, Repr

namespace Task

def named (s : String) : Except Fault Permission :=
  (Permission.all.find? (·.name == s)).elim (.error (.badPermission s)) .ok

/-- The permission that a task asks for: it may be left out or blank when attaching. -/
def asked (x : Task) : Except Fault Permission :=
  match x.permission with
  | none => if x.action = .attach then .ok .user else .error (.field "perm" "cannot be blank")
  | some s => if x.action = .attach && Text.blank s then .ok .user else named s

def operation (x : Task) : Operation (Option Member) :=
  match x.action with
  | .attach => (attach x.kind x.now x.userRef x.circleRef x.permission).bind fun o ↦
      .done ⟨o.result.map some, o.attempt⟩
  | .permit => (permit x.kind x.now x.userRef x.circleRef x.permission).bind fun o ↦
      .done ⟨o.result.map some, o.attempt⟩
  | .drop => (drop x.kind x.userRef x.circleRef).bind fun o ↦
      .done ⟨o.result.map fun _ ↦ none, o.attempt⟩

end Task

namespace Roll

variable (r : Roll)

def empty : Roll := fun _ _ _ ↦ none

def put (k : Kind) (u : UserId) (c : CircleId) (s : Option Standing) : Roll :=
  fun k' u' c' ↦ if k' = k ∧ u' = u ∧ c' = c then s else r k' u' c'

@[simp] theorem put_self (k : Kind) (u : UserId) (c : CircleId) (s : Option Standing) :
    r.put k u c s k u c = s :=
  if_pos ⟨rfl, rfl, rfl⟩

def withoutUser (u : UserId) : Roll :=
  fun k u' c ↦ if u' = u then none else r k u' c

def withoutCircle (k : Kind) (c : CircleId) : Roll :=
  fun k' u c' ↦ if k' = k ∧ c' = c then none else r k' u c'

/-- A task as one step, with the records that its references name. A record that is not there is
reported first, then a pair that stands otherwise than it should, then a bad permission. -/
def enrol (x : Task) (user : Option User) (circle : Option Circle) :
    Except Fault (Option Member) × Roll :=
  match user, circle with
  | none, _ => (.error (.userNotFound x.userRef), r)
  | some _, none => (.error (.circleNotFound x.kind x.circleRef), r)
  | some u, some c =>
    match x.action, r x.kind u.id c.id with
    | .attach, some _ => (.error (.alreadyAssigned x.kind), r)
    | .attach, none =>
      match x.asked with
      | .error f => (.error f, r)
      | .ok p => (.ok (some ⟨.new u.id c.id p x.now, u, c⟩),
          r.put x.kind u.id c.id (some ⟨p, x.now, x.now⟩))
    | .permit, none => (.error (.notAssigned x.kind), r)
    | .permit, some s =>
      match x.asked with
      | .error f => (.error f, r)
      | .ok p => (.ok (some ⟨⟨u.id, c.id, p, s.since, x.now⟩, u, c⟩),
          r.put x.kind u.id c.id (some ⟨p, s.since, x.now⟩))
    | .drop, none => (.error (.notAssigned x.kind), r)
    | .drop, some _ => (.ok none, r.put x.kind u.id c.id none)

end Roll

def enrolling (t : Store.Tables) (r : Roll) (x : Task) : Except Fault (Option Member) × Roll :=
  r.enrol x (t.findUser x.userRef) (t.findCircle x.kind x.circleRef)

def transcript {ε ρ σ : Type} (step : σ → ε → ρ × σ) : σ → List ε → List ρ × σ
  | s, [] => ([], s)
  | s, e :: rest =>
    let (result, s) := step s e
    let (results, s) := transcript step s rest
    (result :: results, s)

/-- Steps that match those of a machine through a view of the state, match them one after the
other. -/
theorem transcript_refines {ε ρ σ τ : Type} {step : σ → ε → ρ × σ} {step' : τ → ε → ρ × τ}
    {view : σ → τ} {J : σ → Prop} (hkeep : ∀ s e, J s → J (step s e).2)
    (hstep : ∀ s e, J s → step' (view s) e = ((step s e).1, view (step s e).2)) {s : σ} (hs : J s)
    (events : List ε) :
    transcript step' (view s) events =
      ((transcript step s events).1, view (transcript step s events).2) := by
  induction events generalizing s with
  | nil => rfl
  | cons e rest ih =>
    simp only [transcript, hstep s e hs, ih (hkeep s e hs)]

theorem transcript_keeps {ε ρ σ : Type} {step : σ → ε → ρ × σ} {J : σ → Prop}
    (hkeep : ∀ s e, J s → J (step s e).2) {s : σ} (hs : J s) (events : List ε) :
    J (transcript step s events).2 := by
  induction events generalizing s with
  | nil => exact hs
  | cons e rest ih => exact ih (hkeep s e hs)

end Roster.Enrolment
