import Roster.Proofs.Dialogue.Calls
import Roster.Proofs.Store.Effects

namespace Roster

open Store (Call Tables)

variable {ε α β : Type}

/-- Whatever the store answers, every call satisfies `P`, and the value of a success `Q`. -/
structure Puts (P : Call → Prop) (e : ExceptT ε (Dialogue Store.interface) α)
    (Q : α → Prop := fun _ ↦ True) : Prop where
  asks : e.run.Asks P fun
    | .ok a => Q a
    | .error _ => True

def perform (e : ExceptT ε (Dialogue Store.interface) α) (t : Tables) : Except ε α × Tables :=
  e.run.run Tables.answer t

def Probes (c : Call) : Prop :=
  c.isProbe = true

def Reads (c : Call) : Prop :=
  c.readsRecords = true

def Looks (c : Call) : Prop :=
  c.isWrite = false

namespace Puts

variable {P P' : Call → Prop} {Q Q' : α → Prop} {R : β → Prop}
variable {e : ExceptT ε (Dialogue Store.interface) α}

theorem pure {a : α} (h : Q a) : Puts P (pure a : ExceptT ε (Dialogue Store.interface) α) Q := ⟨h⟩

theorem throw (x : ε) : Puts P (throw x : ExceptT ε (Dialogue Store.interface) α) Q := ⟨trivial⟩

theorem bind {f : α → ExceptT ε (Dialogue Store.interface) β} (he : Puts P e Q)
    (hf : ∀ a, Q a → Puts P (f a) R) : Puts P (e >>= f) R :=
  ⟨he.asks.bind fun
    | .ok a => fun h ↦ (hf a h).asks
    | .error _ => fun _ ↦ trivial⟩

theorem ask {c : Call} (hc : P c) : Puts P (Errand.ask c) :=
  ⟨hc, fun r ↦ by cases r <;> trivial⟩

theorem ofExcept (x : Except Fault α) : Puts P (Errand.ofExcept x) :=
  ⟨by cases x <;> trivial⟩

theorem orFail (f : Fault) (a : Option α) : Puts P (Errand.orFail f a) := by
  cases a <;> exact ⟨trivial⟩

theorem requireNone (errors : FieldErrors) : Puts P (Errand.requireNone errors) := by
  unfold Errand.requireNone
  split <;> exact ⟨trivial⟩

theorem requireNone_eq_nil (errors : FieldErrors) :
    Puts P (Errand.requireNone errors) fun _ ↦ errors = [] := by
  unfold Errand.requireNone
  split
  · next h => exact .pure (List.isEmpty_iff.mp h)
  · exact .throw _

theorem mono (he : Puts P e Q) (hP : ∀ c, P c → P' c) (hQ : ∀ a, Q a → Q' a) : Puts P' e Q' := by
  refine ⟨he.asks.mono hP ?_⟩
  rintro (x | a) h
  · exact h
  · exact hQ a h

theorem reads (he : Puts Probes e Q) : Puts Reads e Q :=
  he.mono (fun _ ↦ Call.readsRecords_of_isProbe) fun _ ↦ id

theorem looks (he : Puts Reads e Q) : Puts Looks e Q :=
  he.mono (fun _ ↦ Call.isWrite_of_readsRecords) fun _ ↦ id

theorem perform_keeps {J : Tables → Prop} (hkeep : ∀ c t, P c → J t → J (Tables.answer c t).2)
    (he : Puts P e Q) {t : Tables} (ht : J t) : J (perform e t).2 :=
  he.asks.run_keeps hkeep ht

theorem perform_looks (he : Puts Looks e Q) (t : Tables) : (perform e t).2 = t :=
  perform_keeps (J := (· = t)) (fun _ t' hc h ↦ (Tables.answer_of_not_isWrite t' hc).trans h) he rfl

theorem perform_reads (he : Puts Reads e Q) (t : Tables) : (perform e t).2 = t :=
  he.looks.perform_looks t

end Puts

theorem perform_ask (c : Call) (t : Tables) : perform (Errand.ask c) t = Tables.answer c t := rfl

theorem perform_orFail (f : Fault) (a : Option α) (t : Tables) :
    perform (Errand.orFail f a) t = (a.elim (.error f) .ok, t) := by
  cases a <;> rfl

theorem perform_bind (e : ExceptT ε (Dialogue Store.interface) α)
    (f : α → ExceptT ε (Dialogue Store.interface) β) (t : Tables) :
    perform (e >>= f) t = match perform e t with
      | (.ok a, t') => perform (f a) t'
      | (.error x, t') => (.error x, t') := by
  have h : perform (e >>= f) t =
      (ExceptT.bindCont f (perform e t).1).run Tables.answer (perform e t).2 := by
    have h := Dialogue.run_bind (I := Store.interface) Tables.answer e.run (ExceptT.bindCont f) t
    exact h
  rw [h]
  rcases perform e t with ⟨r, t'⟩
  cases r <;> rfl

theorem perform_bind_ok {e : ExceptT ε (Dialogue Store.interface) α}
    {f : α → ExceptT ε (Dialogue Store.interface) β} {t t' : Tables} {a : α}
    (h : perform e t = (.ok a, t')) : perform (e >>= f) t = perform (f a) t' := by
  rw [perform_bind, h]

theorem perform_bind_error {e : ExceptT ε (Dialogue Store.interface) α}
    {f : α → ExceptT ε (Dialogue Store.interface) β} {t t' : Tables} {x : ε}
    (h : perform e t = (.error x, t')) : perform (e >>= f) t = (.error x, t') := by
  rw [perform_bind, h]

/-- An errand goes on with what there is, or ends with a fault if there is none. -/
theorem perform_bind_elim {γ : Type} {e : ExceptT ε (Dialogue Store.interface) α}
    {f : α → ExceptT ε (Dialogue Store.interface) β} {t : Tables} {o : Option γ} {x : ε} {g : γ → α}
    (h : perform e t = (o.elim (.error x) fun c ↦ .ok (g c), t)) :
    perform (e >>= f) t = o.elim (.error x, t) fun c ↦ perform (f (g c)) t := by
  cases o with
  | none => exact perform_bind_error h
  | some c => exact perform_bind_ok h

theorem elim_error_eq_ok_iff {o : Option α} {x : ε} {f : α → Except ε β} {b : β} :
    o.elim (.error x) f = .ok b ↔ ∃ a, o = some a ∧ f a = .ok b := by
  cases o <;> simp

theorem perform_requireNone (errors : FieldErrors) (f : Unit → Errand α) (t : Tables) :
    perform (Errand.requireNone errors >>= f) t =
      if errors = [] then perform (f ()) t else (.error (.invalid errors), t) := by
  cases errors <;> rfl

theorem Puts.perform_then {e : ExceptT ε (Dialogue Store.interface) α} {Q : α → Prop}
    (he : Puts Reads e Q) (f : α → ExceptT ε (Dialogue Store.interface) β) (t : Tables) :
    perform (e >>= f) t = match (perform e t).1 with
      | .ok a => perform (f a) t
      | .error x => (.error x, t) := by
  have ht := he.perform_reads t
  rw [perform_bind]
  rcases h : perform e t with ⟨r, t'⟩
  rw [h] at ht
  subst ht
  cases r <;> rfl

theorem Puts.perform_value {e : ExceptT ε (Dialogue Store.interface) α} {P : Call → Prop}
    {Q : α → Prop} (he : Puts P e Q) {t : Tables} {a : α} (h : (perform e t).1 = .ok a) : Q a := by
  have hvalue : match (perform e t).1 with
    | .ok a => Q a
    | .error _ => True := he.asks.run_value t
  rw [h] at hvalue
  exact hvalue

/-- What changes tables behind a step that only reads has got past this step. -/
theorem Puts.ok_of_changed {e : ExceptT ε (Dialogue Store.interface) α} {Q : α → Prop}
    (he : Puts Reads e Q) {f : α → ExceptT ε (Dialogue Store.interface) β} {t : Tables}
    (h : (perform (e >>= f) t).2 ≠ t) :
    ∃ a, (perform e t).1 = .ok a ∧ (perform (e >>= f) t) = perform (f a) t := by
  rw [he.perform_then] at h ⊢
  cases hv : (perform e t).1 with
  | error x =>
    rw [hv] at h
    exact absurd rfl h
  | ok a => exact ⟨a, rfl, rfl⟩

end Roster
