import Roster.Proofs.Api.Calls
import Roster.Proofs.Store.Integrity

namespace Roster.Api

open Store (Tables)
open Handler (ofErrand take showing)
open Http (Headers Request Response)

variable {α β : Type} {t : Tables}

theorem perform_ofErrand (e : Errand α) (t : Tables) :
    perform (ofErrand e) t = ((perform e t).1.mapError faultResponse, (perform e t).2) :=
  Dialogue.run_bind (I := Store.interface) Tables.answer e.run _ t

theorem perform_ofErrand_ok {e : Errand α} {a : α} (h : (perform (ofErrand e) t).1 = .ok a) :
    (perform e t).1 = .ok a := by
  rw [perform_ofErrand] at h
  cases he : (perform e t).1 with
  | error f =>
    rw [he] at h
    cases h
  | ok b =>
    rw [he] at h
    cases h
    rfl

theorem perform_ofErrand_error {e : Errand α} {response : Response}
    (h : (perform (ofErrand e) t).1 = .error response) : ∃ f, response = faultResponse f := by
  rw [perform_ofErrand] at h
  cases he : (perform e t).1 with
  | error f =>
    rw [he] at h
    cases h
    exact ⟨f, rfl⟩
  | ok a =>
    rw [he] at h
    cases h

theorem perform_showing_tables (e : Errand α) (view : α → Json) (t : Tables) :
    (perform (showing e view) t).2 = (perform e t).2 := by
  rw [showing, perform_bind, perform_ofErrand]
  rcases perform e t with ⟨r, t'⟩
  cases r <;> rfl

theorem run_reply_tables (h : Handler Reply) (t : Tables) :
    (h.reply.run Tables.answer t).2 = (perform h t).2 := by
  have hrun : h.run.run Tables.answer t = perform h t := rfl
  rw [Handler.reply, Dialogue.run_bind, hrun]
  rcases perform h t with ⟨r, t'⟩
  cases r <;> rfl

/-- The `Authorization` field names a user who is stored and active: by a token that is verified, or
by name and password. -/
inductive Identifies (s : Service) (now : Timestamp) (headers : Headers) (t : Tables) (u : User) :
    Prop
  | bearer {token : String} {claims : Claims}
    (hheader : Credentials.ofHeaders headers = .ok (.bearer token))
    (hverify : s.signer.verify token now = .ok claims)
    (hsubject : UserId.ofText? claims.subject = some u.id)
    (hstored : t.users.get? u.id.text = some u) (hactive : u.active = true)
  | basic {password : String}
    (hheader : Credentials.ofHeaders headers = .ok (.basic u.username password))
    (hverify : s.hasher.verify password u.passwordHash = true)
    (hstored : t.users.get? u.id.text = some u) (hactive : u.active = true)

theorem Identifies.stored {s : Service} {now : Timestamp} {headers : Headers} {u : User}
    (h : Identifies s now headers t u) : t.users.get? u.id.text = some u := by
  cases h <;> assumption

theorem Identifies.congr {s : Service} {now : Timestamp} {headers headers' : Headers} {u : User}
    (h : Identifies s now headers t u)
    (heq : Credentials.ofHeaders headers' = Credentials.ofHeaders headers) :
    Identifies s now headers' t u := by
  cases h with
  | bearer hheader hverify hsubject hstored hactive =>
    exact .bearer (heq.trans hheader) hverify hsubject hstored hactive
  | basic hheader hverify hstored hactive =>
    exact .basic (heq.trans hheader) hverify hstored hactive

/-- Whoever shows a name and password stands in the store under that name and is active. -/
theorem perform_authenticate_ok (ht : t.Integrity) {h : Hasher} {username password : String}
    {u : User} (hu : (perform (ofErrand (Accounts.authenticate h username password)) t).1 = .ok u) :
    u.username = username ∧ h.verify password u.passwordHash = true ∧
      t.users.get? u.id.text = some u ∧ u.active = true := by
  obtain ⟨hfind, hverify, hactive⟩ := Accounts.perform_authenticate_ok (perform_ofErrand_ok hu)
  have hname := List.find?_some (p := fun v : User ↦ v.username == username) hfind
  have hstored := ht.users_sound.mem_values.mp (List.mem_of_find?_eq_some hfind)
  exact ⟨eq_of_beq hname, hverify, hstored, hactive⟩

namespace Service

variable (s : Service) {now : Timestamp} {r : Request} {u : User}

theorem perform_bearer_cases (id : UserId) (t : Tables) :
    (∃ u, t.users.get? id.text = some u ∧ u.active = true ∧ (perform (bearer id) t).1 = .ok u) ∨
    (∀ u, t.users.get? id.text = some u → u.active = false) ∧
      ∃ message, (perform (bearer id) t).1 = .error (Credentials.unauthorized message).response := by
  have hrun : (Accounts.get id).run.run Tables.answer t =
      ((t.users.get? id.text).elim (.error (.userNotFound id.text)) .ok, t) :=
    Accounts.perform_get id t
  rw [bearer, perform_bind, perform, ExceptT.run_mk, Dialogue.run_bind, hrun]
  cases hget : t.users.get? id.text with
  | none =>
    refine .inr ⟨?_, _, rfl⟩
    rintro u ⟨⟩
  | some u =>
    simp only [Option.elim_some, Dialogue.run_done]
    cases hactive : u.active with
    | true => exact .inl ⟨u, rfl, hactive, rfl⟩
    | false =>
      refine .inr ⟨?_, _, rfl⟩
      rintro v ⟨⟩
      exact hactive

theorem perform_bearer_ok {id : UserId} (hu : (perform (bearer id) t).1 = .ok u) :
    t.users.get? id.text = some u ∧ u.active = true := by
  rcases perform_bearer_cases id t with ⟨v, hv, hactive, hok⟩ | ⟨-, message, herror⟩
  · cases hok.symm.trans hu
    exact ⟨hv, hactive⟩
  · cases herror.symm.trans hu

theorem perform_principal_ok (ht : t.Integrity) (hu : (perform (s.principal now r) t).1 = .ok u) :
    Identifies s now r.headers t u := by
  unfold principal at hu
  split at hu
  · cases hu
  · next token hheader =>
    unfold principalOfToken at hu
    split at hu
    · cases hu
    · next claims hverify =>
      split at hu
      · cases hu
      · next id hsubject =>
        obtain ⟨hstored, hactive⟩ := perform_bearer_ok hu
        have hid : id = u.id := UserId.text_inj.mp (ht.users_sound.key_eq_id hstored)
        subst hid
        exact .bearer hheader hverify hsubject hstored hactive
  · next username password hheader =>
    obtain ⟨hname, hverify, hstored, hactive⟩ := perform_authenticate_ok ht hu
    subst hname
    exact .basic hheader hverify hstored hactive

theorem perform_admin_ok (ht : t.Integrity) (hu : (perform (s.admin now r) t).1 = .ok u) :
    Identifies s now r.headers t u ∧ u.admin = true := by
  rw [admin, (s.principal_reads r now).perform_then] at hu
  cases hv : (perform (s.principal now r) t).1 with
  | error x =>
    rw [hv] at hu
    cases hu
  | ok v =>
    rw [hv] at hu
    dsimp only at hu
    split at hu
    · next hadmin =>
      cases hu
      exact ⟨s.perform_principal_ok ht hv, hadmin⟩
    · cases hu

end Service

end Roster.Api
