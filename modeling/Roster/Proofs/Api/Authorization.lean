import Roster.Proofs.Api.Access
import Roster.Proofs.Api.Routing
import Roster.Proofs.Json.Shape
import Roster.Proofs.Store.Runs

namespace Roster.Api

open Store (Tables)
open Handler (showing take)
open Http (Request)

variable {α β : Type} {t : Tables} {u : User}

/-- The record of one user differs at most, and in it what users may change about themselves: name,
email, full name, password and the time of the last change. -/
structure OnlyProfile (u : User) (t t' : Tables) : Prop where
  groups : t'.groups = t.groups
  teams : t'.teams = t.teams
  others : ∀ key, key ≠ u.id.text → t'.users.get? key = t.users.get? key
  own : ∃ v, t'.users.get? u.id.text = some v ∧ v.id = u.id ∧ v.slug = u.slug ∧
    v.active = u.active ∧ v.admin = u.admin ∧ v.createdAt = u.createdAt

def KeepsStatus (c : Accounts.Change) : Prop :=
  c.slug = none ∧ c.active = none ∧ c.admin = none

/-- Whatever keys a body carries, it asks for nothing else about a profile. -/
theorem profileChange_keepsStatus : Body.profileChange.Builds KeepsStatus := by
  refine .seq (.seq (.seq (.map (.any _) ?_)))
  exact fun username _ email fullname password ↦ ⟨rfl, rfl, rfl⟩

theorem body_keepsStatus {r : Request} {c : Accounts.Change}
    (h : Input.body Body.profileChange r = .ok c) : KeepsStatus c := by
  unfold Input.body at h
  split at h
  · cases h
  · split at h
    · cases h
    · cases hd : Json.decodeText Body.profileChange.decode r.body with
      | error m =>
        rw [hd] at h
        cases h
      | ok c' =>
        rw [hd] at h
        cases h
        exact profileChange_keepsStatus.decodeText hd

theorem perform_update_onlyProfile (h : Hasher) (f : Fresh) {c : Accounts.Change}
    (hc : KeepsStatus c) (hu : t.users.get? u.id.text = some u)
    (hne : (perform (Accounts.update h f u.id.text c) t).2 ≠ t) :
    OnlyProfile u t (perform (Accounts.update h f u.id.text c) t).2 := by
  have hfind : t.findUser u.id.text = some u := by
    rw [Tables.findUser, hu]
  rw [Accounts.perform_update, hfind] at hne ⊢
  dsimp only at hne ⊢
  cases hv : (perform (Accounts.revision h f c u) t).1 with
  | error x =>
    rw [hv] at hne
    exact absurd rfl hne
  | ok v =>
    have hrevises := (Accounts.revision_reads h f c u).perform_value hv
    rw [hv] at hne
    dsimp only at hne ⊢
    rcases t.updateUser_cases v with ⟨x, hx⟩ | ⟨-, -, hx⟩
    · rw [hx] at hne
      exact absurd rfl hne
    · rw [hx, hrevises.id]
      refine ⟨rfl, rfl, fun key hkey ↦ ?_, v, ?_, hrevises.id, hrevises.slug hc.1,
        hrevises.active hc.2.1, hrevises.admin hc.2.2, hrevises.createdAt⟩
      · rw [Store.Table.get?_insert, if_neg hkey]
      · rw [Store.Table.get?_insert, if_pos rfl]

namespace Service

variable (s : Service) (f : Fresh) (r : Request)

theorem changeProfile_changed (ht : t.Integrity) (h : (perform (s.changeProfile f r) t).2 ≠ t) :
    ∃ u, Identifies s f.now r.headers t u ∧
      OnlyProfile u t (perform (s.changeProfile f r) t).2 := by
  obtain ⟨u, hu, hrest⟩ := (s.principal_reads r f.now).ok_of_changed h
  have hid := s.perform_principal_ok ht hu
  have hbody (b : Except Http.Response Accounts.Change) : Puts Reads (take b) := take_puts b
  refine ⟨u, hid, ?_⟩
  rw [changeProfile, hrest] at h ⊢
  obtain ⟨c, hc, hupdate⟩ := (hbody (Input.body Body.profileChange r)).ok_of_changed h
  rw [hupdate, perform_showing_tables] at h ⊢
  exact perform_update_onlyProfile s.hasher f (body_keepsStatus hc) hid.stored h

/-- A resource changes something only for an admin, or as a change of a profile. -/
theorem handle_changed (counted : Option Metrics.Registry) {resource : Resource} {v : Verb}
    (h : (perform (s.handle f r counted resource v) t).2 ≠ t) :
    (∃ u, (perform (s.admin f.now r) t).1 = .ok u) ∨
      resource = .profile ∧ v ≠ .get ∧ s.handle f r counted resource v = s.changeProfile f r := by
  have hadmin {rest : User → Handler Reply}
      (h : (perform (s.admin f.now r >>= rest) t).2 ≠ t) :
      ∃ u, (perform (s.admin f.now r) t).1 = .ok u := by
    obtain ⟨u, hu, -⟩ := (s.admin_reads r f.now).ok_of_changed h
    exact ⟨u, hu⟩
  cases resource with
  | profile =>
    cases v with
    | get =>
      have hreads : Puts Reads (s.showProfile f r) :=
        .bind (s.principal_reads r f.now) fun u _ ↦ .pure trivial
      exact absurd (hreads.perform_reads t) h
    | _ => exact .inr ⟨rfl, by decide, rfl⟩
  | users => cases v <;> exact .inl (hadmin h)
  | user id => cases v <;> exact .inl (hadmin h)
  | circlesOfUser k id => cases v <;> exact .inl (hadmin h)
  | circles k => cases v <;> exact .inl (hadmin h)
  | circle k id => cases v <;> exact .inl (hadmin h)
  | members k id => cases v <;> exact .inl (hadmin h)
  | _ => exact absurd ((s.handle_reads f r v counted (by simp)).perform_reads t) h

/-- A response that changes something is that of a resource to a verb which it allows. -/
theorem respond_changed (counted : Option Metrics.Registry)
    (h : ((s.respond counted f r).run Tables.answer t).2 ≠ t) :
    ∃ resource v, Resource.ofPath? r.uri.path = some resource ∧ Verb.ofMethod? r.method = some v ∧
      v ∈ resource.verbs ∧ ((s.respond counted f r).run Tables.answer t).2 =
        (perform (s.handle f r counted resource v) t).2 := by
  unfold respond at h ⊢
  split at h
  · exact absurd rfl h
  · next resource hpath =>
    split at h
    · exact absurd rfl h
    · next v hverb =>
      obtain ⟨hverb', hallowed⟩ := Option.filter_eq_some_iff.mp hverb
      refine ⟨resource, v, hpath, hverb', List.contains_iff_mem.mp hallowed, ?_⟩
      rw [Dialogue.run_bind, run_reply_tables]
      rfl

/-- A request that changes anything comes from an admin, or changes the profile of whom it comes
from. -/
theorem exchange_changed (ht : t.Reachable) (counted : Option Metrics.Registry) (newId : String)
    (h : ((s.exchange counted f newId r).run Tables.answer t).2 ≠ t) :
    (∃ u, Identifies s f.now r.headers t u ∧ u.admin = true) ∨
      r.method.name = "PUT" ∧ r.uri.path = "/profile/self" ∧
        ∃ u, Identifies s f.now r.headers t u ∧
          OnlyProfile u t ((s.exchange counted f newId r).run Tables.answer t).2 := by
  let r' : Request := { r with headers := RequestLog.identify newId r.headers }
  have hrespond : ((s.exchange counted f newId r).run Tables.answer t).2 =
      ((s.respond counted f r').run Tables.answer t).2 := by
    rw [exchange, Dialogue.run_bind]
    rfl
  have hid {u : User} (hu : Identifies s f.now r'.headers t u) : Identifies s f.now r.headers t u :=
    hu.congr (Credentials.ofHeaders_identify newId r.headers).symm
  rw [hrespond] at h ⊢
  obtain ⟨resource, v, hpath, hverb, hallowed, hhandle⟩ := s.respond_changed f r' counted h
  rw [hhandle] at h ⊢
  rcases s.handle_changed f r' counted h with ⟨u, hu⟩ | ⟨rfl, hget, hprofile⟩
  · obtain ⟨hu, hadmin⟩ := s.perform_admin_ok ht.integrity hu
    exact .inl ⟨u, hid hu, hadmin⟩
  · right
    -- The other verbs of a profile are turned away before its handler is reached.
    have hput : v = .put := by
      cases v <;> simp_all [Resource.verbs]
    subst hput
    rw [hprofile] at h ⊢
    obtain ⟨u, hu, honly⟩ := s.changeProfile_changed f r' ht.integrity h
    exact ⟨Verb.ofMethod?_eq_put hverb, Resource.ofPath?_eq_profile hpath, u, hid hu, honly⟩

theorem exchange_changed_of_profile :
    let user : User := .new ⟨"u", by decide⟩ ⟨0, 0⟩ "ada" "ada@example.org" "secret"
    let t := Tables.empty.after [.createUser user]
    let s : Service := ⟨⟨.ok, (· == ·)⟩, ⟨[], ⟨0, 0⟩⟩⟩
    let f : Fresh := ⟨⟨1, 0⟩, ⟨"v", by decide⟩, ⟨"g", by decide⟩, []⟩
    let r : Request := ⟨⟨"PUT"⟩, ⟨"/profile/self", none⟩,
      [⟨"authorization", Bytes.ofText "Basic YWRhOnNlY3JldA=="⟩,
        ⟨"content-type", Bytes.ofText "application/json"⟩],
      Bytes.ofText "\x7b\"fullname\":\"Ada Lovelace\",\"admin\":true\x7d"⟩
    let t' := ((s.exchange none f "1" r).run Tables.answer t).2
    t.Reachable ∧ t' ≠ t ∧
      ((∃ u, Identifies s f.now r.headers t u ∧ u.admin = true) ∨
        r.method.name = "PUT" ∧ r.uri.path = "/profile/self" ∧
          ∃ u, Identifies s f.now r.headers t u ∧ OnlyProfile u t t') := by
  intro user t s f r t'
  have ht : t.Reachable := ⟨[.createUser user], by simp [Store.Call.OwnerFits], rfl⟩
  have hne : t' ≠ t := by
    intro h
    have h := congrArg (fun t ↦ (t.users.get? "u").map User.fullname) h
    exact absurd h (by decide +kernel)
  exact ⟨ht, hne, s.exchange_changed f r ht none "1" hne⟩

end Service

end Roster.Api
