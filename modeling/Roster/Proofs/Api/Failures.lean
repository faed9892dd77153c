import Roster.Proofs.Api.Authorization
import Roster.Proofs.Api.Guard

namespace Roster.Api.Service

open Store (Tables)
open Http (Request)

variable (s : Service) (f : Fresh) (r : Request) {t : Tables}

theorem respond_unchanged_of_get (counted : Option Metrics.Registry)
    (hverb : Verb.ofMethod? r.method = some .get) :
    ((s.respond counted f r).run Tables.answer t).2 = t := by
  by_contra hne
  obtain ⟨resource, v, -, hv, -, hhandle⟩ := s.respond_changed f r counted hne
  cases hverb.symm.trans hv
  exact hne (hhandle.trans ((s.handle_get_looks f r counted resource).perform_looks t))

theorem respond_unchanged_of_login (counted : Option Metrics.Registry)
    (hpath : Resource.ofPath? r.uri.path = some .login) :
    ((s.respond counted f r).run Tables.answer t).2 = t := by
  by_contra hne
  obtain ⟨resource, v, hresource, -, -, hhandle⟩ := s.respond_changed f r counted hne
  cases hpath.symm.trans hresource
  exact hne (hhandle.trans ((s.handle_reads f r v counted (by simp)).perform_reads t))

/-- A request changes nothing if its response reports anything but success, if it only gets
something, or if it goes to the login. -/
theorem exchange_unchanged (ht : t.Reachable) (counted : Option Metrics.Registry) (newId : String)
    (h : ((s.exchange counted f newId r).run Tables.answer t).1.response.status ≠ 200 ∨
      r.method.name = "GET" ∨ r.method.name = "HEAD" ∨ r.uri.path = "/auth/login") :
    ((s.exchange counted f newId r).run Tables.answer t).2 = t := by
  let x : Visit := ⟨r, f, newId, counted⟩
  have hrespond : ((s.exchange counted f newId r).run Tables.answer t).2 =
      ((s.respond counted f x.identified).run Tables.answer t).2 := (s.answer_eq x t).2
  have hget (hname : r.method.name = "GET" ∨ r.method.name = "HEAD") :
      Verb.ofMethod? r.method = some .get := by
    unfold Verb.ofMethod?
    rcases hname with hname | hname <;> simp only [hname]
  rcases h with hstatus | hname | hname | hpath
  · exact (s.exchange_writesLast f r counted newId).run_unchanged ht.integrity hstatus
  · exact hrespond.trans (s.respond_unchanged_of_get f x.identified counted (hget (.inl hname)))
  · exact hrespond.trans (s.respond_unchanged_of_get f x.identified counted (hget (.inr hname)))
  · have hlogin : Resource.ofPath? r.uri.path = some .login := by
      rw [hpath]
      decide
    exact hrespond.trans (s.respond_unchanged_of_login f x.identified counted hlogin)

theorem exchange_unchanged_of_missing_group :
    let user : User := { User.new ⟨"u", by decide⟩ ⟨0, 0⟩ "ada" "ada@example.org" "secret" with
      admin := true }
    let t := Tables.empty.after [.createUser user]
    let s : Service := ⟨⟨.ok, (· == ·)⟩, ⟨[], ⟨0, 0⟩⟩⟩
    let f : Fresh := ⟨⟨1, 0⟩, ⟨"v", by decide⟩, ⟨"g", by decide⟩, []⟩
    let r : Request := ⟨⟨"DELETE"⟩, ⟨"/groups/core", none⟩,
      [⟨"authorization", Bytes.ofText "Basic YWRhOnNlY3JldA=="⟩], []⟩
    let answered := (s.exchange none f "1" r).run Tables.answer t
    t.Reachable ∧ answered.1.response.status = 404 ∧ answered.2 = t := by
  intro user t s f r answered
  have ht : t.Reachable := ⟨[.createUser user], by simp [Store.Call.OwnerFits], rfl⟩
  have hstatus : answered.1.response.status = 404 := by decide +kernel
  have hne : answered.1.response.status ≠ 200 := by
    rw [hstatus]
    decide
  exact ⟨ht, hstatus, s.exchange_unchanged f r ht none "1" (.inl hne)⟩

end Roster.Api.Service
