import Roster.Proofs.Api.Verdict

namespace Roster.Api

open Store (Tables)
open Http (Request Response)

variable {n : Notification} {response : Response}

theorem eq_ok_of_toOption {ε α : Type} {e : Except ε α} {a : α} (h : e.toOption = some a) :
    e = .ok a := by
  cases e <;> cases h
  rfl

def Carries (response : Response) (n : Notification) : Prop :=
  response = .json n.status n.toJson

theorem Carries.status (h : Carries response n) : response.status = n.status := by
  rw [h]
  rfl

theorem not_carries_plain (status : Http.Status) (message : String) (n : Notification) :
    ¬ Carries (.plain status message) n := by
  intro h
  cases congrArg Response.body h

theorem carries_faultResponse (f : Fault) : Carries (faultResponse f) (.ofFault f) := by
  cases f <;> rfl

theorem ofFault_errors (f : Fault) (errors : FieldErrors) :
    (Notification.ofFault f).errors = some errors ↔ f = .invalid errors := by
  cases f <;> simp [Notification.ofFault, Fault.cls]

theorem Input.identifier_refused {segment : String}
    (h : discard (identifier segment) = .error response) :
    ∃ message, response = .plain 400 message := by
  unfold identifier at h
  split at h <;> cases h
  exact ⟨_, rfl⟩

theorem Input.listing_refused {r : Request} (h : discard (listing r) = .error response) :
    ∃ message, response = .plain 400 message := by
  unfold listing at h
  split at h <;> cases h
  exact ⟨_, rfl⟩

theorem Input.address_refused {r : Request} {resource : Resource} {verb : Verb}
    (h : address r resource verb = .error response) : ∃ message, response = .plain 400 message := by
  have hquery (h : (if resource.isCollection && verb == .get then discard (listing r) else pure ()) =
      .error response) : ∃ message, response = .plain 400 message := by
    split at h
    · exact listing_refused h
    · cases h
  unfold address at h
  cases hsegment : resource.segment? with
  | none =>
    rw [hsegment] at h
    exact hquery h
  | some segment =>
    rw [hsegment, Option.forM] at h
    cases hid : discard (identifier segment) with
    | error refusal =>
      rw [hid] at h
      cases h
      exact identifier_refused hid
    | ok a =>
      rw [hid] at h
      exact hquery h

theorem Resource.isServed_of_segments {name : String} {segments : List String}
    {resource : Resource} (hname : name ∈ ["auth", "profile", "users", "groups", "teams"])
    (h : ofSegments? (name :: segments) = some resource) : resource.isServed = true := by
  unfold ofSegments? at h
  split at h <;> first
    | (next heq => cases heq; simp at hname; done)
    | (simp only [Option.map_eq_some_iff, Option.ite_none_left_eq_some, Option.some.injEq] at h
       grind [isServed, isGuarded])
    | grind [isServed, isGuarded]

theorem Visit.Addresses.isServed {x : Visit} {resource : Resource} {verb : Verb}
    (hx : x.Addresses resource verb)
    (hunder : x.Under ["auth", "profile", "users", "groups", "teams"]) :
    resource.isServed = true := by
  obtain ⟨name, hname, segments, h⟩ := hx.ofSegments?_eq hunder (by simp)
  exact Resource.isServed_of_segments hname h

namespace Service

variable {s : Service} {x : Visit} {resource : Resource} {verb : Verb} {t : Tables}

def FailsWith (s : Service) (x : Visit) (resource : Resource) (verb : Verb) (t : Tables)
    (f : Fault) : Prop :=
  ∃ u e, s.asker x resource t = .ok u ∧ s.errand x.fresh x.identified u resource verb = .ok e ∧
    (perform e t).1 = .error f

/-- Somebody is let in, and the identifier in the path or the query cannot be read. -/
def Misaddressed (s : Service) (x : Visit) (resource : Resource) (verb : Verb) (t : Tables)
    (response : Response) : Prop :=
  (∃ u, s.asker x resource t = .ok u) ∧ Input.address x.identified resource verb = .error response

theorem principal_refused_notified {now : Timestamp} {r : Request}
    (h : (perform (s.principal now r) t).1 = .error response) :
    ∃ n, Carries response n ∧ n.errors = none := by
  rcases s.principal_refused h with ⟨message, rfl⟩ | ⟨rfl, -⟩
  · exact ⟨Credentials.unauthorized message, rfl, rfl⟩
  · exact ⟨⟨"Invalid Authorization header encoding", 400, none⟩, rfl, rfl⟩

theorem admin_refused_notified {now : Timestamp} {r : Request}
    (h : (perform (s.admin now r) t).1 = .error response) :
    ∃ n, Carries response n ∧ n.errors = none := by
  rw [admin, (s.principal_reads r now).perform_then] at h
  cases hprincipal : (perform (s.principal now r) t).1 with
  | error refusal =>
    rw [hprincipal] at h
    cases h
    exact principal_refused_notified hprincipal
  | ok u =>
    rw [hprincipal] at h
    dsimp only at h
    split at h <;> cases h
    exact ⟨⟨"Only admins can access this resource", 403, none⟩, rfl, rfl⟩

theorem asker_refused (h : s.asker x resource t = .error response) :
    ∃ n, Carries response n ∧ n.errors = none := by
  have hmap {e : Except Response User} (h : e.map some = .error response) : e = .error response := by
    cases e with
    | error refusal =>
      cases h
      rfl
    | ok u => cases h
  unfold asker at h
  split at h
  · exact admin_refused_notified (hmap h)
  · split at h
    · exact principal_refused_notified (hmap h)
    · cases h

/-- What a refusal comes from: who asks, what can be read of the request, or the errand. -/
theorem verdict_error (h : s.verdict x resource verb t = .error response) :
    s.asker x resource t = .error response ∨
    ∃ u, s.asker x resource t = .ok u ∧
      (s.errand x.fresh x.identified u resource verb = .error response ∨
        ∃ e f, s.errand x.fresh x.identified u resource verb = .ok e ∧
          (perform e t).1 = .error f ∧ response = faultResponse f) := by
  unfold verdict at h
  cases hasker : s.asker x resource t with
  | error refusal =>
    rw [hasker] at h
    cases h
    exact .inl rfl
  | ok u =>
    rw [hasker] at h
    refine .inr ⟨u, rfl, ?_⟩
    cases herrand : s.errand x.fresh x.identified u resource verb with
    | error refusal =>
      simp only [bind, Except.bind, herrand] at h
      cases h
      exact .inl rfl
    | ok e =>
      simp only [bind, Except.bind, herrand, told] at h
      cases he : (perform e t).1 with
      | error f =>
        rw [he] at h
        cases h
        exact .inr ⟨e, f, rfl, he, rfl⟩
      | ok a =>
        rw [he] at h
        cases h

/-- A refusal comes as a notification, unless an address could not be read for whoever was let in. -/
theorem refusal_cases (h : s.verdict x resource verb t = .error response) :
    (s.Misaddressed x resource verb t response ∧ ∃ message, response = .plain 400 message) ∨
    (∀ refusal, ¬ s.Misaddressed x resource verb t refusal) ∧ ∃ n, Carries response n ∧
      ∀ errors, n.errors = some errors ↔ s.FailsWith x resource verb t (.invalid errors) := by
  rcases verdict_error h with hasker | ⟨u, hasker, herrand | ⟨e, f, herrand, he, rfl⟩⟩
  · obtain ⟨n, hn, hnone⟩ := asker_refused hasker
    refine .inr ⟨?_, n, hn, fun errors ↦ ?_⟩
    · rintro refusal ⟨⟨u, hu⟩, -⟩
      cases hasker.symm.trans hu
    · rw [hnone]
      refine iff_of_false nofun ?_
      rintro ⟨u, e, hu, -⟩
      cases hasker.symm.trans hu
  · have hreads := s.errand_readsOn x.fresh x.identified u resource verb
    cases haddress : Input.address x.identified resource verb with
    | error refusal =>
      cases (hreads.stops refusal haddress).symm.trans herrand
      exact .inl ⟨⟨⟨u, hasker⟩, haddress⟩, Input.address_refused haddress⟩
    | ok a =>
      obtain ⟨message, rfl⟩ := hreads.refused haddress response herrand
      refine .inr ⟨?_, ⟨message, 400, none⟩, rfl, fun errors ↦ iff_of_false nofun ?_⟩
      · rintro refusal ⟨-, hrefusal⟩
        cases haddress.symm.trans hrefusal
      · rintro ⟨v, e, hv, he, -⟩
        cases hasker.symm.trans hv
        cases herrand.symm.trans he
  · refine .inr ⟨?_, .ofFault f, carries_faultResponse f, fun errors ↦ ?_⟩
    · rintro refusal ⟨-, hrefusal⟩
      have hstops := (s.errand_readsOn x.fresh x.identified u resource verb).stops refusal hrefusal
      cases herrand.symm.trans hstops
    · rw [ofFault_errors]
      constructor
      · rintro rfl
        exact ⟨u, e, hasker, herrand, he⟩
      · rintro ⟨v, e', hv, he', hfault⟩
        cases hasker.symm.trans hv
        cases herrand.symm.trans he'
        cases he.symm.trans hfault
        rfl

/-- Whatever a request under these names fails of, its failure comes as a notification that names
fields just where the errand found them at fault, unless whoever asks is let in and the identifier or
the query cannot be read. This is told in plain text. The 408 of a request that takes too long is no
answer of `exchange` and left out here. -/
theorem failure_notified_iff (s : Service) (hx : x.Addresses resource verb)
    (hunder : x.Under ["auth", "profile", "users", "groups", "teams"])
    (hmethod : x.request.method.name ≠ "HEAD") (t : Tables)
    (hfailed : 400 ≤ (s.answer x t).1.response.status) :
    let response := (s.answer x t).1.response
    ((∃ n : Notification, n.status = response.status ∧ response = .json n.status n.toJson ∧
        ∀ errors, n.errors = some errors ↔ s.FailsWith x resource verb t (.invalid errors)) ↔
      ∀ refusal, ¬ s.Misaddressed x resource verb t refusal) ∧
    ∀ refusal, s.Misaddressed x resource verb t refusal →
      response = refusal ∧ ∃ message, refusal = .plain 400 message := by
  intro response
  have hresponse : response = outcome (perform (s.handler x resource verb) t).1 := by
    have h := (s.answer_of_addresses hx t).1
    rwa [if_neg hmethod] at h
  have hends : EndsAs t (s.handler x resource verb) (s.verdict x resource verb t) :=
    handler_endsAs (hx.isServed hunder) verb
  unfold EndsAs at hends
  rw [← hresponse] at hends
  cases hverdict : s.verdict x resource verb t with
  | ok a =>
    rw [hverdict] at hends
    have hstatus : response.status = 200 := hends
    exact absurd (hstatus ▸ hfailed) (by decide)
  | error refusal =>
    rw [hverdict] at hends
    have hsaid : response = refusal := hends
    rw [hsaid]
    rcases refusal_cases hverdict with ⟨hmisaddressed, message, rfl⟩ | ⟨hnone, n, hn, herrors⟩
    · refine ⟨iff_of_false ?_ fun hnone ↦ hnone _ hmisaddressed, fun refusal hrefusal ↦ ?_⟩
      · rintro ⟨n, -, hn, -⟩
        exact not_carries_plain 400 message n hn
      · cases hmisaddressed.2.symm.trans hrefusal.2
        exact ⟨rfl, message, rfl⟩
    · exact ⟨iff_of_true ⟨n, hn.status.symm, hn, herrors⟩ hnone,
        fun refusal hrefusal ↦ absurd hrefusal (hnone refusal)⟩

theorem failure_notified_iff_of_nameless_group :
    let user : User := { User.new ⟨"u", by decide⟩ ⟨0, 0⟩ "ada" "ada@example.org" "secret" with
      admin := true }
    let t := Tables.empty.after [.createUser user]
    let s : Service := ⟨⟨.ok, (· == ·)⟩, ⟨[], ⟨0, 0⟩⟩⟩
    let x : Visit := ⟨⟨⟨"POST"⟩, ⟨"/groups", none⟩,
      [⟨"authorization", Bytes.ofText "Basic YWRhOnNlY3JldA=="⟩,
        ⟨"content-type", Bytes.ofText "application/json"⟩], Bytes.ofText "\x7b\x7d"⟩,
      ⟨⟨0, 0⟩, ⟨"v", by decide⟩, ⟨"g", by decide⟩, []⟩, "1", none⟩
    ∃ n : Notification, n.status = 422 ∧ (s.answer x t).1.response = .json 422 n.toJson ∧
      n.errors = some [⟨"slug", "cannot be blank"⟩, ⟨"name", "cannot be blank"⟩] := by
  intro user t s x
  have hstatus : (s.answer x t).1.response.status = 422 := by decide +kernel
  have hx : x.Addresses (.circles .group) .post := ⟨by decide, by decide⟩
  have hunder : x.Under ["auth", "profile", "users", "groups", "teams"] :=
    ⟨"groups", by simp, .inl rfl⟩
  have hasker : s.asker x (.circles .group) t = .ok (some user) :=
    eq_ok_of_toOption (by decide +kernel)
  have hbody : Input.body Body.newCircle x.identified = .ok ⟨"", none⟩ :=
    eq_ok_of_toOption (by decide +kernel)
  have hfails : s.FailsWith x (.circles .group) .post t
      (.invalid [⟨"slug", "cannot be blank"⟩, ⟨"name", "cannot be blank"⟩]) := by
    refine ⟨some user, (Circles.create .group x.fresh ⟨"", none⟩ (some user.id)).settle, hasker, ?_,
      by decide⟩
    have herrand : s.errand x.fresh x.identified (some user) (.circles .group) .post = (do
      return (Circles.create .group x.fresh (← Input.body Body.newCircle x.identified)
        (some user.id)).settle) := rfl
    rw [herrand, hbody]
    rfl
  have hfailed : 400 ≤ (s.answer x t).1.response.status := by
    rw [hstatus]
    decide
  have hnone (refusal : Response) : ¬ s.Misaddressed x (.circles .group) .post t refusal := by
    rintro ⟨-, hrefusal⟩
    have haddress : Input.address x.identified (.circles .group) .post = .ok () := rfl
    cases haddress.symm.trans hrefusal
  obtain ⟨n, hn, hresponse, herrors⟩ :=
    (failure_notified_iff s hx hunder (by decide) t hfailed).1.mpr hnone
  rw [hstatus] at hn
  rw [hn] at hresponse
  exact ⟨n, hn, hresponse, (herrors _).mpr hfails⟩

theorem illegible_limit_told_in_plain_text :
    let user : User := { User.new ⟨"u", by decide⟩ ⟨0, 0⟩ "ada" "ada@example.org" "secret" with
      admin := true }
    let t := Tables.empty.after [.createUser user]
    let s : Service := ⟨⟨.ok, (· == ·)⟩, ⟨[], ⟨0, 0⟩⟩⟩
    let x : Visit := ⟨⟨⟨"GET"⟩, ⟨"/users", some "limit=abc"⟩,
      [⟨"authorization", Bytes.ofText "Basic YWRhOnNlY3JldA=="⟩], []⟩,
      ⟨⟨0, 0⟩, ⟨"v", by decide⟩, ⟨"g", by decide⟩, []⟩, "1", none⟩
    t.Reachable ∧ x.Addresses .users .get ∧ (s.answer x t).1.response.status = 400 ∧
      ∀ n : Notification, (s.answer x t).1.response ≠ .json 400 n.toJson := by
  intro user t s x
  have htype : (s.answer x t).1.response.contentType = some Response.plainType := by decide +kernel
  refine ⟨⟨[.createUser user], by simp [Store.Call.OwnerFits], rfl⟩,
    ⟨by decide +kernel, by decide +kernel⟩, by decide +kernel, fun n hn ↦ ?_⟩
  rw [hn] at htype
  have htypes : Response.jsonType ≠ Response.plainType := by decide
  exact htypes (Option.some.inj htype)

end Service

end Roster.Api
