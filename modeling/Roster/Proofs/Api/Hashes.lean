import Roster.Proofs.Api.Guard
import Roster.Proofs.Enrolment.Hashes

namespace Roster.Api

open Store (Call Tables)
open Handler (ofErrand take showing telling enrolling)
open Http (Request Response)

variable {α β γ δ : Type} {view : α → γ}

theorem ofErrand_agree {e e' : Errand α} {t t' : Tables}
    (h : Agree (Except.map view) e.run e'.run t t') :
    Agree (Except.map view) (ofErrand e).run (ofErrand e').run t t' := by
  refine h.bind fun r r' t t' hr ht ↦ .done ?_ ht
  obtain ⟨x, rfl, rfl⟩ | ⟨a, a', rfl, rfl, ha⟩ := result_cases hr
  · rfl
  · exact congrArg Except.ok ha

theorem taking_agrees {view : β → δ} {e : Except Response α} {next next' : α → Handler β}
    (h : ∀ a, Agrees view (next a) (next' a)) : Agrees view (take e >>= next) (take e >>= next') :=
  .bind_same (fun _ _ ht ↦ .done rfl ht) h

theorem showing_agrees {e e' : Errand α} {json : α → Json} (h : Agrees view e e')
    (hjson : ∀ a a', view a' = view a → json a' = json a) :
    Agrees id (showing e json) (showing e' json) :=
  .bind (fun t t' ht ↦ ofErrand_agree (h t t' ht)) fun a a' ha ↦ .pure (by rw [hjson a a' ha])

theorem telling_agrees {e e' : Errand α} (h : Agrees view e e') (message : String) :
    Agrees id (telling e message) (telling e' message) :=
  .bind (fun t t' ht ↦ ofErrand_agree (h t t' ht)) fun _ _ _ ↦ .pure rfl

theorem enrolling_agrees {o o' : Enrolment.Operation α} (message : String)
    (h : ∀ t t' : Tables, t'.unhashed = t.unhashed →
      Agree (Enrolment.Outcome.seen view) o o' t t') :
    Agrees id (enrolling o message) (enrolling o' message) := by
  refine fun t t' ht ↦ (h t t' ht).bind fun outcome outcome' t t' heq ht ↦ .done ?_ ht
  obtain ⟨result, attempt⟩ := outcome
  obtain ⟨result', attempt'⟩ := outcome'
  obtain ⟨hresult, rfl⟩ := Prod.mk.inj heq
  obtain ⟨x, rfl, rfl⟩ | ⟨a, a', rfl, rfl, -⟩ := result_cases hresult <;> rfl

theorem view_eq {u u' : User} (h : u'.unhashed = u.unhashed) : u'.view = u.view := by
  obtain ⟨hash, rfl⟩ := User.eq_of_unhashed h
  rfl

theorem pageView_eq {f : α → α} {json : α → Json} (hjson : ∀ a, json (f a) = json a) (name : String)
    (l : Listing) {p p' : Page α} (h : p'.map f = p.map f) :
    p'.view name json l = p.view name json l := by
  have hview (p : Page α) : (p.map f).view name json l = p.view name json l := by
    simp only [Page.view, Page.map, List.map_map, Function.comp_def, hjson]
  rw [← hview p', h, hview p]

inductive Visit.Shows (x : Visit) (username password : String) : Prop
  | header (h : Credentials.ofHeaders x.request.headers = .ok (.basic username password))
  | login (hpath : Resource.ofPath? x.request.uri.path = some .login)
    (hbody : Input.body Body.login x.identified = .ok ⟨username, password⟩)

namespace Service

def withHasher (s : Service) (h : Hasher) : Service :=
  { s with hasher := h }

/-- What a visit shows is checked with the same result, by other means and on other tables. -/
def ChecksAlike (s : Service) (h : Hasher) (x : Visit) (t t' : Tables) : Prop :=
  ∀ username password, x.Shows username password →
    s.hasher.ChecksAlike h t t' username password

variable {s : Service} {h : Hasher} {t t' : Tables} {f : Fresh} {r : Request}

theorem bearer_agrees (id : UserId) : Agrees User.unhashed (bearer id) (bearer id) := by
  refine .bind (?_ : Agrees User.unhashed _ _) fun u u' hu ↦ ?_
  · intro t t' ht
    refine (Accounts.get_agrees id t t' ht).bind fun r r' t t' hr ht ↦ ?_
    obtain ⟨x, rfl, rfl⟩ | ⟨u, u', rfl, rfl, hu⟩ := result_cases hr
    · exact .done rfl ht
    · exact .done (congrArg Except.ok hu) ht
  · obtain ⟨hash, rfl⟩ := User.eq_of_unhashed hu
    dsimp only
    split
    · exact .pure hu
    · exact .throw _

theorem principalOfToken_agrees (s : Service) (now : Timestamp) (token : String) :
    Agrees User.unhashed (s.principalOfToken now token) (s.principalOfToken now token) := by
  unfold principalOfToken
  split
  · exact .throw _
  · split
    · exact .throw _
    · exact bearer_agrees _

theorem principal_agree (ht : t'.unhashed = t.unhashed)
    (hcheck : ∀ username password, Credentials.ofHeaders r.headers = .ok (.basic username password) →
      s.hasher.ChecksAlike h t t' username password) (now : Timestamp) :
    Agree (Except.map User.unhashed) (s.principal now r).run ((s.withHasher h).principal now r).run
      t t' := by
  unfold principal
  split
  · exact Agrees.throw _ t t' ht
  · next token _ => exact s.principalOfToken_agrees now token t t' ht
  · next username password hheader =>
    exact ofErrand_agree (Accounts.authenticate_agree ht (hcheck username password hheader))

theorem admin_agree {now : Timestamp}
    (hprincipal : Agree (Except.map User.unhashed) (s.principal now r).run
      ((s.withHasher h).principal now r).run t t') :
    Agree (Except.map User.unhashed) (s.admin now r).run ((s.withHasher h).admin now r).run t t' := by
  refine hprincipal.andThen fun u u' hu ↦ ?_
  obtain ⟨hash, rfl⟩ := User.eq_of_unhashed hu
  dsimp only
  split
  · exact .pure hu
  · exact .throw _

section Handlers

variable (hprincipal : Agree (Except.map User.unhashed) (s.principal f.now r).run
  ((s.withHasher h).principal f.now r).run t t') (k : Kind) (segment : String) (verb : Verb)

include hprincipal

theorem changeProfile_agree (hh : s.hasher.HashesAlike h) :
    Agree (Except.map id) (s.changeProfile f r).run ((s.withHasher h).changeProfile f r).run t t' := by
  refine hprincipal.andThen fun u u' hu ↦ taking_agrees fun change ↦ ?_
  obtain ⟨hash, rfl⟩ := User.eq_of_unhashed hu
  exact showing_agrees (Accounts.update_agrees f hh u.id.text change) fun _ _ ↦ view_eq

theorem users_agree (hh : s.hasher.HashesAlike h) :
    Agree (Except.map id) (s.users f r verb).run ((s.withHasher h).users f r verb).run t t' := by
  have hadmin := admin_agree hprincipal
  cases verb with
  | get =>
    exact hadmin.andThen fun _ _ _ ↦ taking_agrees fun l ↦
      showing_agrees (.ask (c := .listUsers l) rfl) fun _ _ ↦
        pageView_eq (f := User.unhashed) (fun _ ↦ rfl) "users" l
  | _ =>
    exact hadmin.andThen fun _ _ _ ↦ taking_agrees fun b ↦
      showing_agrees (Accounts.create_agrees f hh b) fun _ _ ↦ view_eq

theorem user_agree (hh : s.hasher.HashesAlike h) :
    Agree (Except.map id) (s.user f r segment verb).run ((s.withHasher h).user f r segment verb).run
      t t' := by
  have hadmin := admin_agree hprincipal
  cases verb with
  | get =>
    exact hadmin.andThen fun _ _ _ ↦ taking_agrees fun id ↦
      showing_agrees (Accounts.find_agrees id) fun _ _ ↦ view_eq
  | delete =>
    exact hadmin.andThen fun _ _ _ ↦ taking_agrees fun id ↦
      telling_agrees (Accounts.delete_agrees id) _
  | _ =>
    exact hadmin.andThen fun _ _ _ ↦ taking_agrees fun id ↦ taking_agrees fun c ↦
      showing_agrees (Accounts.update_agrees f hh id c) fun _ _ ↦ view_eq

theorem circles_agree :
    Agree (Except.map id) (s.circles f r k verb).run ((s.withHasher h).circles f r k verb).run
      t t' := by
  have hadmin := admin_agree hprincipal
  cases verb with
  | get =>
    exact hadmin.andThen fun _ _ _ ↦ taking_agrees fun l ↦
      showing_agrees (.ask_same (c := .listCircles k l) ⟨rfl, rfl⟩) fun _ _ ↦ congrArg _
  | _ =>
    refine hadmin.andThen fun u u' hu ↦ taking_agrees fun b ↦ ?_
    obtain ⟨hash, rfl⟩ := User.eq_of_unhashed hu
    exact showing_agrees (Circles.create_agrees k f b (some u.id)) fun _ _ ↦ congrArg _

theorem circle_agree :
    Agree (Except.map id) (s.circle f r k segment verb).run
      ((s.withHasher h).circle f r k segment verb).run t t' := by
  have hadmin := admin_agree hprincipal
  cases verb with
  | get =>
    exact hadmin.andThen fun _ _ _ ↦ taking_agrees fun id ↦
      showing_agrees (Circles.find_agrees k id) fun _ _ ↦ congrArg _
  | delete =>
    exact hadmin.andThen fun _ _ _ ↦ taking_agrees fun id ↦
      telling_agrees (Circles.delete_agrees k id) _
  | _ =>
    exact hadmin.andThen fun _ _ _ ↦ taking_agrees fun id ↦ taking_agrees fun c ↦
      showing_agrees (Circles.update_agrees k f id c) fun _ _ ↦ congrArg _

theorem members_agree :
    Agree (Except.map id) (s.members f r k segment verb).run
      ((s.withHasher h).members f r k segment verb).run t t' := by
  have hadmin := admin_agree hprincipal
  cases verb with
  | get =>
    exact hadmin.andThen fun _ _ _ ↦ taking_agrees fun id ↦ taking_agrees fun l ↦
      showing_agrees (Enrolment.membersOf_agrees k id l) fun _ _ ↦
        pageView_eq (f := Member.unhashed) (fun _ ↦ rfl) "users" l
  | post =>
    exact hadmin.andThen fun _ _ _ ↦ taking_agrees fun id ↦ taking_agrees fun b ↦
      enrolling_agrees _ fun _ _ ↦ Enrolment.attach_agree k f.now b.reference id b.permission
  | put =>
    exact hadmin.andThen fun _ _ _ ↦ taking_agrees fun id ↦ taking_agrees fun b ↦
      enrolling_agrees _ fun _ _ ↦ Enrolment.permit_agree k f.now b.reference id b.permission
  | delete =>
    exact hadmin.andThen fun _ _ _ ↦ taking_agrees fun id ↦ taking_agrees fun b ↦
      enrolling_agrees _ fun _ _ ↦ Enrolment.drop_agree k b.reference id

theorem circlesOfUser_agree :
    Agree (Except.map id) (s.circlesOfUser f r k segment verb).run
      ((s.withHasher h).circlesOfUser f r k segment verb).run t t' := by
  have hadmin := admin_agree hprincipal
  cases verb with
  | get =>
    exact hadmin.andThen fun _ _ _ ↦ taking_agrees fun id ↦ taking_agrees fun l ↦
      showing_agrees (Enrolment.circlesOf_agrees k id l) fun _ _ ↦
        pageView_eq (f := Member.unhashed) (fun _ ↦ rfl) k.plural l
  | post =>
    exact hadmin.andThen fun _ _ _ ↦ taking_agrees fun id ↦ taking_agrees fun b ↦
      enrolling_agrees _ fun _ _ ↦ Enrolment.attach_agree k f.now id b.reference b.permission
  | put =>
    exact hadmin.andThen fun _ _ _ ↦ taking_agrees fun id ↦ taking_agrees fun b ↦
      enrolling_agrees _ fun _ _ ↦ Enrolment.permit_agree k f.now id b.reference b.permission
  | delete =>
    exact hadmin.andThen fun _ _ _ ↦ taking_agrees fun id ↦ taking_agrees fun b ↦
      enrolling_agrees _ fun _ _ ↦ Enrolment.drop_agree k id b.reference

theorem handle_agree (hh : s.hasher.HashesAlike h) (ht : t'.unhashed = t.unhashed)
    (counted : Option Metrics.Registry) {resource : Resource}
    (hlogin : resource = .login → ∀ b, Input.body Body.login r = .ok b →
      s.hasher.ChecksAlike h t t' b.username b.password) :
    Agree (Except.map id) (s.handle f r counted resource verb).run
      ((s.withHasher h).handle f r counted resource verb).run t t' := by
  cases resource with
  | health => exact Agrees.pure rfl t t' ht
  | ready =>
    exact Puts.agrees (e := readiness) (Q := fun _ ↦ True)
      ⟨(Puts.ask (P := Call.NamesNoUser) (c := .countUsers) ⟨rfl, rfl⟩).asks.bind fun _ _ ↦ trivial⟩
      t t' ht
  | live => exact Agrees.pure rfl t t' ht
  | metrics => cases counted <;> exact Agrees.pure rfl t t' ht
  | login =>
    unfold handle login
    cases hbody : Input.body Body.login r with
    | error response => exact .done rfl ht
    | ok b =>
      have hauthenticate := ofErrand_agree (Accounts.authenticate_agree ht (hlogin rfl b hbody))
      refine hauthenticate.andThen fun u u' hu ↦ .pure ?_
      obtain ⟨hash, rfl⟩ := User.eq_of_unhashed hu
      rfl
  | refresh | verification | personalToken =>
    refine hprincipal.andThen fun u u' hu ↦ .pure ?_
    obtain ⟨hash, rfl⟩ := User.eq_of_unhashed hu
    rfl
  | profile =>
    cases verb with
    | get =>
      refine hprincipal.andThen fun u u' hu ↦ .pure ?_
      rw [view_eq hu]
    | _ => exact changeProfile_agree hprincipal hh
  | users => exact users_agree hprincipal verb hh
  | user id => exact user_agree hprincipal id verb hh
  | circlesOfUser k id => exact circlesOfUser_agree hprincipal k id verb
  | circles k => exact circles_agree hprincipal k verb
  | circle k id => exact circle_agree hprincipal k id verb
  | members k id => exact members_agree hprincipal k id verb

end Handlers

theorem reply_agree {d d' : Handler Reply} (hd : Agree (Except.map id) d.run d'.run t t') :
    Agree id d.reply d'.reply t t' := by
  refine hd.bind fun r r' t t' hr ht ↦ ?_
  obtain ⟨x, rfl, rfl⟩ | ⟨a, a', rfl, rfl, ha⟩ := result_cases hr
  · exact .done rfl ht
  · exact .done ha ht

theorem respond_agree (x : Visit) (hh : s.hasher.HashesAlike h) (ht : t'.unhashed = t.unhashed)
    (hcheck : s.ChecksAlike h x t t') :
    Agree id (s.respond x.counted x.fresh x.identified)
      ((s.withHasher h).respond x.counted x.fresh x.identified) t t' := by
  have hprincipal : Agree (Except.map User.unhashed) (s.principal x.fresh.now x.identified).run
      ((s.withHasher h).principal x.fresh.now x.identified).run t t' := by
    refine principal_agree ht (fun username password hheader ↦ hcheck _ _ (.header ?_)) _
    rw [← Credentials.ofHeaders_identify x.newId]
    exact hheader
  unfold respond
  split
  · exact .done rfl ht
  · next resource hpath =>
    split
    · exact .done rfl ht
    · next verb _ =>
      have hlogin (hresource : resource = .login) (b : Body.Login)
          (hbody : Input.body Body.login x.identified = .ok b) :
          s.hasher.ChecksAlike h t t' b.username b.password :=
        hcheck _ _ (.login (hresource ▸ hpath) hbody)
      have hhandle := handle_agree hprincipal verb hh ht x.counted hlogin
      refine (reply_agree hhandle).bind fun reply reply' t t' hreply ht ↦ .done ?_ ht
      rw [show reply' = reply from hreply]

theorem exchange_agree (x : Visit) (hh : s.hasher.HashesAlike h) (ht : t'.unhashed = t.unhashed)
    (hcheck : s.ChecksAlike h x t t') :
    Agree id (s.exchange x.counted x.fresh x.newId x.request)
      ((s.withHasher h).exchange x.counted x.fresh x.newId x.request) t t' := by
  refine (respond_agree x hh ht hcheck).bind fun reply reply' t t' hreply ht ↦ .done ?_ ht
  rw [show reply' = reply from hreply]

/-- On tables that are the same but for the hashes of passwords, and with hashes made in another way,
everything about an exchange is the same, and the tables that it leaves are again the same but for
hashes. Only the check of the password that is shown, if one is, has to come out the same. -/
theorem answer_hides_hashes (s : Service) {h : Hasher} (x : Visit) (hh : s.hasher.HashesAlike h)
    (ht : t'.unhashed = t.unhashed) (hcheck : s.ChecksAlike h x t t') :
    ((s.withHasher h).answer x t').1 = (s.answer x t).1 ∧
      ((s.withHasher h).answer x t').2.unhashed = (s.answer x t).2.unhashed :=
  ⟨(exchange_agree x hh ht hcheck).value, (exchange_agree x hh ht hcheck).tables⟩

theorem answer_hides_hashes_of_list :
    let user (hash : String) : User :=
      { User.new ⟨"u", by decide⟩ ⟨0, 0⟩ "ada" "ada@example.org" hash with admin := true }
    let t (hash : String) := Tables.empty.after [.createUser (user hash)]
    let salted (salt : String) : Hasher :=
      ⟨fun p ↦ .ok (salt ++ p), fun p hash ↦ hash == "1" ++ p || hash == "2" ++ p⟩
    let s (salt : String) : Service := ⟨salted salt, ⟨[], ⟨0, 0⟩⟩⟩
    let x : Visit := ⟨⟨⟨"GET"⟩, ⟨"/users", none⟩,
      [⟨"authorization", Bytes.ofText "Basic YWRhOnNlY3JldA=="⟩], []⟩,
      ⟨⟨0, 0⟩, ⟨"v", by decide⟩, ⟨"g", by decide⟩, []⟩, "1", none⟩
    (t "2secret").users.values ≠ (t "1secret").users.values ∧
      ((s "1").answer x (t "1secret")).1.response.status = 200 ∧
      ((s "2").answer x (t "2secret")).1 = ((s "1").answer x (t "1secret")).1 := by
  intro user t salted s x
  have hheader : Credentials.ofHeaders x.request.headers = .ok (.basic "ada" "secret") := by
    decide +kernel
  have hcheck : (s "1").ChecksAlike (salted "2") x (t "1secret") (t "2secret") := by
    intro username password hshows
    cases hshows with
    | header h =>
      cases hheader.symm.trans h
      unfold Hasher.ChecksAlike
      decide
    | login hpath _ => exact absurd hpath (by decide)
  have hhashes : (s "1").hasher.HashesAlike (salted "2") := fun _ ↦ rfl
  have ht : (t "2secret").unhashed = (t "1secret").unhashed := rfl
  have hsame := (s "1").answer_hides_hashes x hhashes ht hcheck
  exact ⟨by decide +kernel, by decide +kernel, hsame.1⟩

def ChecksAlikeAlong (s : Service) (h : Hasher) : List Visit → Tables → Tables → Prop
  | [], _, _ => True
  | x :: visits, t, t' =>
    s.ChecksAlike h x t t' ∧
      s.ChecksAlikeAlong h visits (s.answer x t).2 ((s.withHasher h).answer x t').2

theorem after_unhashed (hh : s.hasher.HashesAlike h) {visits : List Visit}
    (ht : t'.unhashed = t.unhashed) (hchecks : s.ChecksAlikeAlong h visits t t') :
    ((s.withHasher h).after t' visits).unhashed = (s.after t visits).unhashed := by
  induction visits generalizing t t' with
  | nil => exact ht
  | cons x visits ih => exact ih (exchange_agree x hh ht hchecks.1).tables hchecks.2

end Service

end Roster.Api
