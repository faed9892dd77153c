import Roster.Proofs.Accounts.Hashes
import Roster.Proofs.Enrolment.Calls

namespace Roster

open Store (Tables)

namespace Circles

variable (k : Kind) (f : Fresh)

theorem find_agrees (reference : String) : Agrees id (find k reference) (find k reference) :=
  .bind_same (.ask_same ⟨rfl, rfl⟩) fun _ ↦ .orFail rfl

theorem create_agrees (r : NewCircle) (owner : Option UserId) :
    Agrees id (create k f r owner) (create k f r owner) :=
  .bind_same (draft_probes k f r).probes_agrees fun _ ↦
    .ask_same (c := .createCircle ..) ⟨rfl, rfl⟩

theorem update_agrees (reference : String) (c : Change) :
    Agrees id (update k f reference c) (update k f reference c) :=
  .bind_same (find_agrees k reference) fun found ↦
    .bind_same (revision_probes k f c found).probes_agrees fun _ ↦
      .ask_same (c := .updateCircle ..) ⟨rfl, rfl⟩

theorem delete_agrees (reference : String) : Agrees id (delete k reference) (delete k reference) := by
  refine .bind_same (find_agrees k reference) fun c ↦
    .bind_same (.ask_same ⟨rfl, rfl⟩) fun isDeleted ↦ ?_
  cases isDeleted with
  | true => exact .pure rfl
  | false => exact .throw _

end Circles

namespace Enrolment

variable {α β γ δ : Type} (k : Kind)

def Outcome.seen (view : α → γ) (o : Outcome α) : Except Fault γ × Option Attempt :=
  (o.result.map view, o.attempt)

theorem resolve_agrees (userRef circleRef : String) :
    Agrees User.unhashedFst (resolve k userRef circleRef)
      (resolve k userRef circleRef) :=
  .bind (Accounts.find_agrees userRef) fun _ _ hu ↦
    .bind_same (Circles.find_agrees k circleRef) fun c ↦ .pure (congrArg (·, c) hu)

theorem attempting_agree {view : α → γ} (view' : β → δ) {action : Action} {before : Errand β}
    {write : β → Errand α} {t t' : Tables} (hbefore : Agrees view' before before)
    (hwrite : ∀ b b', view' b' = view' b → Agrees view (write b) (write b'))
    (ht : t'.unhashed = t.unhashed) :
    Agree (Outcome.seen view) (attempting k action before write) (attempting k action before write)
      t t' := by
  refine (hbefore t t' ht).bind fun r r' t t' hr ht ↦ ?_
  obtain ⟨x, rfl, rfl⟩ | ⟨b, b', rfl, rfl, hb⟩ := result_cases hr
  · exact .done rfl ht
  · refine (hwrite b b' hb t t' ht).bind fun r r' t t' hr ht ↦ .done ?_ ht
    obtain ⟨x, rfl, rfl⟩ | ⟨a, a', rfl, rfl, ha⟩ := result_cases hr
    · rfl
    · exact congrArg (fun c ↦ (Except.ok c, some (Attempt.mk k action true))) ha

theorem checked_agrees {isRefused : Bool} {f : Fault} {p : Except Fault Permission}
    {g g' : Permission → β} {view : β → δ} (hg : ∀ p, view (g' p) = view (g p)) :
    Agrees view
      (do
        if isRefused then throw f
        let p ← Errand.ofExcept p
        return g p)
      (do
        if isRefused then throw f
        let p ← Errand.ofExcept p
        return g' p) := by
  cases isRefused with
  | true => exact .throw f
  | false => exact .bind_same (fun _ _ ht ↦ .done rfl ht) fun p ↦ .pure (hg p)

variable (now : Timestamp) (userRef circleRef : String) (p : Option String) {t t' : Tables}

theorem attach_agree (ht : t'.unhashed = t.unhashed) :
    Agree (Outcome.seen Member.unhashed) (attach k now userRef circleRef p)
      (attach k now userRef circleRef p) t t' := by
  refine attempting_agree k User.unhashedFst ?_ (fun ⟨u, c, p⟩ _ h ↦ ?_) ht
  · refine .bind (resolve_agrees k userRef circleRef) fun ⟨u, c⟩ _ h ↦ ?_
    obtain ⟨hash, rfl⟩ := User.eq_of_unhashedFst h
    refine .bind_same (.ask_same (c := .findMembership k u.id c.id) ⟨rfl, rfl⟩) fun row ↦ ?_
    exact checked_agrees fun p ↦ rfl
  · obtain ⟨hash, rfl⟩ := User.eq_of_unhashedFst h
    exact .bind_same (.ask_same (c := .insertMembership ..) ⟨rfl, rfl⟩) fun m ↦ .pure rfl

theorem permit_agree (ht : t'.unhashed = t.unhashed) :
    Agree (Outcome.seen Member.unhashed) (permit k now userRef circleRef p)
      (permit k now userRef circleRef p) t t' := by
  refine attempting_agree k User.unhashedFst ?_ (fun ⟨u, c, p⟩ _ h ↦ ?_) ht
  · refine .bind (resolve_agrees k userRef circleRef) fun ⟨u, c⟩ _ h ↦ ?_
    obtain ⟨hash, rfl⟩ := User.eq_of_unhashedFst h
    refine .bind_same (.ask_same (c := .findMembership k u.id c.id) ⟨rfl, rfl⟩) fun row ↦ ?_
    exact checked_agrees fun p ↦ rfl
  · obtain ⟨hash, rfl⟩ := User.eq_of_unhashedFst h
    exact .bind_same (.ask_same (c := .updatePermission ..) ⟨rfl, rfl⟩) fun m ↦ .pure rfl

theorem drop_agree (ht : t'.unhashed = t.unhashed) :
    Agree (Outcome.seen id) (drop k userRef circleRef) (drop k userRef circleRef) t t' := by
  refine attempting_agree k _ (resolve_agrees k userRef circleRef) (fun ⟨u, c⟩ _ h ↦ ?_) ht
  obtain ⟨hash, rfl⟩ := User.eq_of_unhashedFst h
  exact .ask_same (c := .deleteMembership ..) ⟨rfl, rfl⟩

theorem membersOf_agrees (l : Listing) :
    Agrees (Page.map Member.unhashed) (membersOf k circleRef l) (membersOf k circleRef l) :=
  .bind_same (Circles.find_agrees k circleRef) fun c ↦ .ask (c := .listByCircle k c.id l) rfl

theorem circlesOf_agrees (l : Listing) :
    Agrees (Page.map Member.unhashed) (circlesOf k userRef l) (circlesOf k userRef l) := by
  refine .bind (Accounts.find_agrees userRef) fun u u' hu ↦ ?_
  obtain ⟨hash, rfl⟩ := User.eq_of_unhashed hu
  exact .ask (c := .listByUser k u.id l) rfl

end Enrolment

end Roster
