import Roster.Proofs.Api.Calls
import Roster.Proofs.Store.Runs

namespace Roster.Api

open Store (Call Tables)
open Http (Request)

/-- What calls have led to is sound, stays so while requests run in step with one another, is not
brought to hold anything by updates, and does not get back what is deleted. -/
theorem reachable_store_sound {t : Tables} (ht : t.Reachable) :
    t.Integrity ∧
    (∀ {ι : Type} [DecidableEq ι] (s : Service) (request : ι → Request) (fresh : ι → Fresh)
      (counted : ι → Option Metrics.Registry) (newId : ι → String) (schedule : List ι),
      ((Assembly.mk (fun i ↦ s.exchange (counted i) (fresh i) (newId i) (request i)) t).run
        Tables.answer schedule).state.Integrity) ∧
    (∀ u, t.users.get? u.id.text = none →
      t.updateUser u = (.error (.userNotFound u.id.text), t)) ∧
    (∀ k c, (t.of k).circles.get? c.id.text = none →
      t.updateCircle k c = (.error (.circleNotFound k c.id.text), t)) ∧
    (∀ id calls, (∀ u, .createUser u ∈ calls → u.id ≠ id) →
      ((t.deleteUser id).2.after calls).users.get? id.text = none) ∧
    (∀ k id calls, (∀ c owner, .createCircle k c owner ∈ calls → c.id ≠ id) →
      (((t.deleteCircle k id).2.after calls).of k).circles.get? id.text = none) := by
  refine ⟨ht.integrity, ?_, fun _ ↦ Tables.updateUser_of_absent,
    fun _ _ ↦ Tables.updateCircle_of_absent,
    fun id calls ↦ Tables.user_absent_after (t.deleteUser_absent id) calls,
    fun k id calls ↦ Tables.circle_absent_after (t.deleteCircle_absent k id) calls⟩
  intro ι _ s request fresh counted newId schedule
  have hparty (i : ι) := s.exchange_ownerFits (fresh i) (request i) (counted i) (newId i)
  exact (ht.interleave hparty schedule).integrity

theorem reachable_store_sound_after_creations :
    let id : UserId := ⟨"u", by decide⟩
    let circle : CircleId := ⟨"g", by decide⟩
    let calls := [Call.createUser (.new id ⟨0, 0⟩ "ada" "ada@example.org" ""),
      .createCircle .group (.new circle ⟨0, 0⟩ "Core") (some (.new id circle .owner ⟨0, 0⟩))]
    let t := Tables.empty.after calls
    let later := [Call.updateUser (.new id ⟨1, 0⟩ "ada" "ada@example.org" "")]
    (∀ c ∈ calls, c.OwnerFits) ∧ t.users.contains "u" = true ∧ t.Integrity ∧
      ((t.deleteUser id).2.after later).users.get? id.text = none := by
  intro id circle calls t later
  have hcalls : ∀ c ∈ calls, c.OwnerFits := by
    simp [calls, Call.OwnerFits, Circle.new, Membership.new]
  have h := reachable_store_sound ⟨calls, hcalls, rfl⟩
  exact ⟨hcalls, by decide, h.1, h.2.2.2.2.1 id later (by simp [later])⟩

end Roster.Api
