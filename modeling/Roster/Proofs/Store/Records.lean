import Roster.Proofs.Store.Performing

namespace Roster

namespace Store.Tables

def records (t : Tables) : Tables :=
  ⟨t.users, ⟨t.groups.circles, []⟩, ⟨t.teams.circles, []⟩⟩

variable (t : Tables)

@[simp] theorem records_users : t.records.users = t.users := rfl

@[simp] theorem records_of (k : Kind) : t.records.of k = ⟨(t.of k).circles, []⟩ := by
  cases k <;> rfl

theorem sameRecords_records : t.SameRecords t.records :=
  ⟨rfl, fun k ↦ by rw [records_of]⟩

variable {t} {t' : Tables}

theorem SameRecords.records_eq (h : t.SameRecords t') : t'.records = t.records := by
  refine ext_of h.users fun k ↦ ?_
  rw [records_of, records_of, h.circles]

theorem SameRecords.answer (h : t.SameRecords t') {c : Call} (hc : c.readsRecords = true) :
    (answer c t').1 = (answer c t).1 := by
  cases c <;> first | (simp only [Tables.answer, h.users, h.circles, h.findUser]; done) | cases hc

variable (t)

theorem createUser_records (u : User) :
    t.records.createUser u = ((t.createUser u).1, (t.createUser u).2.records) := by
  have hclash : t.records.userClash u = t.userClash u := rfl
  simp only [createUser, putUser, records_users, hclash]
  split
  · rfl
  · split <;> rfl

theorem updateUser_records (u : User) :
    t.records.updateUser u = ((t.updateUser u).1, (t.updateUser u).2.records) := by
  have hclash : t.records.userClash u = t.userClash u := rfl
  simp only [updateUser, putUser, records_users, hclash]
  split
  · split <;> rfl
  · rfl

theorem deleteUser_records (id : UserId) :
    (t.records.deleteUser id).2 = (t.deleteUser id).2.records := rfl

/-- The row of the owner is the only difference that creating a circle makes to rows. -/
theorem createCircle_records (k : Kind) (c : Circle) (owner : Option Membership) :
    (t.records.createCircle k c owner).1 = (t.createCircle k c owner).1 ∧
      (t.records.createCircle k c owner).2.records = (t.createCircle k c owner).2.records := by
  have hclash : circleClash ⟨(t.of k).circles, []⟩ c = circleClash (t.of k) c := rfl
  simp only [createCircle, records_users, records_of, hclash]
  split
  · exact ⟨rfl, rfl⟩
  · split
    · exact ⟨rfl, rfl⟩
    · split
      · exact ⟨rfl, rfl⟩
      · cases k <;> exact ⟨rfl, rfl⟩

theorem updateCircle_records (k : Kind) (c : Circle) :
    t.records.updateCircle k c = ((t.updateCircle k c).1, (t.updateCircle k c).2.records) := by
  have hclash : circleClash ⟨(t.of k).circles, []⟩ c = circleClash (t.of k) c := rfl
  simp only [updateCircle, records_of, hclash]
  split
  · split
    · rfl
    · cases k <;> rfl
  · rfl

theorem deleteCircle_records (k : Kind) (id : CircleId) :
    (t.records.deleteCircle k id).2 = (t.deleteCircle k id).2.records := by
  cases k <;> rfl

end Store.Tables

open Store (Tables)

theorem Puts.perform_records {ε α : Type} {e : ExceptT ε (Dialogue Store.interface) α}
    {Q : α → Prop} (he : Puts Reads e Q) (t : Tables) : (perform e t.records).1 = (perform e t).1 :=
  (he.asks.run_congr (R := Tables.SameRecords) (fun c t t' hc h ↦ ⟨h.answer hc, by
    rw [Tables.answer_of_not_isWrite t (Store.Call.isWrite_of_readsRecords hc),
      Tables.answer_of_not_isWrite t' (Store.Call.isWrite_of_readsRecords hc)]
    exact h⟩) t.sameRecords_records).1

end Roster
