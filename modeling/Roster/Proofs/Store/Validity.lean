import Roster.Proofs.Store.Performing
import Roster.Proofs.Store.Visiting

namespace Roster

namespace Store

variable {α : Type} {a b : α} {key : String}

namespace Table

variable {t : Table α}

theorem mem_values_insert (h : b ∈ (t.insert key a).values) : b = a ∨ b ∈ t.values := by
  obtain ⟨e, he, rfl⟩ := List.mem_map.mp h
  unfold insert at he
  split at he
  · obtain ⟨e', he', rfl⟩ := List.mem_map.mp he
    split
    · exact .inl rfl
    · exact .inr (List.mem_map_of_mem he')
  · rcases List.mem_append.mp he with he | he
    · exact .inr (List.mem_map_of_mem he)
    · rw [List.mem_singleton.mp he]
      exact .inl rfl

theorem mem_values_erase (h : a ∈ (t.erase key).values) : a ∈ t.values := by
  obtain ⟨e, he, rfl⟩ := List.mem_map.mp h
  exact List.mem_map_of_mem (List.mem_filter.mp he).1

end Table

def Call.PutsValid : Call → Prop
  | .createUser u | .updateUser u => u.validate = []
  | .createCircle _ c _ | .updateCircle _ c => c.validate = []
  | _ => True

theorem Call.putsValid_of_not_isWrite {c : Call} (h : c.isWrite = false) : c.PutsValid := by
  cases c <;> trivial

namespace Tables

structure Valid (t : Tables) : Prop where
  users : ∀ u ∈ t.users.values, u.validate = []
  circles : ∀ k, ∀ c ∈ (t.of k).circles.values, c.validate = []

variable {t t' : Tables}

namespace Valid

theorem empty : Tables.empty.Valid where
  users := by simp [Tables.empty, Table.empty, Table.values]
  circles k := by cases k <;> simp [Tables.empty, Tables.of, Table.empty, Table.values]

theorem of_sameRecords (ht : t.Valid) (h : t.SameRecords t') : t'.Valid where
  users := by
    rw [h.users]
    exact ht.users
  circles k := by
    rw [h.circles]
    exact ht.circles k

theorem rearranged (ht : t.Valid) (h : t.Rearranged t') : t'.Valid where
  users u hu := ht.users u (h.users.mem_values.mp hu)
  circles k c hc := ht.circles k c ((h.circles k).mem_values.mp hc)

theorem insertUser (ht : t.Valid) {u : User} (hu : u.validate = []) :
    ({ t with users := t.users.insert u.id.text u } : Tables).Valid where
  users v hv := by
    rcases Table.mem_values_insert hv with rfl | hv
    · exact hu
    · exact ht.users v hv
  circles k := by
    rw [of_with_users]
    exact ht.circles k

theorem set (ht : t.Valid) {k : Kind} {c : CircleTables}
    (hc : ∀ v ∈ c.circles.values, v.validate = []) : (t.set k c).Valid where
  users := by
    rw [set_users]
    exact ht.users
  circles k' := by
    rw [of_set]
    split
    · exact hc
    · exact ht.circles k'

theorem insertCircle (ht : t.Valid) {k : Kind} {c : Circle} (hc : c.validate = [])
    (rows : List Membership) :
    (t.set k ⟨(t.of k).circles.insert c.id.text c, rows⟩).Valid := by
  apply ht.set
  intro v hv
  rcases Table.mem_values_insert hv with rfl | hv
  · exact hc
  · exact ht.circles k v hv

theorem deleteUser (ht : t.Valid) (id : UserId) : (t.deleteUser id).2.Valid where
  users u hu := ht.users u (Table.mem_values_erase hu)
  circles k := by
    rw [deleteUser_of]
    exact ht.circles k

theorem answer (ht : t.Valid) {c : Call} (hc : c.PutsValid) : (answer c t).2.Valid := by
  cases c with
  | createUser u =>
    rcases t.createUser_cases u with ⟨f, h⟩ | ⟨-, -, h⟩
    · simpa only [Tables.answer, h] using ht
    · simpa only [Tables.answer, h] using ht.insertUser hc
  | updateUser u =>
    rcases t.updateUser_cases u with ⟨f, h⟩ | ⟨-, -, h⟩
    · simpa only [Tables.answer, h] using ht
    · simpa only [Tables.answer, h] using ht.insertUser hc
  | deleteUser id => exact ht.deleteUser id
  | createCircle k c owner =>
    rcases t.createCircle_cases k c owner with ⟨f, h⟩ | ⟨-, -, -, h⟩
    · simpa only [Tables.answer, h] using ht
    · simpa only [Tables.answer, h] using ht.insertCircle hc _
  | updateCircle k c =>
    rcases t.updateCircle_cases k c with ⟨f, h⟩ | ⟨-, -, h⟩
    · simpa only [Tables.answer, h] using ht
    · simpa only [Tables.answer, h] using ht.insertCircle hc _
  | deleteCircle k id => exact ht.set fun v hv ↦ ht.circles k v (Table.mem_values_erase hv)
  | insertMembership k m => exact ht.of_sameRecords (t.insertMembership_sameRecords k m)
  | updatePermission k u c p now =>
    exact ht.of_sameRecords (t.updatePermission_sameRecords k u c p now)
  | deleteMembership k u c => exact ht.of_sameRecords (t.deleteMembership_sameRecords k u c)
  | _ =>
    rw [answer_of_not_isWrite t rfl]
    exact ht

theorem run {α : Type} {d : Dialogue Store.interface α} {Q : α → Prop} (ht : t.Valid)
    (hd : d.Asks Call.PutsValid Q) : (d.run Tables.answer t).2.Valid :=
  hd.run_keeps (fun _ _ hc h ↦ h.answer hc) ht

end Valid

end Tables

end Store

theorem Probes.putsValid {c : Store.Call} (h : Probes c) : c.PutsValid :=
  Store.Call.putsValid_of_not_isWrite
    (Store.Call.isWrite_of_readsRecords (Store.Call.readsRecords_of_isProbe h))

end Roster
