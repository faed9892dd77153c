import Roster.Proofs.Store.Integrity
import Roster.Proofs.Store.Performing

namespace Roster.Store.Tables

def after (t : Tables) (calls : List Call) : Tables :=
  calls.foldl (fun t c ↦ (answer c t).2) t

def Reachable (t : Tables) : Prop :=
  ∃ calls : List Call, (∀ c ∈ calls, c.OwnerFits) ∧ empty.after calls = t

variable {t : Tables} {c : Call}

theorem after_append (t : Tables) (calls calls' : List Call) :
    t.after (calls ++ calls') = (t.after calls).after calls' :=
  List.foldl_append ..

theorem Integrity.after (ht : t.Integrity) (calls : List Call) (hcalls : ∀ c ∈ calls, c.OwnerFits) :
    (t.after calls).Integrity := by
  induction calls generalizing t with
  | nil => exact ht
  | cons c calls ih =>
    obtain ⟨hc, hcalls⟩ := List.forall_mem_cons.mp hcalls
    exact ih (ht.answer hc) hcalls

namespace Reachable

theorem integrity (ht : t.Reachable) : t.Integrity := by
  obtain ⟨calls, hcalls, rfl⟩ := ht
  exact Integrity.empty.after calls hcalls

theorem empty : Tables.empty.Reachable :=
  ⟨[], by simp, rfl⟩

theorem answer (ht : t.Reachable) (hc : c.OwnerFits) : (answer c t).2.Reachable := by
  obtain ⟨calls, hcalls, rfl⟩ := ht
  refine ⟨calls ++ [c], ?_, after_append ..⟩
  intro c' hc'
  rcases List.mem_append.mp hc' with hc' | hc'
  · exact hcalls c' hc'
  · rwa [List.mem_singleton.mp hc']

theorem run {α : Type} {d : Dialogue Store.interface α} (ht : t.Reachable)
    (hd : d.Asks Call.OwnerFits) : (d.run Tables.answer t).2.Reachable :=
  hd.run_keeps (fun _ _ hc h ↦ h.answer hc) ht

theorem perform {ε α : Type} {e : ExceptT ε (Dialogue Store.interface) α} {Q : α → Prop}
    (ht : t.Reachable) (he : Puts Call.OwnerFits e Q) : (perform e t).2.Reachable :=
  he.perform_keeps (fun _ _ hc h ↦ h.answer hc) ht

/-- Parties that share the store lead to reachable tables, whatever the order of their calls. -/
theorem interleave {ι α : Type} [DecidableEq ι] {party : ι → Dialogue Store.interface α}
    (ht : t.Reachable) (hparty : ∀ i, (party i).Asks Call.OwnerFits) (schedule : List ι) :
    ((Assembly.mk party t).run Tables.answer schedule).state.Reachable :=
  Assembly.run_keeps (fun _ _ hc h ↦ h.answer hc) hparty ht schedule

end Reachable

theorem user_absent_answer {id : UserId} (ht : t.users.get? id.text = none)
    (hc : ∀ u, c = .createUser u → u.id ≠ id) : (answer c t).2.users.get? id.text = none := by
  have hput {u : User} (hu : u.id ≠ id) : (t.users.insert u.id.text u).get? id.text = none := by
    rw [Table.get?_insert, if_neg (fun h ↦ hu (UserId.text_inj.mp h.symm)), ht]
  cases c with
  | createUser u =>
    rcases t.createUser_cases u with ⟨f, h⟩ | ⟨-, -, h⟩
    · simpa only [answer, h] using ht
    · simpa only [answer, h] using hput (hc u rfl)
  | updateUser u =>
    rcases t.updateUser_cases u with ⟨f, h⟩ | ⟨hstored, -, h⟩
    · simpa only [answer, h] using ht
    · -- An update wants its record to be there already.
      have hu : u.id ≠ id := by
        rintro rfl
        rw [Table.contains_eq_false.mpr ht] at hstored
        cases hstored
      simpa only [answer, h] using hput hu
  | deleteUser id' =>
    simp only [answer, deleteUser, Table.get?_erase, ht, ite_self]
  | createCircle k c owner => simpa only [answer, createCircle_users] using ht
  | updateCircle k c => simpa only [answer, updateCircle_users] using ht
  | deleteCircle k id => simpa only [answer, deleteCircle_users] using ht
  | insertMembership k m => rwa [answer, (t.insertMembership_sameRecords k m).users]
  | updatePermission k u c p now =>
    rwa [answer, (t.updatePermission_sameRecords k u c p now).users]
  | deleteMembership k u c => rwa [answer, (t.deleteMembership_sameRecords k u c).users]
  | _ => rwa [answer_of_not_isWrite t rfl]

theorem circle_absent_answer {k : Kind} {id : CircleId} (ht : (t.of k).circles.get? id.text = none)
    (hc : ∀ v owner, c = .createCircle k v owner → v.id ≠ id) :
    ((answer c t).2.of k).circles.get? id.text = none := by
  have hput {k' : Kind} {v : Circle} {rows : List Membership} (hv : k' = k → v.id ≠ id) :
      ((t.set k' ⟨(t.of k').circles.insert v.id.text v, rows⟩).of k).circles.get? id.text =
        none := by
    rw [of_set]
    split
    · next h =>
      subst h
      rw [Table.get?_insert, if_neg (fun h ↦ hv rfl (CircleId.text_inj.mp h.symm)), ht]
    · exact ht
  cases c with
  | createUser u =>
    rcases t.createUser_cases u with ⟨f, h⟩ | ⟨-, -, h⟩ <;>
      simpa only [answer, h, of_with_users] using ht
  | updateUser u =>
    rcases t.updateUser_cases u with ⟨f, h⟩ | ⟨-, -, h⟩ <;>
      simpa only [answer, h, of_with_users] using ht
  | deleteUser id' => simpa only [answer, deleteUser_of, withoutUser] using ht
  | createCircle k' v owner =>
    rcases t.createCircle_cases k' v owner with ⟨f, h⟩ | ⟨-, -, -, h⟩
    · simpa only [answer, h] using ht
    · simp only [answer, h]
      exact hput (by rintro rfl; exact hc v owner rfl)
  | updateCircle k' v =>
    rcases t.updateCircle_cases k' v with ⟨f, h⟩ | ⟨hstored, -, h⟩
    · simpa only [answer, h] using ht
    · simp only [answer, h]
      refine hput ?_
      rintro rfl rfl
      rw [Table.contains_eq_false.mpr ht] at hstored
      cases hstored
  | deleteCircle k' id' =>
    simp only [answer, deleteCircle, of_set]
    split
    · next h =>
      subst h
      simp only [Table.get?_erase, ht, ite_self]
    · exact ht
  | insertMembership k m => rwa [answer, (t.insertMembership_sameRecords k m).circles]
  | updatePermission k u c p now =>
    rwa [answer, (t.updatePermission_sameRecords k u c p now).circles]
  | deleteMembership k u c => rwa [answer, (t.deleteMembership_sameRecords k u c).circles]
  | _ => rwa [answer_of_not_isWrite t rfl]

theorem user_absent_after {id : UserId} (ht : t.users.get? id.text = none) (calls : List Call)
    (hcalls : ∀ u, .createUser u ∈ calls → u.id ≠ id) :
    (t.after calls).users.get? id.text = none := by
  induction calls generalizing t with
  | nil => exact ht
  | cons c calls ih =>
    refine ih (user_absent_answer ht ?_) fun u hu ↦ hcalls u (List.mem_cons_of_mem _ hu)
    rintro u rfl
    exact hcalls u List.mem_cons_self

theorem circle_absent_after {k : Kind} {id : CircleId} (ht : (t.of k).circles.get? id.text = none)
    (calls : List Call) (hcalls : ∀ v owner, .createCircle k v owner ∈ calls → v.id ≠ id) :
    ((t.after calls).of k).circles.get? id.text = none := by
  induction calls generalizing t with
  | nil => exact ht
  | cons c calls ih =>
    refine ih (circle_absent_answer ht ?_) fun v o hv ↦ hcalls v o (List.mem_cons_of_mem _ hv)
    rintro v o rfl
    exact hcalls v o List.mem_cons_self

theorem deleteUser_absent (t : Tables) (id : UserId) :
    (t.deleteUser id).2.users.get? id.text = none := by
  rw [deleteUser, Table.get?_erase, if_pos rfl]

theorem deleteCircle_absent (t : Tables) (k : Kind) (id : CircleId) :
    ((t.deleteCircle k id).2.of k).circles.get? id.text = none := by
  rw [deleteCircle, of_set_self, Table.get?_erase, if_pos rfl]

end Roster.Store.Tables
