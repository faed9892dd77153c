import Roster.Proofs.Dialogue.Interleaving
import Roster.Proofs.Store.Effects

namespace Roster

def Membership.pair (m : Membership) : UserId × CircleId :=
  (m.userId, m.circleId)

namespace Store

/-- Rows that join stored records, every pair at most once, in a table of circles that is sound. -/
structure CircleTables.Sound (users : Table User) (c : CircleTables) : Prop where
  circles_sound : c.circles.Sound (·.id.text) Circle.get
  pairs_nodup : (c.memberships.map Membership.pair).Nodup
  joins_stored : ∀ m ∈ c.memberships,
    users.contains m.userId.text = true ∧ c.circles.contains m.circleId.text = true

structure Tables.Integrity (t : Tables) : Prop where
  users_sound : t.users.Sound (·.id.text) User.get
  kinds_sound : ∀ k, (t.of k).Sound t.users

theorem CircleTables.Sound.of_users {users users' : Table User} {c : CircleTables}
    (hc : c.Sound users) (hu : ∀ key, users.contains key = true → users'.contains key = true) :
    c.Sound users' where
  circles_sound := hc.circles_sound
  pairs_nodup := hc.pairs_nodup
  joins_stored m hm := ⟨hu _ (hc.joins_stored m hm).1, (hc.joins_stored m hm).2⟩

theorem CircleTables.Sound.withoutUser {users : Table User} {c : CircleTables}
    (hc : c.Sound users) (id : UserId) :
    (Tables.withoutUser c id).Sound (users.erase id.text) where
  circles_sound := hc.circles_sound
  pairs_nodup := hc.pairs_nodup.sublist (List.filter_sublist.map _)
  joins_stored m hm := by
    obtain ⟨hm, hid⟩ := List.mem_filter.mp hm
    obtain ⟨hu, hcirc⟩ := hc.joins_stored m hm
    have hne : m.userId.text ≠ id.text := fun h ↦ bne_iff_ne.mp hid (UserId.text_inj.mp h)
    exact ⟨Table.contains_erase.mpr ⟨hne, hu⟩, hcirc⟩

namespace Tables

variable {t : Tables}

theorem Integrity.empty : Tables.empty.Integrity where
  users_sound := .empty
  kinds_sound k := by
    have h : Tables.empty.of k = ⟨.empty, []⟩ := by cases k <;> rfl
    rw [h]
    exact ⟨.empty, List.nodup_nil, by simp⟩

theorem Integrity.get?_user_iff (ht : t.Integrity) {id : UserId} {u : User} :
    t.users.get? id.text = some u ↔ u ∈ t.users.values ∧ u.id = id := by
  rw [ht.users_sound.mem_values]
  constructor
  · intro h
    have hid : u.id = id := UserId.text_inj.mp (ht.users_sound.key_eq_id h).symm
    exact ⟨hid ▸ h, hid⟩
  · rintro ⟨h, rfl⟩
    exact h

theorem Integrity.set (ht : t.Integrity) {k : Kind} {c : CircleTables} (hc : c.Sound t.users) :
    (t.set k c).Integrity where
  users_sound := by
    rw [set_users]
    exact ht.users_sound
  kinds_sound k' := by
    rw [set_users, of_set]
    split
    · exact hc
    · exact ht.kinds_sound k'

theorem Integrity.insertUser (ht : t.Integrity) {u : User} (hu : t.userClash u = none) :
    ({ t with users := t.users.insert u.id.text u } : Tables).Integrity where
  users_sound := ht.users_sound.insert fun v hv hid key ↦
    userClash_eq_none.mp hu v hv (fun h ↦ hid (congrArg UserId.text h)) key
  kinds_sound k := by
    rw [of_with_users]
    exact (ht.kinds_sound k).of_users fun key h ↦ Table.contains_insert.mpr (.inr h)

theorem Integrity.deleteUser (ht : t.Integrity) (id : UserId) : (t.deleteUser id).2.Integrity where
  users_sound := ht.users_sound.erase id.text
  kinds_sound k := by
    rw [deleteUser_of]
    exact (ht.kinds_sound k).withoutUser id

theorem Integrity.createCircle (ht : t.Integrity) (k : Kind) (c : Circle)
    {owner : Option Membership} (hfit : ∀ m ∈ owner, m.circleId = c.id) :
    (t.createCircle k c owner).2.Integrity := by
  rcases t.createCircle_cases k c owner with ⟨f, h⟩ | ⟨howner, hnew, hclash, h⟩
  · rw [h]
    exact ht
  rw [h]
  have hk := ht.kinds_sound k
  refine ht.set ⟨?_, ?_, ?_⟩
  · exact hk.circles_sound.insert fun v hv hid key ↦
      circleClash_eq_none.mp hclash v hv (fun h ↦ hid (congrArg CircleId.text h)) key
  · rw [List.map_append, List.nodup_append]
    refine ⟨hk.pairs_nodup, ?_, ?_⟩
    · cases owner <;> simp
    · -- No row can name a circle that was not there before.
      rintro p hp q hq rfl
      obtain ⟨m, hm, rfl⟩ := List.mem_map.mp hp
      obtain ⟨n, hn, he⟩ := List.mem_map.mp hq
      have hcirc : m.circleId = c.id :=
        (Prod.mk.inj he).2.symm.trans (hfit n (Option.mem_toList.mp hn))
      have hstored := (hk.joins_stored m hm).2
      rw [hcirc, Table.contains_eq_false.mpr hnew] at hstored
      exact Bool.false_ne_true hstored
  · intro m hm
    rcases List.mem_append.mp hm with hm | hm
    · obtain ⟨hu, hc⟩ := hk.joins_stored m hm
      exact ⟨hu, Table.contains_insert.mpr (.inr hc)⟩
    · have hm := Option.mem_toList.mp hm
      exact ⟨howner m hm, Table.contains_insert.mpr (.inl (by rw [hfit m hm]))⟩

theorem Integrity.updateCircle (ht : t.Integrity) (k : Kind) (c : Circle) :
    (t.updateCircle k c).2.Integrity := by
  rcases t.updateCircle_cases k c with ⟨f, h⟩ | ⟨-, hclash, h⟩
  · rw [h]
    exact ht
  rw [h]
  have hk := ht.kinds_sound k
  refine ht.set ⟨?_, hk.pairs_nodup, ?_⟩
  · exact hk.circles_sound.insert fun v hv hid key ↦
      circleClash_eq_none.mp hclash v hv (fun h ↦ hid (congrArg CircleId.text h)) key
  · intro m hm
    obtain ⟨hu, hc⟩ := hk.joins_stored m hm
    exact ⟨hu, Table.contains_insert.mpr (.inr hc)⟩

theorem Integrity.deleteCircle (ht : t.Integrity) (k : Kind) (id : CircleId) :
    (t.deleteCircle k id).2.Integrity := by
  have hk := ht.kinds_sound k
  refine ht.set ⟨hk.circles_sound.erase id.text,
    hk.pairs_nodup.sublist (List.filter_sublist.map _), ?_⟩
  intro m hm
  obtain ⟨hm, hid⟩ := List.mem_filter.mp hm
  obtain ⟨hu, hc⟩ := hk.joins_stored m hm
  have hne : m.circleId.text ≠ id.text := fun h ↦ bne_iff_ne.mp hid (CircleId.text_inj.mp h)
  exact ⟨hu, Table.contains_erase.mpr ⟨hne, hc⟩⟩

theorem isAttached_eq_false {k : Kind} {u : UserId} {c : CircleId} :
    t.isAttached k u c = false ↔ (u, c) ∉ (t.of k).memberships.map Membership.pair := by
  rw [← Bool.not_eq_true, isAttached, List.any_eq_true, List.mem_map]
  simp only [Membership.isPair_iff, Membership.pair, Prod.mk.injEq]

theorem Integrity.insertMembership (ht : t.Integrity) (k : Kind) (m : Membership) :
    (t.insertMembership k m).2.Integrity := by
  rcases t.insertMembership_cases k m with ⟨f, h⟩ | ⟨hu, hc, hnew, h⟩
  · rw [h]
    exact ht
  rw [h]
  have hk := ht.kinds_sound k
  refine ht.set ⟨hk.circles_sound, ?_, ?_⟩
  · rw [List.map_append, List.map_singleton, ← List.concat_eq_append]
    exact hk.pairs_nodup.concat (isAttached_eq_false.mp hnew)
  · intro n hn
    rcases List.mem_append.mp hn with hn | hn
    · exact hk.joins_stored n hn
    · rw [List.mem_singleton.mp hn]
      exact ⟨hu, hc⟩

theorem map_pair_changeFirst {f : Membership → Membership} (hf : ∀ m, (f m).pair = m.pair)
    (p : Membership → Bool) (l : List Membership) :
    (changeFirst p f l).map Membership.pair = l.map Membership.pair := by
  induction l with
  | nil => rfl
  | cons m l ih =>
    rw [changeFirst]
    split
    · rw [List.map_cons, List.map_cons, hf]
    · rw [List.map_cons, List.map_cons, ih]

theorem Integrity.updatePermission (ht : t.Integrity) (k : Kind) (u : UserId) (c : CircleId)
    (p : Permission) (now : Timestamp) : (t.updatePermission k u c p now).2.Integrity := by
  rcases t.updatePermission_cases k u c p now with ⟨-, h⟩ | ⟨m, -, h⟩
  · rw [h]
    exact ht
  rw [h]
  have hk := ht.kinds_sound k
  have hpairs := map_pair_changeFirst (f := (·.setPermission now p)) (fun _ ↦ rfl) (·.isPair u c)
    (t.of k).memberships
  refine ht.set ⟨hk.circles_sound, ?_, ?_⟩
  · rw [hpairs]
    exact hk.pairs_nodup
  · intro n hn
    have hn' := List.mem_map_of_mem (f := Membership.pair) hn
    rw [hpairs] at hn'
    obtain ⟨m, hm, he⟩ := List.mem_map.mp hn'
    rw [← (Prod.mk.inj he).1, ← (Prod.mk.inj he).2]
    exact hk.joins_stored m hm

theorem Integrity.deleteMembership (ht : t.Integrity) (k : Kind) (u : UserId) (c : CircleId) :
    (t.deleteMembership k u c).2.Integrity := by
  rcases t.deleteMembership_cases k u c with ⟨-, h⟩ | ⟨-, h⟩
  · rw [h]
    exact ht
  rw [h]
  have hk := ht.kinds_sound k
  exact ht.set ⟨hk.circles_sound, hk.pairs_nodup.sublist (List.eraseP_sublist.map _),
    fun m hm ↦ hk.joins_stored m (List.eraseP_subset hm)⟩

theorem Integrity.answer (ht : t.Integrity) {c : Call} (hc : c.OwnerFits) :
    (answer c t).2.Integrity := by
  cases c with
  | createUser u =>
    rcases t.createUser_cases u with ⟨f, h⟩ | ⟨-, hclash, h⟩
    · simpa only [Tables.answer, h] using ht
    · simpa only [Tables.answer, h] using ht.insertUser hclash
  | updateUser u =>
    rcases t.updateUser_cases u with ⟨f, h⟩ | ⟨-, hclash, h⟩
    · simpa only [Tables.answer, h] using ht
    · simpa only [Tables.answer, h] using ht.insertUser hclash
  | deleteUser id => exact ht.deleteUser id
  | createCircle k c owner => exact ht.createCircle k c hc
  | updateCircle k c => exact ht.updateCircle k c
  | deleteCircle k id => exact ht.deleteCircle k id
  | insertMembership k m => exact ht.insertMembership k m
  | updatePermission k u c p now => exact ht.updatePermission k u c p now
  | deleteMembership k u c => exact ht.deleteMembership k u c
  | _ =>
    rw [answer_of_not_isWrite t rfl]
    exact ht

theorem Integrity.deleteUser_of_absent (ht : t.Integrity) {id : UserId}
    (h : t.users.contains id.text = false) : (t.deleteUser id).2 = t := by
  have hwithout (k : Kind) : withoutUser (t.of k) id = t.of k := by
    have hrows : (t.of k).memberships.filter (·.userId != id) = (t.of k).memberships := by
      rw [List.filter_eq_self]
      intro m hm
      have hne : m.userId ≠ id := by
        rintro rfl
        rw [((ht.kinds_sound k).joins_stored m hm).1] at h
        cases h
      exact bne_iff_ne.mpr hne
    rw [withoutUser, hrows]
  refine ext_of (Table.erase_of_absent h) fun k ↦ ?_
  rw [deleteUser_of, hwithout]

theorem Integrity.deleteCircle_of_absent (ht : t.Integrity) {k : Kind} {id : CircleId}
    (h : (t.of k).circles.contains id.text = false) : (t.deleteCircle k id).2 = t := by
  have hrows : (t.of k).memberships.filter (·.circleId != id) = (t.of k).memberships := by
    rw [List.filter_eq_self]
    intro m hm
    have hne : m.circleId ≠ id := by
      rintro rfl
      rw [((ht.kinds_sound k).joins_stored m hm).2] at h
      cases h
    exact bne_iff_ne.mpr hne
  refine ext_of (set_users ..) fun k' ↦ ?_
  rw [Tables.deleteCircle, Table.erase_of_absent h, hrows, of_set]
  split
  · next h => rw [h]
  · rfl

/-- A call that fails changes nothing. Deleting takes rows along even where there is no record, but
then there are none. -/
theorem Integrity.answer_failed (ht : t.Integrity) {c : Call} (h : c.Failed (Tables.answer c t).1) :
    (Tables.answer c t).2 = t := by
  cases c with
  | createUser u =>
    rcases t.createUser_cases u with ⟨f, hf⟩ | ⟨-, -, hf⟩ <;> rw [Tables.answer, hf] at h ⊢
    cases h
  | updateUser u =>
    rcases t.updateUser_cases u with ⟨f, hf⟩ | ⟨-, -, hf⟩ <;> rw [Tables.answer, hf] at h ⊢
    cases h
  | deleteUser id => exact ht.deleteUser_of_absent h
  | createCircle k c owner =>
    rcases t.createCircle_cases k c owner with ⟨f, hf⟩ | ⟨-, -, -, hf⟩ <;>
      rw [Tables.answer, hf] at h ⊢
    cases h
  | updateCircle k c =>
    rcases t.updateCircle_cases k c with ⟨f, hf⟩ | ⟨-, -, hf⟩ <;> rw [Tables.answer, hf] at h ⊢
    cases h
  | deleteCircle k id => exact ht.deleteCircle_of_absent h
  | insertMembership k m =>
    rcases t.insertMembership_cases k m with ⟨f, hf⟩ | ⟨-, -, -, hf⟩ <;>
      rw [Tables.answer, hf] at h ⊢
    cases h
  | updatePermission k u c p now =>
    rcases t.updatePermission_cases k u c p now with ⟨-, hf⟩ | ⟨m, -, hf⟩ <;>
      rw [Tables.answer, hf] at h ⊢
    cases h
  | deleteMembership k u c =>
    rcases t.deleteMembership_cases k u c with ⟨-, hf⟩ | ⟨-, hf⟩ <;> rw [Tables.answer, hf] at h ⊢
    cases h
  | _ => exact answer_of_not_isWrite t rfl

end Tables

end Store

end Roster
