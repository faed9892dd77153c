import Roster.Proofs.Slug.Deriving
import Roster.Proofs.Store.Integrity

namespace Roster

namespace Store

namespace Table

variable {α κ ι : Type} [DecidableEq ι] {t : Table α} {id : α → ι} {get : α → κ → String}
variable {key : κ} {value : String} {i : ι}

def taken (t : Table α) (id : α → ι) (get : α → κ → String) (key : κ) (value : String)
    (except : Option ι) : Bool :=
  t.values.any fun a ↦ some (id a) != except && get a key == value

theorem taken_eq_false_iff :
    t.taken id get key value (some i) = false ↔
      ∀ a ∈ t.values, id a ≠ i → get a key ≠ value := by
  simp [taken]

theorem taken_none : t.taken id get key value none = !t.lacks (get · key) value := by
  rw [taken, lacks, Bool.not_not]
  exact List.any_congr rfl fun a ↦ by rw [bne_iff_ne.mpr (Option.some_ne_none _), Bool.true_and]

theorem not_taken_none : (fun value ↦ !t.taken id get key value none) = t.lacks (get · key) :=
  funext fun _ ↦ by rw [taken_none, Bool.not_not]

theorem taken_of_lacks (h : t.lacks (get · key) value = true) (except : Option ι) :
    t.taken id get key value except = false := by
  rw [taken, List.any_eq_false]
  intro a ha htaken
  exact lacks_iff.mp h a ha (eq_of_beq (Bool.and_eq_true_iff.mp htaken).2)

end Table

namespace Tables

variable {t t' : Tables} {k : Kind} {u v : User} {c d : Circle}

def userTaken (t : Tables) : User.Key → String → Option UserId → Bool :=
  t.users.taken User.id User.get

def circleTaken (t : Tables) (k : Kind) : Circle.Key → String → Option CircleId → Bool :=
  (t.of k).circles.taken Circle.id Circle.get

structure ReplacesUser (t : Tables) (v : User) (t' : Tables) : Prop where
  users : t'.users = t.users.insert v.id.text v
  stored : t'.users.get? v.id.text = some v
  others : ∀ key, key ≠ v.id.text → t'.users.get? key = t.users.get? key
  keys : t'.users.keys = t.users.keys
  kinds : ∀ k, t'.of k = t.of k

structure ReplacesCircle (t : Tables) (k : Kind) (d : Circle) (t' : Tables) : Prop where
  circles : (t'.of k).circles = (t.of k).circles.insert d.id.text d
  stored : (t'.of k).circles.get? d.id.text = some d
  others : ∀ key, key ≠ d.id.text → (t'.of k).circles.get? key = (t.of k).circles.get? key
  keys : (t'.of k).circles.keys = (t.of k).circles.keys
  memberships : (t'.of k).memberships = (t.of k).memberships
  users : t'.users = t.users
  kinds : ∀ k', k' ≠ k → t'.of k' = t.of k'

theorem replacesUser_iff (h : t.users.contains v.id.text = true) :
    t.ReplacesUser v t' ↔ t' = { t with users := t.users.insert v.id.text v } := by
  constructor
  · intro ht'
    refine ext_of ht'.users fun k ↦ ?_
    exact (ht'.kinds k).trans (of_with_users ..).symm
  · rintro rfl
    refine ⟨rfl, ?_, fun key hkey ↦ ?_, ?_, fun k ↦ of_with_users ..⟩
    · rw [Table.get?_insert, if_pos rfl]
    · rw [Table.get?_insert, if_neg hkey]
    · rw [Table.keys_insert, if_pos h]

theorem replacesCircle_iff (h : (t.of k).circles.contains d.id.text = true) :
    t.ReplacesCircle k d t' ↔
      t' = t.set k { t.of k with circles := (t.of k).circles.insert d.id.text d } := by
  constructor
  · intro ht'
    refine ext_of (ht'.users.trans (set_users ..).symm) fun k' ↦ ?_
    rw [of_set]
    split
    · next hk =>
      subst hk
      exact congrArg₂ CircleTables.mk ht'.circles ht'.memberships
    · next hk => exact ht'.kinds k' hk
  · rintro rfl
    refine ⟨?_, ?_, fun key hkey ↦ ?_, ?_, ?_, set_users .., fun k' hk' ↦ ?_⟩
    · rw [of_set_self]
    · rw [of_set_self, Table.get?_insert, if_pos rfl]
    · rw [of_set_self, Table.get?_insert, if_neg hkey]
    · rw [of_set_self, Table.keys_insert, if_pos h]
    · rw [of_set_self]
    · rw [of_set, if_neg hk']

theorem userClash_eq_none_iff_taken :
    t.userClash u = none ↔ ∀ key, t.userTaken key (u.get key) (some u.id) = false := by
  simp only [userClash_eq_none, userTaken, Table.taken_eq_false_iff]
  exact ⟨fun h key v hv hid ↦ h v hv hid key, fun h v hv hid key ↦ h key v hv hid⟩

theorem circleClash_eq_none_iff_taken :
    circleClash (t.of k) c = none ↔
      ∀ key, t.circleTaken k key (c.get key) (some c.id) = false := by
  simp only [circleClash_eq_none, circleTaken, Table.taken_eq_false_iff]
  exact ⟨fun h key v hv hid ↦ h v hv hid key, fun h v hv hid key ↦ h key v hv hid⟩

theorem Integrity.replacesUser_self (ht : t.Integrity) (hu : u ∈ t.users.values) :
    t.ReplacesUser u t := by
  have hget := ht.users_sound.mem_values.mp hu
  rw [replacesUser_iff (Table.contains_iff.mpr ⟨u, hget⟩),
    Table.insert_of_get? ht.users_sound.keys_nodup hget]

theorem Integrity.replacesCircle_self (ht : t.Integrity) (hc : c ∈ (t.of k).circles.values) :
    t.ReplacesCircle k c t := by
  have hsound := (ht.kinds_sound k).circles_sound
  have hget := hsound.mem_values.mp hc
  have hset : t.set k (t.of k) = t := by cases k <;> rfl
  rw [replacesCircle_iff (Table.contains_iff.mpr ⟨c, hget⟩),
    Table.insert_of_get? hsound.keys_nodup hget]
  exact hset.symm

theorem Integrity.userTaken_of_stored (ht : t.Integrity) (hu : u ∈ t.users.values) (key : User.Key) :
    t.userTaken key (u.get key) (some u.id) = false :=
  Table.taken_eq_false_iff.mpr fun _ hv hid hkey ↦
    hid (congrArg User.id (ht.users_sound.eq_of_get_eq hv hu key hkey))

theorem Integrity.circleTaken_of_stored (ht : t.Integrity) (hc : c ∈ (t.of k).circles.values)
    (key : Circle.Key) : t.circleTaken k key (c.get key) (some c.id) = false :=
  Table.taken_eq_false_iff.mpr fun _ hv hid hkey ↦
    hid (congrArg Circle.id ((ht.kinds_sound k).circles_sound.eq_of_get_eq hv hc key hkey))

/-- A user who is stored can be replaced by one whose values no other has. -/
theorem updateUser_eq_ok_iff : t.updateUser u = (.ok v, t') ↔
    v = u ∧ t.users.contains u.id.text = true ∧
      (∀ key, t.userTaken key (u.get key) (some u.id) = false) ∧ t.ReplacesUser u t' := by
  rw [← userClash_eq_none_iff_taken]
  cases hstored : t.users.contains u.id.text with
  | false => simp [updateUser, hstored]
  | true =>
    rw [replacesUser_iff hstored, updateUser, if_pos hstored, putUser]
    cases hclash : t.userClash u with
    | some key => simp
    | none =>
      simp only [Prod.mk.injEq, Except.ok.injEq, true_and]
      exact and_congr eq_comm eq_comm

/-- A user can be created under an id that nobody has if no other has one of his values. -/
theorem createUser_eq_ok_iff : t.createUser u = (.ok v, t') ↔
    v = u ∧ t.users.contains u.id.text = false ∧
      (∀ key, t.userTaken key (u.get key) (some u.id) = false) ∧
      t' = { t with users := t.users.insert u.id.text u } := by
  rw [← userClash_eq_none_iff_taken, createUser, putUser]
  cases t.users.contains u.id.text with
  | true => simp
  | false =>
    cases t.userClash u with
    | some key => simp
    | none =>
      simp only [Bool.false_eq_true, if_false, Prod.mk.injEq, Except.ok.injEq, true_and]
      exact and_congr eq_comm eq_comm

theorem updateCircle_eq_ok_iff : t.updateCircle k c = (.ok d, t') ↔
    d = c ∧ (t.of k).circles.contains c.id.text = true ∧
      (∀ key, t.circleTaken k key (c.get key) (some c.id) = false) ∧ t.ReplacesCircle k c t' := by
  rw [← circleClash_eq_none_iff_taken]
  cases hstored : (t.of k).circles.contains c.id.text with
  | false => simp [updateCircle, hstored]
  | true =>
    rw [replacesCircle_iff hstored, updateCircle]
    simp only [hstored, if_true]
    cases hclash : circleClash (t.of k) c with
    | some key => simp
    | none =>
      simp only [Prod.mk.injEq, Except.ok.injEq, true_and]
      exact and_congr eq_comm eq_comm

end Tables

end Store

open Store (Tables)

theorem perform_isUserTaken (key : User.Key) (value : String) (except : Option UserId)
    (t : Tables) : perform (Errand.ask (.isUserTaken key value except)) t =
      (.ok (t.userTaken key value except), t) := rfl

theorem perform_isCircleTaken (k : Kind) (key : Circle.Key) (value : String)
    (except : Option CircleId) (t : Tables) :
    perform (Errand.ask (.isCircleTaken k key value except)) t =
      (.ok (t.circleTaken k key value except), t) := rfl

end Roster
