import Roster.Proofs.Sql.Holdings
import Roster.Proofs.Store.Founding
import Roster.Proofs.Store.Taken

namespace Roster

namespace Sql

variable {now : Timestamp}

theorem Circles.foldl_creationStatements (rows : Rows) (k : Kind) (c : Circle)
    (owner : Option Membership) : (creationStatements k c owner).foldl (Rows.after now) rows =
      owner.elim (rows.after now (insert k c)) fun m ↦
        (rows.after now (insert k c)).after now (insertMembership k m) := by
  rw [creationStatements, List.foldl_append, List.foldl_append, List.foldl_cons, List.foldl_cons,
    List.foldl_nil, List.foldl_cons, List.foldl_nil, Rows.after_of_none Statement.write?_begin,
    Rows.after_of_none Statement.write?_commit]
  cases owner <;> rfl

namespace Holdings

variable (h : Holdings) (k : Kind)

def withCircle (c : Circle) (owner : Option Membership) : Holdings :=
  (h.setCircles k (h.circles k ++ [c])).setMemberships k (h.memberships k ++ owner.toList)

theorem after_creationStatements (c : Circle) (owner : Option Membership) :
    (Circles.creationStatements k c owner).foldl (Rows.after now) h.rows =
      (h.withCircle k c owner).rows := by
  have hsame : (h.setCircles k (h.circles k ++ [c])).memberships k = h.memberships k := rfl
  rw [Circles.foldl_creationStatements, after_insertCircle, withCircle]
  cases owner with
  | none =>
    rw [Option.elim_none, Option.toList_none, List.append_nil, ← hsame, setMemberships,
      Function.update_eq_self]
  | some m => rw [Option.elim_some, Option.toList_some, after_insertMembership, hsame]

end Holdings

end Sql

open Sql (Constraint Holdings Rows Statement)
open Sql.Schema (fieldKey idKey joinKey pairKey)

namespace Store

def Tables.holdings (t : Tables) : Holdings :=
  ⟨t.users.values, fun k ↦ (t.of k).circles.values, fun k ↦ (t.of k).memberships⟩

def Tables.rows (t : Tables) : Rows :=
  t.holdings.rows

def Call.writing : Call → List Statement
  | .createUser u => [Sql.Users.insert u]
  | .updateUser u => [Sql.Users.replace u]
  | .createCircle k c owner => Sql.Circles.creationStatements k c owner
  | .updateCircle k c => [Sql.Circles.replace k c]
  | .insertMembership k m => [Sql.Circles.insertMembership k m]
  | .updatePermission k u c p _ => [Sql.Memberships.setPermission k u c p]
  | _ => []

def Call.violated (c : Call) (now : Timestamp) (t : Tables) : List Constraint :=
  (c.writing.foldl (Rows.after now) t.rows).violated

def Call.refused (c : Call) (now : Timestamp) (t : Tables) : List Constraint :=
  t.rows.refused now c.writing

namespace Tables

variable {now : Timestamp} {t : Tables} {k : Kind}

theorem Integrity.contains_user_iff (ht : t.Integrity) (id : UserId) :
    t.users.contains id.text = true ↔ id ∈ t.holdings.users.map User.id := by
  rw [Table.contains_iff_mem_keys, ← ht.users_sound.map_id_values]
  simp [holdings, UserId.text_inj]

theorem Integrity.contains_circle_iff (ht : t.Integrity) (id : CircleId) :
    (t.of k).circles.contains id.text = true ↔ id ∈ (t.holdings.circles k).map Circle.id := by
  rw [Table.contains_iff_mem_keys, ← (ht.kinds_sound k).circles_sound.map_id_values]
  simp [holdings, CircleId.text_inj]

theorem Integrity.lacks_user_iff (ht : t.Integrity) (id : UserId) :
    t.users.contains id.text = false ↔ id ∉ t.holdings.users.map User.id := by
  rw [← ht.contains_user_iff, Bool.not_eq_true]

theorem Integrity.lacks_circle_iff (ht : t.Integrity) (id : CircleId) :
    (t.of k).circles.contains id.text = false ↔ id ∉ (t.holdings.circles k).map Circle.id := by
  rw [← ht.contains_circle_iff, Bool.not_eq_true]

theorem isAttached_iff {m : Membership} : t.isAttached k m.userId m.circleId = true ↔
    m.pair ∈ (t.holdings.memberships k).map Membership.pair := by
  rw [← Bool.not_eq_false, isAttached_eq_false, not_not]
  rfl

theorem Integrity.contains_of_isAttached (ht : t.Integrity) {u : UserId} {c : CircleId}
    (h : t.isAttached k u c = true) : (t.of k).circles.contains c.text = true := by
  obtain ⟨m, hm, hpair⟩ := List.any_eq_true.mp h
  obtain ⟨-, rfl⟩ := Membership.isPair_iff.mp hpair
  exact ((ht.kinds_sound k).joins_stored m hm).2

theorem Integrity.holdings_sound (ht : t.Integrity) : t.holdings.Sound where
  userIds := by
    refine .of_map UserId.text ?_
    rw [List.map_map]
    exact ht.users_sound.map_id_values ▸ ht.users_sound.keys_nodup
  userFields key := ht.users_sound.values_nodup.map_on fun u hu v hv h ↦
    ht.users_sound.eq_of_get_eq hu hv key h
  circleIds k := by
    have hk := (ht.kinds_sound k).circles_sound
    refine .of_map CircleId.text ?_
    rw [List.map_map]
    exact hk.map_id_values ▸ hk.keys_nodup
  circleFields k key := by
    have hk := (ht.kinds_sound k).circles_sound
    exact hk.values_nodup.map_on fun c hc d hd h ↦ hk.eq_of_get_eq hc hd key h
  pairs k := (ht.kinds_sound k).pairs_nodup
  joinsUsers k m hm := (ht.contains_user_iff m.userId).mp ((ht.kinds_sound k).joins_stored m hm).1
  joinsCircles k m hm :=
    (ht.contains_circle_iff m.circleId).mp ((ht.kinds_sound k).joins_stored m hm).2

variable {κ : Constraint} {u : User} {c : Circle}

theorem Integrity.mem_violated_createUser (ht : t.Integrity) (u : User) :
    κ ∈ (Call.createUser u).violated now t ↔
      (κ = idKey "users" ∧ t.users.contains u.id.text = true) ∨
      ∃ key : User.Key, κ = fieldKey "users" key.name ∧
        u.get key ∈ t.users.values.map (·.get key) := by
  have hs := ht.holdings_sound
  have hgrows : t.holdings.users.map User.id ⊆ (t.holdings.users ++ [u]).map User.id := by
    rw [List.map_append]
    exact List.subset_append_left _ _
  rw [Call.violated, Call.writing, List.foldl_cons, List.foldl_nil, Tables.rows,
    Holdings.after_insertUser, Holdings.mem_violated, hs.breaks_setUsers hgrows,
    Sql.not_nodup_map_append hs.userIds, ht.contains_user_iff]
  refine or_congr Iff.rfl (exists_congr fun key ↦ and_congr Iff.rfl ?_)
  exact Sql.not_nodup_map_append (hs.userFields key)

theorem Integrity.mem_violated_updateUser (ht : t.Integrity) (u : User) :
    κ ∈ (Call.updateUser u).violated now t ↔
      ∃ key : User.Key, κ = fieldKey "users" key.name ∧ t.users.contains u.id.text = true ∧
        ∃ v ∈ t.users.values, v.id ≠ u.id ∧ v.get key = u.get key := by
  have hs := ht.holdings_sound
  have hids : (t.holdings.users.map fun v ↦ if v.id = u.id then
      { u with id := v.id, createdAt := v.createdAt } else v).map User.id =
      t.holdings.users.map User.id := Sql.map_change fun v ↦ rfl
  rw [Call.violated, Call.writing, List.foldl_cons, List.foldl_nil, Tables.rows,
    Holdings.after_replaceUser, Holdings.mem_violated, Holdings.changeUser,
    hs.breaks_setUsers (hids ▸ List.Subset.refl _), hids, ht.contains_user_iff]
  simp only [hs.userIds, not_true_eq_false, and_false, false_or]
  refine exists_congr fun key ↦ and_congr Iff.rfl ?_
  exact Sql.not_nodup_map_change hs.userIds (hs.userFields key) fun v ↦ by cases key <;> rfl

theorem Integrity.mem_violated_updateCircle (ht : t.Integrity) (k : Kind) (c : Circle) :
    κ ∈ (Call.updateCircle k c).violated now t ↔
      ∃ key : Circle.Key, κ = fieldKey k.plural key.text ∧
        (t.of k).circles.contains c.id.text = true ∧
          ∃ d ∈ (t.of k).circles.values, d.id ≠ c.id ∧ d.get key = c.get key := by
  have hs := ht.holdings_sound
  have hids : ((t.holdings.circles k).map fun d ↦ if d.id = c.id then
      { c with id := d.id, createdAt := d.createdAt } else d).map Circle.id =
      (t.holdings.circles k).map Circle.id := Sql.map_change fun d ↦ rfl
  rw [Call.violated, Call.writing, List.foldl_cons, List.foldl_nil, Tables.rows,
    Holdings.after_replaceCircle, Holdings.mem_violated, Holdings.changeCircle,
    hs.breaks_setCircles (hids ▸ List.Subset.refl _), hids, ht.contains_circle_iff]
  simp only [hs.circleIds, not_true_eq_false, and_false, false_or]
  refine exists_congr fun key ↦ and_congr Iff.rfl ?_
  exact Sql.not_nodup_map_change (hs.circleIds k) (hs.circleFields k key) fun d ↦ by
    cases key <;> rfl

theorem Integrity.mem_violated_insertCircle (ht : t.Integrity) (k : Kind) (c : Circle) :
    κ ∈ (t.rows.after now (Sql.Circles.insert k c)).violated ↔
      (κ = idKey k.plural ∧ (t.of k).circles.contains c.id.text = true) ∨
      ∃ key : Circle.Key, κ = fieldKey k.plural key.text ∧
        c.get key ∈ (t.of k).circles.values.map (·.get key) := by
  have hs := ht.holdings_sound
  have hgrows : (t.holdings.circles k).map Circle.id ⊆
      (t.holdings.circles k ++ [c]).map Circle.id := by
    rw [List.map_append]
    exact List.subset_append_left _ _
  rw [Tables.rows, Holdings.after_insertCircle, Holdings.mem_violated,
    hs.breaks_setCircles hgrows, Sql.not_nodup_map_append (hs.circleIds k),
    ht.contains_circle_iff]
  refine or_congr Iff.rfl (exists_congr fun key ↦ and_congr Iff.rfl ?_)
  exact Sql.not_nodup_map_append (hs.circleFields k key)

/-- All that the creation of a circle can break, whichever circle the row of the owner names. -/
theorem Integrity.mem_violated_createCircle (ht : t.Integrity) (k : Kind) (c : Circle)
    (owner : Option Membership) :
    κ ∈ (Call.createCircle k c owner).violated now t ↔
      (κ = idKey k.plural ∧ (t.of k).circles.contains c.id.text = true) ∨
      (∃ key : Circle.Key, κ = fieldKey k.plural key.text ∧
        c.get key ∈ (t.of k).circles.values.map (·.get key)) ∨
      (κ = pairKey k ∧ ∃ m ∈ owner, t.isAttached k m.userId m.circleId = true) ∨
      (κ = joinKey k "user_id" "users" ∧
        ∃ m ∈ owner, t.users.contains m.userId.text = false) ∨
      (κ = joinKey k (Sql.Memberships.column k) k.plural ∧
        ∃ m ∈ owner, m.circleId ≠ c.id ∧ (t.of k).circles.contains m.circleId.text = false) := by
  have hs := ht.holdings_sound
  have hgrown (id : CircleId) : id ∉ (t.holdings.circles k ++ [c]).map Circle.id ↔
      id ≠ c.id ∧ (t.of k).circles.contains id.text = false := by
    rw [List.map_append, List.mem_append, not_or, ht.lacks_circle_iff, and_comm]
    simp
  have hjoined : ∀ m ∈ t.holdings.memberships k,
      ¬m.circleId ∉ (t.holdings.circles k ++ [c]).map Circle.id := by
    intro m hm hlost
    rw [List.map_append, List.mem_append, not_or] at hlost
    exact hlost.1 (hs.joinsCircles k m hm)
  rw [Call.violated, Call.writing, Tables.rows, Holdings.after_creationStatements,
    Holdings.mem_violated, hs.breaks_of_kind (t.holdings.withCircle k c owner) rfl
      (fun k' hk ↦ Function.update_of_ne hk _ _) fun k' hk ↦ Function.update_of_ne hk _ _]
  simp only [Holdings.withCircle, Holdings.setMemberships, Holdings.setCircles,
    Function.update_self, Sql.not_nodup_map_append (hs.circleIds k),
    Sql.not_nodup_map_append (hs.circleFields k _), ht.contains_circle_iff]
  refine or_congr Iff.rfl (or_congr Iff.rfl (or_congr (and_congr Iff.rfl ?_) (or_congr ?_ ?_)))
  · cases owner with
    | none => simp [hs.pairs k]
    | some m =>
      rw [Option.toList_some, Sql.not_nodup_map_append (hs.pairs k), ← isAttached_iff]
      simp
  · rw [Sql.exists_mem_append fun m hm ↦ not_not.mpr (hs.joinsUsers k m hm)]
    simp only [Option.mem_toList, Option.mem_def, ht.lacks_user_iff]
  · rw [Sql.exists_mem_append hjoined]
    simp only [Option.mem_toList, Option.mem_def, hgrown]

theorem Integrity.refused_createCircle (ht : t.Integrity) (owner : Option Membership)
    (hrow : (t.rows.after now (Sql.Circles.insert k c)).violated ≠ []) :
    (Call.createCircle k c owner).refused now t =
      (t.rows.after now (Sql.Circles.insert k c)).violated := by
  have hsound : t.rows.violated = [] := ht.holdings_sound.violated_eq_nil
  have hwriting : (Call.createCircle k c owner).writing = .begin :: Sql.Circles.insert k c ::
      (owner.toList.map (Sql.Circles.insertMembership k) ++ [.commit]) := rfl
  rw [Call.refused, hwriting, Rows.refused_cons, Rows.after_of_none Statement.write?_begin,
    if_pos hsound, Rows.refused_cons, if_neg hrow]

theorem Integrity.mem_violated_insertMembership (ht : t.Integrity) (k : Kind) (m : Membership) :
    κ ∈ (Call.insertMembership k m).violated now t ↔
      (κ = pairKey k ∧ t.isAttached k m.userId m.circleId = true) ∨
      (κ = joinKey k "user_id" "users" ∧ t.users.contains m.userId.text = false) ∨
      (κ = joinKey k (Sql.Memberships.column k) k.plural ∧
        (t.of k).circles.contains m.circleId.text = false) := by
  have hs := ht.holdings_sound
  rw [Call.violated, Call.writing, List.foldl_cons, List.foldl_nil, Tables.rows,
    Holdings.after_insertMembership, Holdings.mem_violated, hs.breaks_setMemberships,
    Sql.not_nodup_map_append (hs.pairs k), isAttached_iff,
    Sql.exists_mem_append fun n hn ↦ not_not.mpr (hs.joinsUsers k n hn),
    Sql.exists_mem_append fun n hn ↦ not_not.mpr (hs.joinsCircles k n hn), ht.lacks_user_iff,
    ht.lacks_circle_iff]
  simp only [List.mem_singleton, exists_eq_left]

theorem Integrity.violated_updatePermission (ht : t.Integrity) (k : Kind) (user : UserId)
    (circle : CircleId) (p : Permission) (changed : Timestamp) :
    (Call.updatePermission k user circle p changed).violated now t = [] := by
  rw [Call.violated, Call.writing, List.foldl_cons, List.foldl_nil, Tables.rows,
    Holdings.after_setPermission, Holdings.changePermission]
  exact ht.holdings_sound.violated_setMemberships (Sql.map_change fun _ ↦ rfl)

end Tables

end Store

end Roster
