import Roster.Proofs.Store.Violations

namespace Roster.Store

open Sql (Constraint)
open Sql.Schema (fieldKey idKey joinKey pairKey)

def Call.userCheck (key : User.Key) : Constraint × Fault :=
  (fieldKey "users" key.name, .field key.name "is already taken")

def Call.circleCheck (k : Kind) (key : Circle.Key) : Constraint × Fault :=
  (fieldKey k.plural key.text, .field key.text "is already taken")

/-- What each violation is to be reported as, in the order in which memory is checked. -/
def Call.checks : Call → List (Constraint × Fault)
  | .createUser u =>
    (idKey "users", .conflict s!"User with ID '{u.id.text}' already exists") ::
      [User.Key.username, .slug, .email].map userCheck
  | .updateUser _ => [User.Key.username, .slug, .email].map userCheck
  | .createCircle k c owner =>
    owner.toList.map (fun m ↦ (joinKey k "user_id" "users", .userNotFound m.userId.text)) ++
      (idKey k.plural, .conflict s!"{k.name} with ID '{c.id.text}' already exists") ::
        [Circle.Key.slug, .name].map (circleCheck k)
  | .updateCircle k _ => [Circle.Key.slug, .name].map (circleCheck k)
  | .insertMembership k m =>
    [(joinKey k "user_id" "users", .userNotFound m.userId.text),
      (joinKey k (Sql.Memberships.column k) k.plural, .circleNotFound k m.circleId.text),
      (pairKey k, .alreadyAssigned k)]
  | _ => []

def firstAmong (κs : List Constraint) (checks : List (Constraint × Fault)) :
    Option (Constraint × Fault) :=
  checks.find? fun check ↦ decide (check.1 ∈ κs)

def Call.putsRecord : Call → Bool
  | .createUser _ | .updateUser _ | .createCircle .. | .updateCircle ..
  | .insertMembership .. => true
  | _ => false

/-- What only a server looks at: the row of an owner may name another circle, which has to be there
and not to have the owner yet. -/
def Call.overlooked : Call → List Constraint
  | .createCircle k c (some m) =>
    if m.circleId = c.id then [] else [pairKey k, joinKey k (Sql.Memberships.column k) k.plural]
  | _ => []

namespace Call

theorem fieldKey_inj {table field field' : String} :
    fieldKey table field = fieldKey table field' ↔ field = field' := by
  constructor
  · intro h
    exact (List.cons.inj (Constraint.Form.unique.inj (congrArg Constraint.form h))).1
  · exact congrArg _

theorem userCheck_inj {key key' : User.Key} :
    fieldKey "users" key.name = fieldKey "users" key'.name ↔ key = key' := by
  rw [fieldKey_inj]
  cases key <;> cases key' <;> decide

theorem circleCheck_inj {k : Kind} {key key' : Circle.Key} :
    fieldKey k.plural key.text = fieldKey k.plural key'.text ↔ key = key' := by
  rw [fieldKey_inj]
  cases key <;> cases key' <;> decide

theorem joinKey_ne (k : Kind) : joinKey k "user_id" "users" ≠
    joinKey k (Sql.Memberships.column k) k.plural := by
  intro h
  have hform := congrArg Constraint.form h
  revert hform
  cases k <;> decide

theorem joinKey_ne_pairKey (k : Kind) (column target : String) :
    joinKey k column target ≠ pairKey k := by
  simp [pairKey, joinKey]

theorem checks_nodup (c : Call) : (c.checks.map (·.1.form)).Nodup := by
  cases c with
  | createUser u =>
    show [Constraint.Form.primaryKey ["id"], .unique ["username"], .unique ["slug"],
      .unique ["email"]].Nodup
    decide
  | updateUser u =>
    show [Constraint.Form.unique ["username"], .unique ["slug"], .unique ["email"]].Nodup
    decide
  | createCircle k c owner =>
    cases owner with
    | none =>
      show [Constraint.Form.primaryKey ["id"], .unique ["slug"], .unique ["name"]].Nodup
      decide
    | some m =>
      show [Constraint.Form.reference "user_id" "users", .primaryKey ["id"], .unique ["slug"],
        .unique ["name"]].Nodup
      decide
  | updateCircle k c =>
    show [Constraint.Form.unique ["slug"], .unique ["name"]].Nodup
    decide
  | insertMembership k m =>
    show [Constraint.Form.reference "user_id" "users",
      .reference (Sql.Memberships.column k) k.plural,
      .primaryKey ["user_id", Sql.Memberships.column k]].Nodup
    cases k <;> decide
  | _ => exact List.nodup_nil

theorem checks_functional (c : Call) {check check' : Constraint × Fault} (h : check ∈ c.checks)
    (h' : check' ∈ c.checks) (hκ : check.1 = check'.1) : check = check' :=
  List.inj_on_of_nodup_map c.checks_nodup h h' (congrArg Constraint.form hκ)

def unhindered (t : Tables) : (c : Call) → Except Fault c.Result
  | .createUser u => .ok u
  | .updateUser u =>
    if t.users.contains u.id.text then .ok u else .error (.userNotFound u.id.text)
  | .createCircle _ c _ => .ok c
  | .updateCircle k c =>
    if (t.of k).circles.contains c.id.text then .ok c else .error (.circleNotFound k c.id.text)
  | .insertMembership _ m => .ok m
  | c => (Tables.answer c t).1

theorem userCheck_mem (key : User.Key) :
    userCheck key ∈ [User.Key.username, .slug, .email].map userCheck :=
  List.mem_map_of_mem (by cases key <;> simp)

theorem circleCheck_mem (k : Kind) (key : Circle.Key) :
    circleCheck k key ∈ [Circle.Key.slug, .name].map (circleCheck k) :=
  List.mem_map_of_mem (by cases key <;> simp)

theorem mem_checks_createCircle (k : Kind) (c : Circle) (owner : Option Membership)
    (check : Constraint × Fault) : check ∈ (createCircle k c owner).checks ↔
      (∃ m ∈ owner, check = (joinKey k "user_id" "users", .userNotFound m.userId.text)) ∨
      check = (idKey k.plural, .conflict s!"{k.name} with ID '{c.id.text}' already exists") ∨
      ∃ key, check = circleCheck k key := by
  rw [checks, List.mem_append, List.mem_cons]
  refine or_congr ?_ (or_congr Iff.rfl ?_)
  · rw [List.mem_map]
    exact exists_congr fun m ↦ and_congr Option.mem_toList eq_comm
  · constructor
    · intro h
      obtain ⟨key, -, rfl⟩ := List.mem_map.mp h
      exact ⟨key, rfl⟩
    · rintro ⟨key, rfl⟩
      exact circleCheck_mem k key

theorem mem_checks_insertMembership (k : Kind) (m : Membership) (check : Constraint × Fault) :
    check ∈ (insertMembership k m).checks ↔
      check = (joinKey k "user_id" "users", .userNotFound m.userId.text) ∨
      check = (joinKey k (Sql.Memberships.column k) k.plural,
        .circleNotFound k m.circleId.text) ∨ check = (pairKey k, .alreadyAssigned k) := by
  simp only [checks, List.mem_cons, List.not_mem_nil, or_false]

theorem mem_overlooked {k : Kind} {c : Circle} {owner : Option Membership} {m : Membership}
    (hm : m ∈ owner) (hne : m.circleId ≠ c.id) : pairKey k ∈ (createCircle k c owner).overlooked ∧
      joinKey k (Sql.Memberships.column k) k.plural ∈ (createCircle k c owner).overlooked := by
  obtain rfl := Option.mem_def.mp hm
  rw [overlooked, if_neg hne]
  simp

theorem not_mem_checks_of_overlooked {c : Call} {κ : Constraint} (hκ : κ ∈ c.overlooked)
    (f : Fault) : (κ, f) ∉ c.checks := by
  match c with
  | .createCircle k c (some m) =>
    rw [overlooked] at hκ
    rw [mem_checks_createCircle]
    split at hκ
    · cases hκ
    · rcases List.mem_cons.mp hκ with rfl | hκ
      · simp [pairKey, joinKey, idKey, circleCheck, fieldKey]
      · obtain rfl := List.mem_singleton.mp hκ
        simp only [Prod.mk.injEq, (joinKey_ne k).symm, false_and, and_false, exists_false, false_or]
        simp [joinKey, idKey, circleCheck, fieldKey]

theorem overlooked_eq_nil {c : Call} (hc : c.OwnerFits) : c.overlooked = [] := by
  cases c with
  | createCircle k c owner =>
    cases owner with
    | none => rfl
    | some m => exact if_pos (hc m rfl)
  | _ => rfl

end Call

section First

variable {κs : List Constraint} {check : Constraint × Fault} {checks : List (Constraint × Fault)}

theorem firstAmong_cons_of_mem (h : check.1 ∈ κs) : firstAmong κs (check :: checks) = some check :=
  List.find?_cons_of_pos (decide_eq_true h)

theorem firstAmong_cons_of_not_mem (h : check.1 ∉ κs) :
    firstAmong κs (check :: checks) = firstAmong κs checks :=
  List.find?_cons_of_neg fun hmem ↦ h (of_decide_eq_true hmem)

theorem firstAmong_nil (checks : List (Constraint × Fault)) : firstAmong [] checks = none :=
  List.find?_eq_none.mpr fun check _ ↦ by simp

theorem exists_firstAmong (hcheck : check ∈ checks) (hκ : check.1 ∈ κs) :
    ∃ first, firstAmong κs checks = some first :=
  Option.isSome_iff_exists.mp (List.find?_isSome.mpr ⟨check, hcheck, decide_eq_true hκ⟩)

theorem mem_of_firstAmong (h : firstAmong κs checks = some check) :
    check ∈ checks ∧ check.1 ∈ κs := by
  have hmem := List.find?_some h
  exact ⟨List.mem_of_find?_eq_some h, of_decide_eq_true hmem⟩

theorem firstAmong_map {α : Type} {f : α → Constraint × Fault} {p : α → Bool}
    (h : ∀ a, (f a).1 ∈ κs ↔ p a = true) (l : List α) :
    firstAmong κs (l.map f) = (l.find? p).map f := by
  have hp : (fun check ↦ decide (check.1 ∈ κs)) ∘ f = p :=
    funext fun a ↦ (Bool.decide_congr (h a)).trans Bool.decide_eq_true
  rw [firstAmong, List.find?_map, hp]

end First

namespace Tables

variable {now : Timestamp} {t : Tables} {u : User} {k : Kind} {c : Circle} {κs : List Constraint}

theorem firstAmong_userChecks (h : ∀ key : User.Key, fieldKey "users" key.name ∈ κs ↔
      ∃ v ∈ t.users.values, v.id ≠ u.id ∧ v.get key = u.get key) :
    firstAmong κs ([User.Key.username, .slug, .email].map Call.userCheck) =
      (t.userClash u).map Call.userCheck := by
  refine firstAmong_map (fun key ↦ (h key).trans ?_) _
  simp

theorem firstAmong_circleChecks (h : ∀ key : Circle.Key, fieldKey k.plural key.text ∈ κs ↔
      ∃ d ∈ (t.of k).circles.values, d.id ≠ c.id ∧ d.get key = c.get key) :
    firstAmong κs ([Circle.Key.slug, .name].map (Call.circleCheck k)) =
      (circleClash (t.of k) c).map (Call.circleCheck k) := by
  refine firstAmong_map (fun key ↦ (h key).trans ?_) _
  simp

theorem Integrity.memory_createUser (ht : t.Integrity) (u : User) :
    (t.createUser u).1 = (firstAmong ((Call.createUser u).violated now t)
      (Call.createUser u).checks).elim (.ok u) (.error ·.2) := by
  have hid : idKey "users" ∈ (Call.createUser u).violated now t ↔
      t.users.contains u.id.text = true := by
    rw [ht.mem_violated_createUser]
    simp [idKey, fieldKey]
  have hfield (key : User.Key) : fieldKey "users" key.name ∈ (Call.createUser u).violated now t ↔
      u.get key ∈ t.users.values.map (·.get key) := by
    rw [ht.mem_violated_createUser]
    simp only [Call.userCheck_inj, exists_eq_left']
    simp [idKey, fieldKey]
  rw [Call.checks, createUser]
  cases hcontains : t.users.contains u.id.text with
  | true =>
    rw [firstAmong_cons_of_mem (hid.mpr hcontains), if_pos rfl]
    rfl
  | false =>
    have hother : ∀ v ∈ t.users.values, v.id ≠ u.id := by
      intro v hv hvu
      exact (ht.lacks_user_iff u.id).mp hcontains (hvu ▸ List.mem_map_of_mem hv)
    rw [firstAmong_cons_of_not_mem, firstAmong_userChecks, if_neg Bool.false_ne_true, putUser]
    · cases t.userClash u <;> rfl
    · intro key
      rw [hfield, List.mem_map]
      exact exists_congr fun v ↦ and_congr_right fun hv ↦ (and_iff_right (hother v hv)).symm
    · rw [hid, hcontains]
      exact Bool.false_ne_true

theorem Integrity.memory_updateUser (ht : t.Integrity) (u : User) :
    (t.updateUser u).1 = (firstAmong ((Call.updateUser u).violated now t)
      (Call.updateUser u).checks).elim ((Call.updateUser u).unhindered t) (.error ·.2) := by
  rw [Call.unhindered, updateUser]
  cases hcontains : t.users.contains u.id.text with
  | true =>
    have hfield (key : User.Key) : fieldKey "users" key.name ∈ (Call.updateUser u).violated now t ↔
        ∃ v ∈ t.users.values, v.id ≠ u.id ∧ v.get key = u.get key := by
      rw [ht.mem_violated_updateUser]
      simp only [Call.userCheck_inj, exists_eq_left', hcontains, true_and]
    rw [Call.checks, firstAmong_userChecks hfield, if_pos rfl, if_pos rfl, putUser]
    cases t.userClash u <;> rfl
  | false =>
    have hnone : (Call.updateUser u).violated now t = [] := by
      refine List.eq_nil_iff_forall_not_mem.mpr fun κ hκ ↦ ?_
      obtain ⟨key, -, hstored, -⟩ := (ht.mem_violated_updateUser u).mp hκ
      exact Bool.false_ne_true (hcontains.symm.trans hstored)
    rw [hnone, firstAmong_nil, if_neg Bool.false_ne_true, if_neg Bool.false_ne_true]
    rfl

theorem Integrity.memory_updateCircle (ht : t.Integrity) (k : Kind) (c : Circle) :
    (t.updateCircle k c).1 = (firstAmong ((Call.updateCircle k c).violated now t)
      (Call.updateCircle k c).checks).elim ((Call.updateCircle k c).unhindered t) (.error ·.2) := by
  rw [Call.unhindered, Tables.updateCircle]
  cases hcontains : (t.of k).circles.contains c.id.text with
  | true =>
    have hfield (key : Circle.Key) :
        fieldKey k.plural key.text ∈ (Call.updateCircle k c).violated now t ↔
          ∃ d ∈ (t.of k).circles.values, d.id ≠ c.id ∧ d.get key = c.get key := by
      rw [ht.mem_violated_updateCircle]
      simp only [Call.circleCheck_inj, exists_eq_left', hcontains, true_and]
    rw [Call.checks, firstAmong_circleChecks hfield, if_pos rfl, if_pos rfl]
    cases circleClash (t.of k) c <;> rfl
  | false =>
    have hnone : (Call.updateCircle k c).violated now t = [] := by
      refine List.eq_nil_iff_forall_not_mem.mpr fun κ hκ ↦ ?_
      obtain ⟨key, -, hstored, -⟩ := (ht.mem_violated_updateCircle k c).mp hκ
      exact Bool.false_ne_true (hcontains.symm.trans hstored)
    rw [hnone, firstAmong_nil, if_neg Bool.false_ne_true, if_neg Bool.false_ne_true]
    rfl

theorem Integrity.createCircle_unowned (ht : t.Integrity)
    (hid : idKey k.plural ∈ κs ↔ (t.of k).circles.contains c.id.text = true)
    (hfield : ∀ key : Circle.Key, fieldKey k.plural key.text ∈ κs ↔
      c.get key ∈ (t.of k).circles.values.map (·.get key)) :
    (t.createCircle k c none).1 =
      (firstAmong κs (Call.createCircle k c none).checks).elim (.ok c) (.error ·.2) := by
  have hchecks : (Call.createCircle k c none).checks = (idKey k.plural,
      .conflict s!"{k.name} with ID '{c.id.text}' already exists") ::
        [Circle.Key.slug, .name].map (Call.circleCheck k) := rfl
  rw [hchecks, Tables.createCircle]
  simp only [Option.filter_none]
  cases hcontains : (t.of k).circles.contains c.id.text with
  | true =>
    rw [firstAmong_cons_of_mem (hid.mpr hcontains), if_pos rfl]
    rfl
  | false =>
    have hother : ∀ d ∈ (t.of k).circles.values, d.id ≠ c.id := by
      intro d hd hdc
      exact (ht.lacks_circle_iff c.id).mp hcontains (hdc ▸ List.mem_map_of_mem hd)
    rw [firstAmong_cons_of_not_mem, firstAmong_circleChecks, if_neg Bool.false_ne_true]
    · cases circleClash (t.of k) c <;> rfl
    · intro key
      rw [hfield, List.mem_map]
      exact exists_congr fun d ↦ and_congr_right fun hd ↦ (and_iff_right (hother d hd)).symm
    · rw [hid, hcontains]
      exact Bool.false_ne_true

theorem Integrity.memory_createCircle (ht : t.Integrity) (k : Kind) (c : Circle)
    (owner : Option Membership) :
    (t.createCircle k c owner).1 = (firstAmong ((Call.createCircle k c owner).violated now t)
      (Call.createCircle k c owner).checks).elim (.ok c) (.error ·.2) := by
  have huser : joinKey k "user_id" "users" ∈ (Call.createCircle k c owner).violated now t ↔
      ∃ m ∈ owner, t.users.contains m.userId.text = false := by
    rw [ht.mem_violated_createCircle]
    simp only [Call.joinKey_ne, Call.joinKey_ne_pairKey, false_and, false_or, or_false, true_and]
    simp [idKey, fieldKey, joinKey]
  have hid : idKey k.plural ∈ (Call.createCircle k c owner).violated now t ↔
      (t.of k).circles.contains c.id.text = true := by
    rw [ht.mem_violated_createCircle]
    simp [idKey, fieldKey, pairKey, joinKey]
  have hfield (key : Circle.Key) :
      fieldKey k.plural key.text ∈ (Call.createCircle k c owner).violated now t ↔
        c.get key ∈ (t.of k).circles.values.map (·.get key) := by
    rw [ht.mem_violated_createCircle]
    simp only [Call.circleCheck_inj, exists_eq_left']
    simp [idKey, fieldKey, pairKey, joinKey]
  have hunowned := ht.createCircle_unowned hid hfield
  cases owner with
  | none => exact hunowned
  | some m =>
    have hchecks : (Call.createCircle k c (some m)).checks =
        (joinKey k "user_id" "users", .userNotFound m.userId.text) ::
          (Call.createCircle k c none).checks := rfl
    rw [hchecks]
    cases hstored : t.users.contains m.userId.text with
    | true =>
      rw [firstAmong_cons_of_not_mem, ← hunowned]
      · simp only [Tables.createCircle, Option.filter, hstored, Bool.not_true, Bool.false_eq_true,
          if_false]
        split
        · rfl
        · cases circleClash (t.of k) c <;> rfl
      · rw [huser]
        simp [hstored]
    | false =>
      rw [firstAmong_cons_of_mem (huser.mpr ⟨m, rfl, hstored⟩)]
      simp [Tables.createCircle, Option.filter, hstored]

theorem Integrity.memory_insertMembership (ht : t.Integrity) (k : Kind) (m : Membership) :
    (t.insertMembership k m).1 = (firstAmong ((Call.insertMembership k m).violated now t)
      (Call.insertMembership k m).checks).elim (.ok m) (.error ·.2) := by
  have huser : joinKey k "user_id" "users" ∈ (Call.insertMembership k m).violated now t ↔
      t.users.contains m.userId.text = false := by
    rw [ht.mem_violated_insertMembership]
    simp only [Call.joinKey_ne_pairKey, Call.joinKey_ne, false_and, false_or, or_false, true_and]
  have hcircle : joinKey k (Sql.Memberships.column k) k.plural ∈
      (Call.insertMembership k m).violated now t ↔
        (t.of k).circles.contains m.circleId.text = false := by
    rw [ht.mem_violated_insertMembership]
    simp only [Call.joinKey_ne_pairKey, (Call.joinKey_ne k).symm, false_and, false_or, true_and]
  have hpair : pairKey k ∈ (Call.insertMembership k m).violated now t ↔
      t.isAttached k m.userId m.circleId = true := by
    rw [ht.mem_violated_insertMembership]
    simp [pairKey, joinKey]
  rw [Call.checks, Tables.insertMembership, ← isAttached]
  cases hstored : t.users.contains m.userId.text with
  | false =>
    rw [firstAmong_cons_of_mem (huser.mpr hstored)]
    rfl
  | true =>
    rw [firstAmong_cons_of_not_mem (by simp [huser, hstored])]
    cases hcontains : (t.of k).circles.contains m.circleId.text with
    | false =>
      rw [firstAmong_cons_of_mem (hcircle.mpr hcontains)]
      rfl
    | true =>
      rw [firstAmong_cons_of_not_mem (by simp [hcircle, hcontains])]
      cases hattached : t.isAttached k m.userId m.circleId with
      | false =>
        rw [firstAmong_cons_of_not_mem (by simp [hpair, hattached])]
        rfl
      | true =>
        rw [firstAmong_cons_of_mem (hpair.mpr hattached)]
        rfl

theorem Integrity.memory (ht : t.Integrity) {call : Call} (hputs : call.putsRecord = true) :
    (Tables.answer call t).1 =
      (firstAmong (call.violated now t) call.checks).elim (call.unhindered t) (.error ·.2) := by
  cases call with
  | createUser u => exact ht.memory_createUser u
  | updateUser u => exact ht.memory_updateUser u
  | createCircle k c owner => exact ht.memory_createCircle k c owner
  | updateCircle k c => exact ht.memory_updateCircle k c
  | insertMembership k m => exact ht.memory_insertMembership k m
  | _ => cases hputs

/-- One of the checks fails if a constraint is violated that memory does not overlook. -/
theorem Integrity.exists_check (ht : t.Integrity) {call : Call} (hputs : call.putsRecord = true)
    {κ : Constraint} (hκ : κ ∈ call.violated now t) (hseen : κ ∉ call.overlooked) :
    ∃ check ∈ call.checks, check.1 ∈ call.violated now t := by
  cases call with
  | createUser u =>
    rcases (ht.mem_violated_createUser u).mp hκ with ⟨rfl, -⟩ | ⟨key, rfl, -⟩
    · exact ⟨_, List.mem_cons_self, hκ⟩
    · exact ⟨_, List.mem_cons_of_mem _ (Call.userCheck_mem key), hκ⟩
  | updateUser u =>
    obtain ⟨key, rfl, -⟩ := (ht.mem_violated_updateUser u).mp hκ
    exact ⟨_, Call.userCheck_mem key, hκ⟩
  | createCircle k c owner =>
    have hchecks := Call.mem_checks_createCircle k c owner
    rcases (ht.mem_violated_createCircle k c owner).mp hκ with
      ⟨rfl, -⟩ | ⟨key, rfl, -⟩ | ⟨rfl, m, hm, hattached⟩ | ⟨rfl, m, hm, -⟩ | ⟨rfl, m, hm, hne, -⟩
    · exact ⟨_, (hchecks _).mpr (.inr (.inl rfl)), hκ⟩
    · exact ⟨_, (hchecks _).mpr (.inr (.inr ⟨key, rfl⟩)), hκ⟩
    · -- Who is a member of a circle that is only now created can be so under its id alone.
      have hfits : m.circleId = c.id := by
        by_contra hne
        exact hseen (Call.mem_overlooked hm hne).1
      refine ⟨_, (hchecks _).mpr (.inr (.inl rfl)), ?_⟩
      refine (ht.mem_violated_createCircle k c owner).mpr (.inl ⟨rfl, ?_⟩)
      exact hfits ▸ ht.contains_of_isAttached hattached
    · exact ⟨_, (hchecks _).mpr (.inl ⟨m, hm, rfl⟩), hκ⟩
    · exact absurd (Call.mem_overlooked hm hne).2 hseen
  | updateCircle k c =>
    obtain ⟨key, rfl, -⟩ := (ht.mem_violated_updateCircle k c).mp hκ
    exact ⟨_, Call.circleCheck_mem k key, hκ⟩
  | insertMembership k m =>
    have hchecks := Call.mem_checks_insertMembership k m
    rcases (ht.mem_violated_insertMembership k m).mp hκ with ⟨rfl, -⟩ | ⟨rfl, -⟩ | ⟨rfl, -⟩
    · exact ⟨_, (hchecks _).mpr (.inr (.inr rfl)), hκ⟩
    · exact ⟨_, (hchecks _).mpr (.inl rfl), hκ⟩
    · exact ⟨_, (hchecks _).mpr (.inr (.inl rfl)), hκ⟩
  | _ => cases hputs

end Tables

end Roster.Store
