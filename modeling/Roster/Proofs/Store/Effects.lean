import Roster.Fresh
import Roster.Proofs.Store.Table

namespace Roster

theorem UserId.text_inj {a b : UserId} : a.text = b.text ↔ a = b := by
  cases a
  cases b
  simp

theorem CircleId.text_inj {a b : CircleId} : a.text = b.text ↔ a = b := by
  cases a
  cases b
  simp

theorem Membership.isPair_iff {m : Membership} {u : UserId} {c : CircleId} :
    m.isPair u c = true ↔ m.userId = u ∧ m.circleId = c := by
  simp [isPair]

namespace Store

def Call.isWrite : Call → Bool
  | .createUser _ | .updateUser _ | .deleteUser _ | .createCircle .. | .updateCircle ..
  | .deleteCircle .. | .insertMembership .. | .updatePermission .. | .deleteMembership .. => true
  | _ => false

def Call.readsRecords : Call → Bool
  | .getUser _ | .findUser _ | .userNamed _ | .listUsers _ | .isUserTaken .. | .countUsers
  | .getCircle .. | .findCircle .. | .listCircles .. | .isCircleTaken .. | .countCircles _ => true
  | _ => false

def Call.isProbe : Call → Bool
  | .isUserTaken .. | .isCircleTaken .. => true
  | _ => false

/-- A circle is created with a row that names this circle, if with any. -/
def Call.OwnerFits : Call → Prop
  | .createCircle _ c owner => ∀ m ∈ owner, m.circleId = c.id
  | _ => True

def Call.CreatesFresh (f : Fresh) : Call → Prop
  | .createUser u => u.id = f.userId
  | .createCircle _ c owner => c.id = f.circleId ∧ ∀ m ∈ owner, m.circleId = c.id
  | _ => True

/-- A write came to nothing: there was a fault, or nothing to delete. -/
def Call.Failed : (c : Call) → Except Fault c.Result → Prop
  | _, .error _ => True
  | .deleteUser _, .ok isDeleted => isDeleted = false
  | .deleteCircle .., .ok isDeleted => isDeleted = false
  | _, .ok _ => False

theorem Call.readsRecords_of_isProbe {c : Call} (h : c.isProbe = true) : c.readsRecords = true := by
  cases c <;> first | rfl | cases h

theorem Call.isWrite_of_readsRecords {c : Call} (h : c.readsRecords = true) :
    c.isWrite = false := by
  cases c <;> first | rfl | cases h

theorem Call.createsFresh_of_not_isWrite {f : Fresh} {c : Call} (h : c.isWrite = false) :
    c.CreatesFresh f := by
  cases c <;> trivial

theorem Call.ownerFits_of_not_isWrite {c : Call} (h : c.isWrite = false) : c.OwnerFits := by
  cases c <;> trivial

theorem Call.CreatesFresh.ownerFits {f : Fresh} (c : Call) (h : c.CreatesFresh f) :
    c.OwnerFits := by
  cases c with
  | createCircle k c owner => exact h.2
  | _ => trivial

namespace Tables

variable (t : Tables)

@[simp] theorem set_users (k : Kind) (c : CircleTables) : (t.set k c).users = t.users := by
  cases k <;> rfl

theorem of_set (k k' : Kind) (c : CircleTables) :
    (t.set k c).of k' = if k' = k then c else t.of k' := by
  cases k <;> cases k' <;> rfl

@[simp] theorem of_set_self (k : Kind) (c : CircleTables) : (t.set k c).of k = c := by
  rw [of_set, if_pos rfl]

@[simp] theorem of_with_users (users : Table User) (k : Kind) :
    ({ t with users := users } : Tables).of k = t.of k := by
  cases k <;> rfl

@[simp] theorem deleteUser_of (id : UserId) (k : Kind) :
    (t.deleteUser id).2.of k = withoutUser (t.of k) id := by
  cases k <;> rfl

theorem ext_of {t t' : Tables} (hu : t.users = t'.users) (hc : ∀ k, t.of k = t'.of k) : t = t' := by
  cases t
  cases t'
  simp_all only [mk.injEq, true_and]
  exact ⟨hc .group, hc .team⟩

theorem answer_of_not_isWrite {c : Call} (h : c.isWrite = false) : (answer c t).2 = t := by
  cases c <;> first | rfl | cases h

def findCircle (k : Kind) (reference : String) : Option Circle :=
  (t.of k).circles.values.find? (·.isReferencedBy reference)

theorem findUser_stored {t : Tables} (ht : t.users.Sound (·.id.text) User.get) {reference : String}
    {u : User} (h : t.findUser reference = some u) : t.users.get? u.id.text = some u := by
  unfold findUser at h
  split at h
  · next v hv =>
    cases h
    rwa [← ht.key_eq_id hv]
  · exact ht.mem_values.mp (List.mem_of_find?_eq_some h)

theorem findCircle_stored {t : Tables} {k : Kind}
    (ht : (t.of k).circles.Sound (·.id.text) Circle.get) {reference : String} {c : Circle}
    (h : t.findCircle k reference = some c) : (t.of k).circles.get? c.id.text = some c :=
  ht.mem_values.mp (List.mem_of_find?_eq_some h)

theorem contains_of_findUser {t : Tables} (ht : t.users.Sound (·.id.text) User.get)
    {reference : String} {u : User} (h : t.findUser reference = some u) :
    t.users.contains u.id.text = true :=
  Table.contains_iff.mpr ⟨u, findUser_stored ht h⟩

theorem contains_of_findCircle {t : Tables} {k : Kind}
    (ht : (t.of k).circles.Sound (·.id.text) Circle.get) {reference : String} {c : Circle}
    (h : t.findCircle k reference = some c) : (t.of k).circles.contains c.id.text = true :=
  Table.contains_iff.mpr ⟨c, findCircle_stored ht h⟩

theorem userClash_eq_none {t : Tables} {u : User} :
    t.userClash u = none ↔
      ∀ v ∈ t.users.values, v.id ≠ u.id → ∀ key, v.get key ≠ u.get key := by
  simp only [userClash, List.find?_eq_none, List.any_eq_true, Bool.and_eq_true, bne_iff_ne, ne_eq,
    beq_iff_eq, not_exists, not_and, List.mem_cons, List.not_mem_nil, or_false]
  constructor
  · intro h v hv hid key
    exact h key (by cases key <;> simp) v hv hid
  · exact fun h key _ v hv hid ↦ h v hv hid key

theorem circleClash_eq_none {t : CircleTables} {c : Circle} :
    circleClash t c = none ↔
      ∀ v ∈ t.circles.values, v.id ≠ c.id → ∀ key, v.get key ≠ c.get key := by
  simp only [circleClash, List.find?_eq_none, List.any_eq_true, Bool.and_eq_true, bne_iff_ne, ne_eq,
    beq_iff_eq, not_exists, not_and, List.mem_cons, List.not_mem_nil, or_false]
  constructor
  · intro h v hv hid key
    exact h key (by cases key <;> simp) v hv hid
  · exact fun h key _ v hv hid ↦ h v hv hid key

theorem putUser_cases (u : User) :
    (∃ f, t.putUser u = (.error f, t)) ∨
    (t.userClash u = none ∧
      t.putUser u = (.ok u, { t with users := t.users.insert u.id.text u })) := by
  unfold putUser
  split
  · exact .inl ⟨_, rfl⟩
  · next h => exact .inr ⟨h, rfl⟩

theorem createUser_cases (u : User) :
    (∃ f, t.createUser u = (.error f, t)) ∨
    (t.users.get? u.id.text = none ∧ t.userClash u = none ∧
      t.createUser u = (.ok u, { t with users := t.users.insert u.id.text u })) := by
  unfold createUser
  split
  · exact .inl ⟨_, rfl⟩
  · next h =>
    rcases t.putUser_cases u with hf | ⟨hclash, hput⟩
    · exact .inl hf
    · exact .inr ⟨Table.contains_eq_false.mp (Bool.eq_false_iff.mpr h), hclash, hput⟩

theorem updateUser_of_absent {t : Tables} {u : User} (h : t.users.get? u.id.text = none) :
    t.updateUser u = (.error (.userNotFound u.id.text), t) := by
  rw [updateUser, Table.contains_eq_false.mpr h, if_neg Bool.false_ne_true]

theorem updateUser_cases (u : User) :
    (∃ f, t.updateUser u = (.error f, t)) ∨
    (t.users.contains u.id.text = true ∧ t.userClash u = none ∧
      t.updateUser u = (.ok u, { t with users := t.users.insert u.id.text u })) := by
  unfold updateUser
  split
  · next h =>
    rcases t.putUser_cases u with hf | ⟨hclash, hput⟩
    · exact .inl hf
    · exact .inr ⟨h, hclash, hput⟩
  · exact .inl ⟨_, rfl⟩

theorem createCircle_cases (k : Kind) (c : Circle) (owner : Option Membership) :
    (∃ f, t.createCircle k c owner = (.error f, t)) ∨
    ((∀ m ∈ owner, t.users.contains m.userId.text = true) ∧
      (t.of k).circles.get? c.id.text = none ∧ circleClash (t.of k) c = none ∧
      t.createCircle k c owner = (.ok c, t.set k
        ⟨(t.of k).circles.insert c.id.text c, (t.of k).memberships ++ owner.toList⟩)) := by
  simp only [createCircle]
  split
  · exact .inl ⟨_, rfl⟩
  · next h =>
    have howner : ∀ m ∈ owner, t.users.contains m.userId.text = true := by
      rintro m rfl
      simpa using h
    split
    · exact .inl ⟨_, rfl⟩
    · next hc =>
      split
      · exact .inl ⟨_, rfl⟩
      · next hclash =>
        exact .inr ⟨howner, Table.contains_eq_false.mp (Bool.eq_false_iff.mpr hc), hclash, rfl⟩

theorem updateCircle_of_absent {t : Tables} {k : Kind} {c : Circle}
    (h : (t.of k).circles.get? c.id.text = none) :
    t.updateCircle k c = (.error (.circleNotFound k c.id.text), t) := by
  rw [updateCircle, Table.contains_eq_false.mpr h, if_neg Bool.false_ne_true]

theorem updateCircle_cases (k : Kind) (c : Circle) :
    (∃ f, t.updateCircle k c = (.error f, t)) ∨
    ((t.of k).circles.contains c.id.text = true ∧ circleClash (t.of k) c = none ∧
      t.updateCircle k c =
        (.ok c, t.set k { t.of k with circles := (t.of k).circles.insert c.id.text c })) := by
  simp only [updateCircle]
  split
  · next h =>
    split
    · exact .inl ⟨_, rfl⟩
    · next hclash => exact .inr ⟨h, hclash, rfl⟩
  · exact .inl ⟨_, rfl⟩

def isAttached (k : Kind) (u : UserId) (c : CircleId) : Bool :=
  (t.of k).memberships.any (·.isPair u c)

theorem insertMembership_cases (k : Kind) (m : Membership) :
    (∃ f, t.insertMembership k m = (.error f, t)) ∨
    (t.users.contains m.userId.text = true ∧ (t.of k).circles.contains m.circleId.text = true ∧
      t.isAttached k m.userId m.circleId = false ∧
      t.insertMembership k m =
        (.ok m, t.set k { t.of k with memberships := (t.of k).memberships ++ [m] })) := by
  simp only [insertMembership]
  split
  · exact .inl ⟨_, rfl⟩
  · next hu =>
    split
    · exact .inl ⟨_, rfl⟩
    · next hc =>
      split
      · exact .inl ⟨_, rfl⟩
      · next ha =>
        exact .inr ⟨by simpa using hu, by simpa using hc, Bool.eq_false_iff.mpr ha, rfl⟩

theorem updatePermission_cases (k : Kind) (u : UserId) (c : CircleId) (p : Permission)
    (now : Timestamp) :
    ((t.of k).memberships.find? (·.isPair u c) = none ∧
      t.updatePermission k u c p now = (.error (.notAssigned k), t)) ∨
    ∃ m, (t.of k).memberships.find? (·.isPair u c) = some m ∧
      t.updatePermission k u c p now = (.ok (m.setPermission now p), t.set k { t.of k with
        memberships :=
          changeFirst (·.isPair u c) (·.setPermission now p) (t.of k).memberships }) := by
  simp only [updatePermission]
  split
  · next h => exact .inl ⟨h, rfl⟩
  · next m h => exact .inr ⟨m, h, rfl⟩

theorem deleteMembership_cases (k : Kind) (u : UserId) (c : CircleId) :
    (t.isAttached k u c = false ∧ t.deleteMembership k u c = (.error (.notAssigned k), t)) ∨
    (t.isAttached k u c = true ∧ t.deleteMembership k u c = (.ok (), t.set k { t.of k with
      memberships := (t.of k).memberships.eraseP (·.isPair u c) })) := by
  simp only [deleteMembership, isAttached]
  split
  · next h => exact .inr ⟨h, rfl⟩
  · next h => exact .inl ⟨Bool.eq_false_iff.mpr h, rfl⟩

@[simp] theorem createCircle_users (k : Kind) (c : Circle) (owner : Option Membership) :
    (t.createCircle k c owner).2.users = t.users := by
  rcases t.createCircle_cases k c owner with ⟨f, h⟩ | ⟨-, -, -, h⟩ <;> simp [h]

@[simp] theorem updateCircle_users (k : Kind) (c : Circle) :
    (t.updateCircle k c).2.users = t.users := by
  rcases t.updateCircle_cases k c with ⟨f, h⟩ | ⟨-, -, h⟩ <;> simp [h]

@[simp] theorem deleteCircle_users (k : Kind) (id : CircleId) :
    (t.deleteCircle k id).2.users = t.users :=
  set_users ..

structure SameRecords (t t' : Tables) : Prop where
  users : t'.users = t.users
  circles : ∀ k, (t'.of k).circles = (t.of k).circles

theorem SameRecords.findUser {t t' : Tables} (h : t.SameRecords t') (reference : String) :
    t'.findUser reference = t.findUser reference := by
  simp only [Tables.findUser, h.users]

theorem SameRecords.findCircle {t t' : Tables} (h : t.SameRecords t') (k : Kind)
    (reference : String) : t'.findCircle k reference = t.findCircle k reference := by
  simp only [Tables.findCircle, h.circles]

theorem SameRecords.refl : t.SameRecords t :=
  ⟨rfl, fun _ ↦ rfl⟩

theorem SameRecords.trans {t t' t'' : Tables} (h : t.SameRecords t') (h' : t'.SameRecords t'') :
    t.SameRecords t'' :=
  ⟨h'.users.trans h.users, fun k ↦ (h'.circles k).trans (h.circles k)⟩

theorem SameRecords.set {k : Kind} {rows : List Membership} :
    t.SameRecords (t.set k { t.of k with memberships := rows }) where
  users := set_users ..
  circles k' := by
    rw [of_set]
    split
    · next h => rw [h]
    · rfl

theorem insertMembership_sameRecords (k : Kind) (m : Membership) :
    t.SameRecords (t.insertMembership k m).2 := by
  rcases t.insertMembership_cases k m with ⟨f, h⟩ | ⟨-, -, -, h⟩ <;> rw [h]
  · exact .refl t
  · exact .set t

theorem updatePermission_sameRecords (k : Kind) (u : UserId) (c : CircleId) (p : Permission)
    (now : Timestamp) : t.SameRecords (t.updatePermission k u c p now).2 := by
  rcases t.updatePermission_cases k u c p now with ⟨-, h⟩ | ⟨m, -, h⟩ <;> rw [h]
  · exact .refl t
  · exact .set t

theorem deleteMembership_sameRecords (k : Kind) (u : UserId) (c : CircleId) :
    t.SameRecords (t.deleteMembership k u c).2 := by
  rcases t.deleteMembership_cases k u c with ⟨-, h⟩ | ⟨-, h⟩ <;> rw [h]
  · exact .refl t
  · exact .set t

end Tables

end Store

end Roster
