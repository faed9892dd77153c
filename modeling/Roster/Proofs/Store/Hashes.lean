import Roster.Proofs.Store.Effects

namespace Roster

open Store (Call Table Tables)

def User.unhashed (u : User) : User :=
  { u with passwordHash := "" }

def Member.unhashed (m : Member) : Member :=
  { m with user := m.user.unhashed }

@[simp] theorem User.get_unhashed (u : User) (key : User.Key) : u.unhashed.get key = u.get key := by
  cases key <;> rfl

theorem User.eq_of_unhashed {u u' : User} (h : u'.unhashed = u.unhashed) :
    ∃ hash, u' = { u with passwordHash := hash } :=
  ⟨u'.passwordHash, congrArg (fun v ↦ { v with passwordHash := u'.passwordHash }) h⟩

def User.unhashedFst {α : Type} (p : User × α) : User × α :=
  (p.1.unhashed, p.2)

theorem User.eq_of_unhashedFst {α : Type} {p p' : User × α} (h : unhashedFst p' = unhashedFst p) :
    ∃ hash, p' = ({ p.1 with passwordHash := hash }, p.2) := by
  obtain ⟨huser, hrest⟩ := Prod.ext_iff.mp h
  obtain ⟨hash, hhash⟩ := eq_of_unhashed huser
  exact ⟨hash, Prod.ext hhash hrest⟩

theorem Listing.page_map {α β : Type} (l : Listing) (f : α → β) (isMatch : β → Bool)
    (compare : β → β → Ordering) (records : List α) :
    l.page isMatch compare (records.map f) =
      (l.page (fun a ↦ isMatch (f a)) (fun a b ↦ compare (f a) (f b)) records).map f := by
  have hfilter : (records.map f).filter isMatch =
      (records.filter fun a ↦ isMatch (f a)).map f := List.filter_map
  simp only [page, cut, Page.map, hfilter, List.length_map, List.map_take, List.map_drop]
  rw [List.map_mergeSort]
  intro a _ b _
  rfl

namespace Store

namespace Table

variable {α β : Type} (f : α → β) (t : Table α) (key : String)

def map (f : α → β) (t : Table α) : Table β :=
  ⟨t.entries.map fun e ↦ (e.1, f e.2)⟩

@[simp] theorem get?_map : (t.map f).get? key = (t.get? key).map f := by
  obtain ⟨entries⟩ := t
  induction entries with
  | nil => rfl
  | cons e entries ih =>
    have hlookup : (entries.map fun e ↦ (e.1, f e.2)).lookup key = (entries.lookup key).map f := ih
    rw [map, List.map_cons, get?, get?, lookup_cons_eq, lookup_cons_eq, hlookup]
    split <;> rfl

@[simp] theorem contains_map : (t.map f).contains key = t.contains key := by
  rw [contains, get?_map, Option.isSome_map]
  rfl

@[simp] theorem values_map : (t.map f).values = t.values.map f := by
  simp only [values, map, List.map_map]
  rfl

theorem insert_map (a : α) : (t.map f).insert key (f a) = (t.insert key a).map f := by
  simp only [insert, contains_map]
  split
  · simp only [map, List.map_map]
    congr 2
    funext e
    simp only [Function.comp_apply]
    split <;> rfl
  · simp only [map, List.map_append]
    rfl

theorem erase_map : (t.map f).erase key = (t.erase key).map f := by
  simp only [erase, map, List.filter_map]
  rfl

end Table

namespace Tables

variable (t : Tables) (u : User)

def unhashed : Tables :=
  { t with users := t.users.map User.unhashed }

@[simp] theorem unhashed_users : t.unhashed.users = t.users.map User.unhashed := rfl

@[simp] theorem unhashed_of (k : Kind) : t.unhashed.of k = t.of k := by
  cases k <;> rfl

@[simp] theorem unhashed_set (k : Kind) (c : CircleTables) :
    t.unhashed.set k c = (t.set k c).unhashed := by
  cases k <;> rfl

theorem find?_unhashed {p : User → Bool} (hp : ∀ u, p u.unhashed = p u) :
    t.unhashed.users.values.find? p = (t.users.values.find? p).map User.unhashed := by
  rw [unhashed_users, Table.values_map, List.find?_map]
  congr 2
  funext u
  exact hp u

theorem any_unhashed {p : User → Bool} (hp : ∀ u, p u.unhashed = p u) :
    t.unhashed.users.values.any p = t.users.values.any p := by
  rw [unhashed_users, Table.values_map, List.any_map]
  congr 1
  funext u
  exact hp u

theorem findUser_unhashed (reference : String) :
    t.unhashed.findUser reference = (t.findUser reference).map User.unhashed := by
  simp only [findUser, unhashed_users, Table.get?_map]
  cases t.users.get? reference with
  | some u => rfl
  | none => exact t.find?_unhashed fun _ ↦ rfl

theorem userClash_unhashed : t.unhashed.userClash u.unhashed = t.userClash u := by
  unfold userClash
  congr 1
  funext key
  rw [User.get_unhashed]
  exact t.any_unhashed fun v ↦ by rw [User.get_unhashed]; rfl

theorem putUser_unhashed : t.unhashed.putUser u.unhashed =
    ((t.putUser u).1.map User.unhashed, (t.putUser u).2.unhashed) := by
  rw [putUser, userClash_unhashed, putUser]
  cases t.userClash u with
  | some key => rfl
  | none =>
    refine Prod.ext rfl (ext_of ?_ fun k ↦ ?_)
    · exact t.users.insert_map User.unhashed u.id.text u
    · simp only [of_with_users, unhashed_of]

theorem createUser_unhashed : t.unhashed.createUser u.unhashed =
    ((t.createUser u).1.map User.unhashed, (t.createUser u).2.unhashed) := by
  have hid : u.unhashed.id = u.id := rfl
  rw [createUser, createUser, unhashed_users, Table.contains_map, hid]
  split
  · rfl
  · exact t.putUser_unhashed u

theorem updateUser_unhashed : t.unhashed.updateUser u.unhashed =
    ((t.updateUser u).1.map User.unhashed, (t.updateUser u).2.unhashed) := by
  have hid : u.unhashed.id = u.id := rfl
  rw [updateUser, updateUser, unhashed_users, Table.contains_map, hid]
  split
  · exact t.putUser_unhashed u
  · rfl

theorem member?_unhashed (k : Kind) (m : Membership) :
    t.unhashed.member? k m = (t.member? k m).map Member.unhashed := by
  rw [member?, member?, unhashed_users, Table.get?_map, unhashed_of]
  cases t.users.get? m.userId.text <;> cases (t.of k).circles.get? m.circleId.text <;> rfl

theorem members_unhashed (k : Kind) (rows : List Membership) :
    rows.filterMap (t.unhashed.member? k) = (rows.filterMap (t.member? k)).map Member.unhashed := by
  rw [List.map_filterMap]
  congr 1
  funext m
  exact t.member?_unhashed k m

end Tables

def Call.unhash : (c : Call) → c.Result → c.Result
  | .getUser _ | .findUser _ | .userNamed _ => Option.map User.unhashed
  | .listUsers _ => Page.map User.unhashed
  | .createUser _ | .updateUser _ => User.unhashed
  | .listByCircle .. | .listByUser .. => Page.map Member.unhashed
  | _ => id

def Call.putsUser : Call → Bool
  | .createUser _ | .updateUser _ => true
  | _ => false

theorem Tables.answer_unhashed (t : Tables) {c : Call} (hc : c.putsUser = false) :
    answer c t.unhashed = ((answer c t).1.map c.unhash, (answer c t).2.unhashed) := by
  cases c with
  | createUser u => cases hc
  | updateUser u => cases hc
  | getUser id => exact Prod.ext (congrArg Except.ok (t.users.get?_map ..)) rfl
  | findUser reference => exact Prod.ext (congrArg Except.ok (t.findUser_unhashed reference)) rfl
  | userNamed username => exact Prod.ext (congrArg Except.ok (t.find?_unhashed fun _ ↦ rfl)) rfl
  | listUsers l =>
    refine Prod.ext (congrArg Except.ok ?_) rfl
    rw [unhashed_users, Table.values_map, Listing.page_map]
    rfl
  | deleteUser id =>
    refine Prod.ext (congrArg Except.ok (Table.contains_map ..)) (ext_of ?_ fun k ↦ ?_)
    · exact Table.erase_map ..
    · rw [unhashed_of]
      simp only [answer, deleteUser_of, unhashed_of]
  | isUserTaken key value except =>
    refine Prod.ext (congrArg Except.ok (t.any_unhashed fun v ↦ ?_)) rfl
    rw [User.get_unhashed]
    rfl
  | countUsers => exact Prod.ext (congrArg Except.ok (List.length_map _)) rfl
  | listByCircle k id l =>
    refine Prod.ext (congrArg Except.ok ?_) rfl
    rw [membersOfCircle, unhashed_of, members_unhashed, Listing.page_map]
    rfl
  | listByUser k id l =>
    refine Prod.ext (congrArg Except.ok ?_) rfl
    rw [membersOfUser, unhashed_of, members_unhashed, Listing.page_map]
    rfl
  | createCircle k c owner =>
    simp only [answer, createCircle, unhashed_of, unhashed_set, unhashed_users, Table.contains_map]
    split
    · rfl
    · split
      · rfl
      · split <;> rfl
  | updateCircle k c =>
    simp only [answer, updateCircle, unhashed_of, unhashed_set]
    split
    · split <;> rfl
    · rfl
  | deleteCircle k id => simp only [answer, deleteCircle, unhashed_of, unhashed_set]; rfl
  | insertMembership k m =>
    simp only [answer, insertMembership, unhashed_of, unhashed_set, unhashed_users,
      Table.contains_map]
    split
    · rfl
    · split
      · rfl
      · split <;> rfl
  | updatePermission k u c p now =>
    simp only [answer, updatePermission, unhashed_of, unhashed_set]
    split <;> rfl
  | deleteMembership k u c =>
    simp only [answer, deleteMembership, unhashed_of, unhashed_set]
    split <;> rfl
  | getCircle k => rw [answer, unhashed_of]; rfl
  | findCircle k => rw [answer, unhashed_of]; rfl
  | listCircles k => rw [answer, unhashed_of]; rfl
  | isCircleTaken k => rw [answer, unhashed_of]; rfl
  | countCircles k => rw [answer, unhashed_of]; rfl
  | findMembership k => rw [answer, unhashed_of]; rfl

end Store

end Roster
