import Roster.Proofs.Listing.Arrangement
import Roster.Proofs.Store.Members
import Roster.Proofs.Store.Visiting

namespace Roster

open Std (TransCmp)
open Store (Table Tables)

inductive Collection where
  | users
  | circles (k : Kind)
  | membersOf (k : Kind) (id : CircleId)
  | circlesOf (k : Kind) (id : UserId)

namespace Collection

abbrev Record : Collection → Type
  | users => User
  | circles _ => Circle
  | membersOf .. | circlesOf .. => Member

def page (t : Tables) (l : Listing) : (c : Collection) → Except Fault (Page c.Record)
  | users => (Tables.answer (.listUsers l) t).1
  | circles k => (Tables.answer (.listCircles k l) t).1
  | membersOf k id => (Tables.answer (.listByCircle k id l) t).1
  | circlesOf k id => (Tables.answer (.listByUser k id l) t).1

def Holds (t : Tables) : (c : Collection) → c.Record → Prop
  | users, u => t.users.get? u.id.text = some u
  | circles k, c => (t.of k).circles.get? c.id.text = some c
  | membersOf k id, m => m.membership ∈ (t.of k).memberships ∧ m.membership.circleId = id ∧
      t.member? k m.membership = some m
  | circlesOf k id, m => m.membership ∈ (t.of k).memberships ∧ m.membership.userId = id ∧
      t.member? k m.membership = some m

def contents (t : Tables) : (c : Collection) → List c.Record
  | users => t.users.values
  | circles k => (t.of k).circles.values
  | membersOf k id => t.membersOfCircle k id
  | circlesOf k id => t.membersOfUser k id

def isMatch (l : Listing) : (c : Collection) → c.Record → Bool
  | users => l.matchesUser
  | circles _ => l.matchesCircle
  | membersOf .. => (l.matchesUser ·.user)
  | circlesOf .. => (l.matchesCircle ·.circle)

def column (l : Listing) : (c : Collection) → c.Record → c.Record → Ordering
  | users => l.userColumn.compare
  | circles _ => l.circleColumn.compare
  | membersOf .. => fun a b ↦ l.userColumn.compare a.user b.user
  | circlesOf .. => fun a b ↦ l.circleColumn.compare a.circle b.circle

def key : (c : Collection) → c.Record → String
  | users => (·.id.text)
  | circles _ => (·.id.text)
  | membersOf .. => (·.user.id.text)
  | circlesOf .. => (·.circle.id.text)

def compare (c : Collection) (l : Listing) (a b : c.Record) : Ordering :=
  l.order.apply ((c.column l a b).then (Ord.compare (c.key a) (c.key b)))

def arranged (c : Collection) (t : Tables) (l : Listing) : List c.Record :=
  Listing.arranged (c.isMatch l) (c.compare l) (c.contents t)

variable {t t' : Tables} {c : Collection} {l : Listing} {a b : c.Record}

theorem page_window (c : Collection) (t : Tables) (l : Listing) (limit offset : Nat) :
    c.page t (l.window limit offset) =
      .ok ⟨(c.arranged t l).extract offset (offset + limit), (c.arranged t l).length⟩ := by
  have hpage : c.page t (l.window limit offset) = .ok
      ((l.window limit offset).page (c.isMatch l) (c.compare l) (c.contents t)) := by
    cases c <;> rfl
  rw [hpage, Listing.page_eq]
  rfl

instance userColumn_transCmp (column : User.Column) : TransCmp column.compare := by
  cases column with
  | username => exact inferInstanceAs (TransCmp (compareOn User.username))
  | email => exact inferInstanceAs (TransCmp (compareOn User.email))
  | fullname => exact inferInstanceAs (TransCmp (compareOn User.fullname))
  | admin => exact inferInstanceAs (TransCmp (compareOn User.admin))
  | active => exact inferInstanceAs (TransCmp (compareOn User.active))

instance circleColumn_transCmp (column : Circle.Column) : TransCmp column.compare := by
  cases column with
  | name => exact inferInstanceAs (TransCmp (compareOn Circle.name))
  | slug => exact inferInstanceAs (TransCmp (compareOn Circle.slug))

instance column_transCmp (c : Collection) (l : Listing) : TransCmp (c.column l) := by
  cases c with
  | users => exact userColumn_transCmp _
  | circles k => exact circleColumn_transCmp _
  | membersOf k id => exact transCmp_on Member.user (userColumn_transCmp _)
  | circlesOf k id => exact transCmp_on Member.circle (circleColumn_transCmp _)

instance compare_transCmp (c : Collection) (l : Listing) : TransCmp (c.compare l) :=
  have : TransCmp fun a b ↦ (c.column l a b).then (Ord.compare (c.key a) (c.key b)) :=
    inferInstanceAs (TransCmp (compareLex (c.column l) (compareOn c.key)))
  l.order.apply_transCmp

theorem compare_eq_eq :
    c.compare l a b = .eq ↔ c.column l a b = .eq ∧ c.key a = c.key b := by
  rw [compare, SortOrder.apply_eq_eq, Ordering.then_eq_eq, Std.compare_eq_iff_eq]

theorem mem_contents (ht : t.Integrity) : a ∈ c.contents t ↔ c.Holds t a := by
  cases c with
  | users => exact ht.users_sound.mem_values
  | circles k => exact (ht.kinds_sound k).circles_sound.mem_values
  | membersOf k id => exact Tables.mem_members.trans (by rw [Holds, beq_iff_eq])
  | circlesOf k id => exact Tables.mem_members.trans (by rw [Holds, beq_iff_eq])

/-- The id tells the records of a list apart: the rows of one circle are told apart by their users,
and those of one user by their circles. -/
theorem eq_of_key_eq (ht : t.Integrity) (ha : c.Holds t a) (hb : c.Holds t b)
    (h : c.key a = c.key b) : a = b := by
  cases c with
  | users => exact Option.some.inj (ha.symm.trans ((congrArg t.users.get? h).trans hb))
  | circles k => exact Option.some.inj (ha.symm.trans ((congrArg (t.of k).circles.get? h).trans hb))
  | membersOf k id =>
    obtain ⟨hm, hmid, hmm⟩ := ha
    obtain ⟨hn, hnid, hnn⟩ := hb
    refine ht.member_eq hm hn hmm hnn (Prod.ext ?_ (hmid.trans hnid.symm))
    rw [ht.member_pair hmm, ht.member_pair hnn]
    exact UserId.text_inj.mp h
  | circlesOf k id =>
    obtain ⟨hm, hmid, hmm⟩ := ha
    obtain ⟨hn, hnid, hnn⟩ := hb
    refine ht.member_eq hm hn hmm hnn (Prod.ext (hmid.trans hnid.symm) ?_)
    rw [ht.member_pair hmm, ht.member_pair hnn]
    exact CircleId.text_inj.mp h

theorem contents_nodup (ht : t.Integrity) (c : Collection) : (c.contents t).Nodup := by
  cases c with
  | users => exact ht.users_sound.values_nodup
  | circles k => exact (ht.kinds_sound k).circles_sound.values_nodup
  | membersOf k id => exact (ht.members_nodup k _).of_map
  | circlesOf k id => exact (ht.members_nodup k _).of_map

theorem contents_perm (ht : t.Integrity) (h : t.Rearranged t') (c : Collection) :
    (c.contents t).Perm (c.contents t') := by
  cases c with
  | users => exact h.users.map _
  | circles k => exact (h.circles k).map _
  | membersOf k id =>
    rw [contents, contents, Tables.membersOfCircle, Tables.membersOfCircle, h.memberships,
      h.member?_eq ht]
  | circlesOf k id =>
    rw [contents, contents, Tables.membersOfUser, Tables.membersOfUser, h.memberships,
      h.member?_eq ht]

end Collection

end Roster
