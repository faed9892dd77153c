import Roster.Proofs.Enrolment.Calls
import Roster.Proofs.Enrolment.Stages
import Roster.Proofs.Store.Members
import Roster.Proofs.Store.Records

namespace Roster.Enrolment

open Store (Call Tables)

inductive Event where
  | enrol (x : Task)
  | createUser (f : Fresh) (r : Accounts.NewUser)
  | changeUser (f : Fresh) (reference : String) (c : Accounts.Change)
  | deleteUser (reference : String)
  | createCircle (k : Kind) (f : Fresh) (r : Circles.NewCircle) (owner : Option UserId)
  | changeCircle (k : Kind) (f : Fresh) (reference : String) (c : Circles.Change)
  | deleteCircle (k : Kind) (reference : String)

inductive Value where
  | member (m : Option Member)
  | user (u : User)
  | circle (c : Circle)
  | nothing

def Event.carry (h : Hasher) (t : Tables) : Event → Except Fault Value × Tables
  | enrol x => ((x.operation.run Tables.answer t).1.result.map .member,
      (x.operation.run Tables.answer t).2)
  | createUser f r => Prod.map (Except.map .user) id (perform (Accounts.create h f r) t)
  | changeUser f reference c =>
    Prod.map (Except.map .user) id (perform (Accounts.update h f reference c) t)
  | deleteUser reference =>
    Prod.map (Except.map fun _ ↦ .nothing) id (perform (Accounts.delete reference) t)
  | createCircle k f r owner =>
    Prod.map (Except.map .circle) id (perform (Circles.create k f r owner) t)
  | changeCircle k f reference c =>
    Prod.map (Except.map .circle) id (perform (Circles.update k f reference c) t)
  | deleteCircle k reference =>
    Prod.map (Except.map fun _ ↦ .nothing) id (perform (Circles.delete k reference) t)

structure Ledger where
  records : Tables
  roll : Roll

namespace Ledger

def empty : Ledger :=
  ⟨.empty, .empty⟩

/-- An event as it happens to a ledger. Changes to records happen to a store without rows; what they
mean for memberships is said here. -/
def step (h : Hasher) (l : Ledger) : Event → Except Fault Value × Ledger
  | .enrol x =>
    let (result, roll) := enrolling l.records l.roll x
    (result.map .member, ⟨l.records, roll⟩)
  | .createUser f r =>
    let (result, records) := perform (Accounts.create h f r) l.records
    (result.map .user, ⟨records, l.roll⟩)
  | .changeUser f reference c =>
    let (result, records) := perform (Accounts.update h f reference c) l.records
    (result.map .user, ⟨records, l.roll⟩)
  | .deleteUser reference =>
    match l.records.findUser reference with
    | none => (.error (.userNotFound reference), l)
    | some u => (.ok .nothing, ⟨(l.records.deleteUser u.id).2, l.roll.withoutUser u.id⟩)
  | .createCircle k f r owner =>
    match perform (Circles.create k f r owner) l.records with
    | (.error e, _) => (.error e, l)
    | (.ok c, records) => (.ok (.circle c), ⟨records.records,
        owner.elim l.roll fun u ↦ l.roll.put k u c.id (some ⟨.owner, f.now, f.now⟩)⟩)
  | .changeCircle k f reference c =>
    let (result, records) := perform (Circles.update k f reference c) l.records
    (result.map .circle, ⟨records, l.roll⟩)
  | .deleteCircle k reference =>
    match l.records.findCircle k reference with
    | none => (.error (.circleNotFound k reference), l)
    | some c => (.ok .nothing, ⟨(l.records.deleteCircle k c.id).2, l.roll.withoutCircle k c.id⟩)

end Ledger

def ledgerOf (t : Tables) : Ledger :=
  ⟨t.records, t.roll⟩

theorem ledgerOf_empty : ledgerOf .empty = .empty := by
  have hroll : Tables.empty.roll = Roll.empty := by
    funext k u c
    cases k <;> rfl
  rw [ledgerOf, hroll]
  rfl

variable {t : Tables}

theorem Event.carry_integrity (h : Hasher) (ht : t.Integrity) (e : Event) :
    (e.carry h t).2.Integrity := by
  have hkeep {α : Type} {d : Errand α} (hd : Puts Call.OwnerFits d) : (perform d t).2.Integrity :=
    hd.perform_keeps (fun _ _ hc ht ↦ ht.answer hc) ht
  cases e with
  | enrol x => exact (Stage.start.run ht (.refl t)).2.1
  | createUser f r => exact hkeep (Accounts.create_ownerFits h f r)
  | changeUser f reference c => exact hkeep (Accounts.update_ownerFits h f reference c)
  | deleteUser reference => exact hkeep (Accounts.delete_ownerFits reference)
  | createCircle k f r owner => exact hkeep (Circles.create_ownerFits k f r owner)
  | changeCircle k f reference c => exact hkeep (Circles.update_ownerFits k f reference c)
  | deleteCircle k reference => exact hkeep (Circles.delete_ownerFits k reference)

theorem createUser_roll (u : User) : (t.createUser u).2.roll = t.roll := by
  rcases t.createUser_cases u with ⟨f, h⟩ | ⟨-, -, h⟩ <;> rw [h]
  exact Tables.roll_congr fun k ↦ by rw [Tables.of_with_users]

theorem updateUser_roll (u : User) : (t.updateUser u).2.roll = t.roll := by
  rcases t.updateUser_cases u with ⟨f, h⟩ | ⟨-, -, h⟩ <;> rw [h]
  exact Tables.roll_congr fun k ↦ by rw [Tables.of_with_users]

theorem updateCircle_roll (k : Kind) (c : Circle) : (t.updateCircle k c).2.roll = t.roll := by
  rcases t.updateCircle_cases k c with ⟨f, h⟩ | ⟨-, -, h⟩ <;> rw [h]
  refine Tables.roll_congr fun k' ↦ ?_
  rw [Tables.of_set]
  split
  · next hk => rw [hk]
  · rfl

/-- A circle is created with and without the rows of others alike, and its owner is attached. -/
theorem createCircle_alike (ht : t.Integrity) (k : Kind) (c : Circle) (owner : Option UserId)
    (now : Timestamp) {row : Option Membership}
    (hrow : row = owner.map fun u ↦ Membership.new u c.id .owner now) :
    (∃ e s, t.records.createCircle k c row = (.error e, s) ∧
      t.createCircle k c row = (.error e, t)) ∨
    (∃ s s', t.records.createCircle k c row = (.ok c, s) ∧ t.createCircle k c row = (.ok c, s') ∧
      s.records = s'.records ∧
      s'.roll = owner.elim t.roll fun u ↦ t.roll.put k u c.id (some ⟨.owner, now, now⟩)) := by
  have hsame := t.createCircle_records k c row
  generalize t.records.createCircle k c row = z at hsame
  obtain ⟨result, s⟩ := z
  obtain ⟨hresult, hrecords⟩ := hsame
  rcases t.createCircle_cases k c row with ⟨f, h⟩ | ⟨-, -, -, h⟩
  · left
    rw [h] at hresult
    exact ⟨f, s, Prod.ext hresult rfl, h⟩
  · right
    have hfit : ∀ m ∈ row, m.circleId = c.id := by
      intro m hm
      rw [hrow] at hm
      obtain ⟨u, -, rfl⟩ := Option.map_eq_some_iff.mp hm
      rfl
    have hroll := (Tables.createCircle_roll ht hfit (congrArg Prod.fst h)).2
    rw [h] at hresult hrecords hroll
    refine ⟨s, _, Prod.ext hresult rfl, h, hrecords, hroll.trans ?_⟩
    rw [hrow]
    cases owner <;> rfl

theorem Event.carry_refines (h : Hasher) (ht : t.Integrity) (e : Event) :
    (ledgerOf t).step h e = ((e.carry h t).1, ledgerOf (e.carry h t).2) := by
  -- Reading comes to the same with and without rows, so each case is left with one write.
  cases e with
  | enrol x =>
    obtain ⟨hs, -, hx⟩ := Stage.start.run (x := x) ht (.refl t)
    have hrecords : enrolling t.records t.roll x = enrolling t t.roll x := by
      simp only [enrolling, t.sameRecords_records.findUser, t.sameRecords_records.findCircle]
    simp only [Ledger.step, ledgerOf, Event.carry, hrecords, hx, hs.records_eq]
  | createUser f r =>
    simp only [Ledger.step, ledgerOf, Event.carry, Accounts.perform_create,
      (Accounts.draft_reads h f r).perform_records]
    cases (perform (Accounts.draft h f r) t).1 with
    | error x => rfl
    | ok u => simp only [Tables.createUser_records, Prod.map, id, createUser_roll]
  | changeUser f reference c =>
    simp only [Ledger.step, ledgerOf, Event.carry, Accounts.perform_update,
      t.sameRecords_records.findUser]
    cases t.findUser reference with
    | none => rfl
    | some u =>
      simp only [(Accounts.revision_reads h f c u).perform_records]
      cases (perform (Accounts.revision h f c u) t).1 with
      | error x => rfl
      | ok v => simp only [Tables.updateUser_records, Prod.map, id, updateUser_roll]
  | deleteUser reference =>
    simp only [Ledger.step, ledgerOf, Event.carry, Accounts.perform_delete reference ht.users_sound,
      t.sameRecords_records.findUser]
    cases t.findUser reference with
    | none => rfl
    | some u =>
      simp only [Tables.deleteUser_records, Prod.map, id, Tables.deleteUser_roll, Except.map]
  | createCircle k f r owner =>
    simp only [Ledger.step, ledgerOf, Event.carry, Circles.perform_create,
      (Circles.draft_reads k f r).perform_records]
    cases (perform (Circles.draft k f r) t).1 with
    | error x => rfl
    | ok c =>
      rcases createCircle_alike ht k c owner f.now rfl with
        ⟨e, s, hs, hs'⟩ | ⟨s, s', hs, hs', hrecords, hroll⟩
      · simp only [hs, hs', Prod.map, id, Except.map]
      · simp only [hs, hs', Prod.map, id, Except.map, hrecords, hroll]
  | changeCircle k f reference c =>
    simp only [Ledger.step, ledgerOf, Event.carry, Circles.perform_update,
      t.sameRecords_records.findCircle]
    cases t.findCircle k reference with
    | none => rfl
    | some u =>
      simp only [(Circles.revision_reads k f c u).perform_records]
      cases (perform (Circles.revision k f c u) t).1 with
      | error x => rfl
      | ok v => simp only [Tables.updateCircle_records, Prod.map, id, updateCircle_roll]
  | deleteCircle k reference =>
    simp only [Ledger.step, ledgerOf, Event.carry,
      Circles.perform_delete k reference (ht.kinds_sound k).circles_sound,
      t.sameRecords_records.findCircle]
    cases t.findCircle k reference with
    | none => rfl
    | some c =>
      simp only [Tables.deleteCircle_records, Prod.map, id, Tables.deleteCircle_roll, Except.map]

structure Ledger.Shows (l : Ledger) (k : Kind) (P : UserId → CircleId → Prop)
    (members : List Member) : Prop where
  nodup : (members.map (·.membership.pair)).Nodup
  sound : ∀ m ∈ members, m.membership.pair = (m.user.id, m.circle.id) ∧ P m.user.id m.circle.id ∧
    l.roll k m.user.id m.circle.id = some m.membership.standing ∧
    l.records.users.get? m.user.id.text = some m.user ∧
    (l.records.of k).circles.get? m.circle.id.text = some m.circle
  complete : ∀ u c s, P u c → l.roll k u c = some s →
    ∃ m ∈ members, m.user.id = u ∧ m.circle.id = c ∧ m.membership.standing = s

variable {k : Kind}

theorem shows_filterMap_member? (ht : t.Integrity) {P : UserId → CircleId → Prop}
    {p : Membership → Bool} (hp : ∀ m, p m = true ↔ P m.userId m.circleId) :
    (ledgerOf t).Shows k P (((t.of k).memberships.filter p).filterMap (t.member? k)) where
  nodup := ht.members_nodup k p
  sound := by
    intro n hn
    obtain ⟨hm, hpm, hmember⟩ := Tables.mem_members.mp hn
    obtain ⟨-, hu, hc⟩ := Tables.member?_eq_some.mp hmember
    obtain ⟨huid, hcid⟩ := Prod.mk.inj (ht.member_pair hmember)
    rw [← huid, ← hcid]
    refine ⟨rfl, (hp _).mp hpm, (Tables.mem_memberships_iff ht).mp hm, hu, ?_⟩
    rw [ledgerOf, Tables.records_of]
    exact hc
  complete := by
    intro u c s hP hs
    have hm := (Tables.mem_memberships_iff ht
      (m := ⟨u, c, s.permission, s.since, s.changed⟩)).mpr hs
    obtain ⟨n, hn⟩ := Tables.member?_isSome ht hm
    have hrow : n.membership = _ := (Tables.member?_eq_some.mp hn).1
    have hpair : (u, c) = (n.user.id, n.circle.id) := by rw [← ht.member_pair hn, hrow]; rfl
    obtain ⟨hu, hc⟩ := Prod.mk.inj hpair
    refine ⟨n, Tables.mem_members.mpr ?_, hu.symm, hc.symm, ?_⟩
    · rw [hrow]
      exact ⟨hm, (hp _).mpr hP, hn⟩
    · rw [hrow]
      rfl

theorem perform_membersOf (ht : t.Integrity) {reference : String} {c : Circle}
    (hc : t.findCircle k reference = some c) (l : Listing) :
    ∃ members, (ledgerOf t).Shows k (fun _ c' ↦ c' = c.id) members ∧
      perform (membersOf k reference l) t = (.ok (l.page (l.matchesUser ·.user)
        (fun a b ↦ l.compareUsers a.user b.user) members), t) := by
  refine ⟨t.membersOfCircle k c.id, shows_filterMap_member? ht fun m ↦ beq_iff_eq, ?_⟩
  rw [membersOf, (Circles.find_reads k reference).perform_then, Circles.perform_find, hc]
  rfl

theorem perform_circlesOf (ht : t.Integrity) (k : Kind) {reference : String} {u : User}
    (hu : t.findUser reference = some u) (l : Listing) :
    ∃ members, (ledgerOf t).Shows k (fun u' _ ↦ u' = u.id) members ∧
      perform (circlesOf k reference l) t = (.ok (l.page (l.matchesCircle ·.circle)
        (fun a b ↦ l.compareCircles a.circle b.circle) members), t) := by
  refine ⟨t.membersOfUser k u.id, shows_filterMap_member? ht fun m ↦ beq_iff_eq, ?_⟩
  rw [circlesOf, (Accounts.find_reads reference).perform_then, Accounts.perform_find, hu]
  rfl

/-- From the empty store, any events return what they return from the empty ledger and leave the
records and memberships of that ledger. The rows are the graph of its map, and the lists of members
and circles show that map. -/
theorem store_refines_ledger (h : Hasher) (events : List Event) :
    let stored := transcript (Event.carry h) Tables.empty events
    let kept := transcript (Ledger.step h) Ledger.empty events
    stored.1 = kept.1 ∧ ledgerOf stored.2 = kept.2 ∧
    (∀ k, ((stored.2.of k).memberships.map Membership.pair).Nodup ∧
      ∀ m, m ∈ (stored.2.of k).memberships ↔
        kept.2.roll k m.userId m.circleId = some m.standing) ∧
    (∀ k reference l c, kept.2.records.findCircle k reference = some c → ∃ members,
      kept.2.Shows k (fun _ c' ↦ c' = c.id) members ∧
      perform (membersOf k reference l) stored.2 = (.ok (l.page (l.matchesUser ·.user)
        (fun a b ↦ l.compareUsers a.user b.user) members), stored.2)) ∧
    (∀ k reference l u, kept.2.records.findUser reference = some u → ∃ members,
      kept.2.Shows k (fun u' _ ↦ u' = u.id) members ∧
      perform (circlesOf k reference l) stored.2 = (.ok (l.page (l.matchesCircle ·.circle)
        (fun a b ↦ l.compareCircles a.circle b.circle) members), stored.2)) := by
  intro stored kept
  have hkeep (t : Tables) (e : Event) (ht : t.Integrity) := Event.carry_integrity h ht e
  have hstored : stored.2.Integrity := transcript_keeps hkeep .empty events
  have hkept : kept = (stored.1, ledgerOf stored.2) := by
    simp only [kept, ← ledgerOf_empty]
    exact transcript_refines hkeep (fun t e ht ↦ Event.carry_refines h ht e) .empty events
  rw [hkept]
  refine ⟨rfl, rfl, fun k ↦ ⟨(hstored.kinds_sound k).pairs_nodup, fun m ↦
    Tables.mem_memberships_iff hstored⟩, ?_, ?_⟩
  · intro k reference l c hc
    exact perform_membersOf hstored ((stored.2.sameRecords_records.findCircle ..).symm.trans hc) l
  · intro k reference l u hu
    exact perform_circlesOf hstored k ((stored.2.sameRecords_records.findUser _).symm.trans hu) l

end Roster.Enrolment
