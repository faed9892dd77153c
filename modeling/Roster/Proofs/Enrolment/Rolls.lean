import Roster.Proofs.Enrolment.Machine
import Roster.Proofs.Store.Integrity

namespace Roster

def Membership.standing (m : Membership) : Enrolment.Standing :=
  ⟨m.permission, m.createdAt, m.updatedAt⟩

namespace Store.Tables

open Enrolment (Standing Roll)

def roll (t : Tables) : Roll := fun k u c ↦
  ((t.of k).memberships.find? (·.isPair u c)).map Membership.standing

variable {t : Tables} {k : Kind} {u : UserId} {c : CircleId} {m : Membership}

theorem find?_isPair (h : (t.of k).memberships.find? (·.isPair u c) = some m) :
    m.userId = u ∧ m.circleId = c :=
  Membership.isPair_iff.mp (List.find?_some (p := fun m : Membership ↦ m.isPair u c) h)

theorem roll_eq_none : t.roll k u c = none ↔ (t.of k).memberships.find? (·.isPair u c) = none :=
  Option.map_eq_none_iff

theorem roll_eq_none_iff_isAttached : t.roll k u c = none ↔ t.isAttached k u c = false := by
  rw [roll_eq_none, List.find?_eq_none, isAttached, List.any_eq_false]

theorem isAttached_of_roll {s : Standing} (h : t.roll k u c = some s) :
    t.isAttached k u c = true := by
  rw [← Bool.not_eq_false, ← roll_eq_none_iff_isAttached, h]
  exact Option.some_ne_none s

theorem find?_eq_some_iff (ht : t.Integrity) :
    (t.of k).memberships.find? (·.isPair u c) = some m ↔
      m ∈ (t.of k).memberships ∧ m.userId = u ∧ m.circleId = c := by
  constructor
  · exact fun h ↦ ⟨List.mem_of_find?_eq_some h, find?_isPair h⟩
  · rintro ⟨hm, rfl, rfl⟩
    have hpair : m.isPair m.userId m.circleId = true := Membership.isPair_iff.mpr ⟨rfl, rfl⟩
    cases h : (t.of k).memberships.find? (·.isPair m.userId m.circleId) with
    | none => exact absurd hpair (List.find?_eq_none.mp h m hm)
    | some n =>
      obtain ⟨hu, hc⟩ := find?_isPair h
      have hn := List.inj_on_of_nodup_map (ht.kinds_sound k).pairs_nodup
        (List.mem_of_find?_eq_some h) hm (Prod.ext hu hc)
      rw [hn]

/-- The rows are the graph of the map: each pair that is attached has a row, and no row is left. -/
theorem mem_memberships_iff (ht : t.Integrity) :
    m ∈ (t.of k).memberships ↔ t.roll k m.userId m.circleId = some m.standing := by
  constructor
  · intro hm
    rw [roll, (find?_eq_some_iff ht).mpr ⟨hm, rfl, rfl⟩, Option.map_some]
  · intro h
    obtain ⟨n, hn, hs⟩ := Option.map_eq_some_iff.mp h
    obtain ⟨hu, hc⟩ := find?_isPair hn
    obtain ⟨hp, hcreated, hupdated⟩ := Standing.mk.inj hs
    have he : n = m := by
      cases n
      cases m
      simp_all
    rw [← he]
    exact List.mem_of_find?_eq_some hn

theorem filter_isPair_eq_singleton (ht : t.Integrity) (hm : m ∈ (t.of k).memberships) :
    (t.of k).memberships.filter (·.isPair m.userId m.circleId) = [m] := by
  have hnodup : (t.of k).memberships.Nodup := List.Nodup.of_map _ (ht.kinds_sound k).pairs_nodup
  rw [← List.perm_singleton,
    List.perm_ext_iff_of_nodup (hnodup.filter _) (List.nodup_singleton m)]
  intro n
  rw [List.mem_filter, List.mem_singleton, Membership.isPair_iff]
  constructor
  · rintro ⟨hn, hu, hc⟩
    exact List.inj_on_of_nodup_map (ht.kinds_sound k).pairs_nodup hn hm (Prod.ext hu hc)
  · rintro rfl
    exact ⟨hm, rfl, rfl⟩

theorem roll_congr {t t' : Tables} (h : ∀ k, (t'.of k).memberships = (t.of k).memberships) :
    t'.roll = t.roll := by
  funext k u c
  rw [roll, roll, h]

theorem roll_set {d : CircleTables} (k' : Kind) :
    (t.set k d).roll k' u c =
      if k' = k then (d.memberships.find? (·.isPair u c)).map Membership.standing
      else t.roll k' u c := by
  rw [roll, of_set]
  split <;> rfl

theorem roll_append {d : Table Circle} (hm : t.isAttached k m.userId m.circleId = false) :
    (t.set k ⟨d, (t.of k).memberships ++ [m]⟩).roll =
      t.roll.put k m.userId m.circleId (some m.standing) := by
  funext k' u c
  rw [roll_set, Roll.put]
  by_cases hk : k' = k
  · subst hk
    have hfree := roll_eq_none.mp (roll_eq_none_iff_isAttached.mpr hm)
    rw [if_pos rfl, List.find?_append, List.find?_singleton]
    -- The new row comes last, so it is found only where no other row joins the pair.
    by_cases hpair : u = m.userId ∧ c = m.circleId
    · obtain ⟨rfl, rfl⟩ := hpair
      rw [hfree, if_pos (Membership.isPair_iff.mpr ⟨rfl, rfl⟩), if_pos ⟨rfl, rfl, rfl⟩]
      rfl
    · have hne : ¬m.isPair u c = true := fun h ↦ hpair
        ⟨(Membership.isPair_iff.mp h).1.symm, (Membership.isPair_iff.mp h).2.symm⟩
      rw [if_neg hne, if_neg (fun h ↦ hpair h.2), Option.or_none, roll]
  · rw [if_neg hk, if_neg (fun h ↦ hk h.1)]

theorem find?_changeFirst {f : Membership → Membership} (hf : ∀ m, (f m).pair = m.pair)
    {u u' : UserId} {c c' : CircleId} (l : List Membership) :
    (changeFirst (·.isPair u c) f l).find? (·.isPair u' c') =
      if u' = u ∧ c' = c then (l.find? (·.isPair u c)).map f else l.find? (·.isPair u' c') := by
  have hpair (m : Membership) (u : UserId) (c : CircleId) : (f m).isPair u c = m.isPair u c := by
    obtain ⟨hu, hc⟩ := Prod.mk.inj (hf m)
    simp only [Membership.isPair, hu, hc]
  induction l with
  | nil => simp [changeFirst]
  | cons m l ih =>
    rw [changeFirst]
    by_cases hm : m.isPair u c = true
    · obtain ⟨rfl, rfl⟩ := Membership.isPair_iff.mp hm
      rw [if_pos hm, List.find?_cons, hpair]
      by_cases h : u' = m.userId ∧ c' = m.circleId
      · obtain ⟨rfl, rfl⟩ := h
        simp [hm]
      · have hm' : m.isPair u' c' = false := by
          rw [← Bool.not_eq_true, Membership.isPair_iff]
          exact fun h' ↦ h ⟨h'.1.symm, h'.2.symm⟩
        simp [hm', h]
    · rw [if_neg hm, List.find?_cons, ih]
      by_cases h : u' = u ∧ c' = c
      · obtain ⟨rfl, rfl⟩ := h
        simp [hm]
      · simp only [if_neg h, List.find?_cons]

theorem roll_changeFirst (p : Permission) (now : Timestamp) {s : Standing} {d : Table Circle}
    (hs : t.roll k u c = some s) :
    (t.set k ⟨d, changeFirst (·.isPair u c) (·.setPermission now p) (t.of k).memberships⟩).roll =
      t.roll.put k u c (some ⟨p, s.since, now⟩) := by
  funext k' u' c'
  rw [roll_set, Roll.put, find?_changeFirst (f := (·.setPermission now p)) fun _ ↦ rfl]
  by_cases hk : k' = k
  · subst hk
    obtain ⟨m, hm, rfl⟩ := Option.map_eq_some_iff.mp hs
    rw [if_pos rfl, hm]
    by_cases hpair : u' = u ∧ c' = c
    · rw [if_pos hpair, if_pos ⟨rfl, hpair⟩]
      rfl
    · rw [if_neg hpair, if_neg (fun h ↦ hpair h.2), roll]
  · rw [if_neg hk, if_neg (fun h ↦ hk h.1)]

theorem find?_filter_pair (keep : UserId → CircleId → Bool) (l : List Membership) :
    (l.filter fun m ↦ keep m.userId m.circleId).find? (·.isPair u c) =
      if keep u c then l.find? (·.isPair u c) else none := by
  rw [List.find?_filter]
  split
  · next h =>
    congr 1
    funext m
    rw [Bool.eq_iff_iff, decide_eq_true_iff]
    refine ⟨And.right, fun hm ↦ ⟨?_, hm⟩⟩
    obtain ⟨rfl, rfl⟩ := Membership.isPair_iff.mp hm
    exact h
  · next h =>
    rw [List.find?_eq_none]
    intro m _ hm
    obtain ⟨hkeep, hm⟩ := of_decide_eq_true hm
    obtain ⟨rfl, rfl⟩ := Membership.isPair_iff.mp hm
    exact h hkeep

/-- A pair has one row, so that taking its first row away takes the pair away. -/
theorem eraseP_isPair_eq_filter {l : List Membership} (hl : (l.map Membership.pair).Nodup) :
    l.eraseP (·.isPair u c) = l.filter fun m ↦ !m.isPair u c := by
  induction l with
  | nil => rfl
  | cons m l ih =>
    obtain ⟨hm, hl⟩ := List.nodup_cons.mp hl
    by_cases h : m.isPair u c = true
    · have hrest : ∀ n ∈ l, (!n.isPair u c) = true := by
        intro n hn
        rw [Bool.not_eq_true', ← Bool.not_eq_true]
        intro hn'
        obtain ⟨rfl, rfl⟩ := Membership.isPair_iff.mp h
        obtain ⟨hu, hc⟩ := Membership.isPair_iff.mp hn'
        exact hm (List.mem_map.mpr ⟨n, hn, Prod.ext hu hc⟩)
      rw [List.eraseP_cons_of_pos (p := fun m : Membership ↦ m.isPair u c) h,
        List.filter_cons_of_neg (by simp [h]), List.filter_eq_self.mpr hrest]
    · rw [List.eraseP_cons_of_neg (p := fun m : Membership ↦ m.isPair u c) h,
        List.filter_cons_of_pos (by simp [h]), ih hl]

theorem roll_eraseP (ht : t.Integrity) {d : Table Circle} :
    (t.set k ⟨d, (t.of k).memberships.eraseP (·.isPair u c)⟩).roll = t.roll.put k u c none := by
  funext k' u' c'
  rw [roll_set, Roll.put, eraseP_isPair_eq_filter (ht.kinds_sound k).pairs_nodup]
  by_cases hk : k' = k
  · subst hk
    have h := find?_filter_pair (u := u') (c := c') (fun u' c' ↦ !(u' == u && c' == c))
      (t.of k').memberships
    rw [if_pos rfl]
    refine (congrArg (Option.map Membership.standing) h).trans ?_
    by_cases hpair : u' = u ∧ c' = c
    · simp [hpair]
    · have hkeep : (!(u' == u && c' == c)) = true := by
        rw [Bool.not_eq_true', ← Bool.not_eq_true, Bool.and_eq_true, beq_iff_eq, beq_iff_eq]
        exact hpair
      rw [if_pos hkeep, if_neg (fun h ↦ hpair h.2), roll]
  · rw [if_neg hk, if_neg (fun h ↦ hk h.1)]

theorem deleteUser_roll (u : UserId) : (t.deleteUser u).2.roll = t.roll.withoutUser u := by
  funext k u' c
  have h := find?_filter_pair (u := u') (c := c) (fun u' _ ↦ u' != u) (t.of k).memberships
  rw [roll, deleteUser_of, Roll.withoutUser]
  refine (congrArg (Option.map Membership.standing) h).trans ?_
  by_cases hu : u' = u
  · simp [hu]
  · rw [if_pos (by simpa using hu), if_neg hu, roll]

theorem deleteCircle_roll (k : Kind) (c : CircleId) :
    (t.deleteCircle k c).2.roll = t.roll.withoutCircle k c := by
  funext k' u c'
  rw [deleteCircle, roll_set, Roll.withoutCircle]
  by_cases hk : k' = k
  · subst hk
    have h := find?_filter_pair (u := u) (c := c') (fun _ c' ↦ c' != c) (t.of k').memberships
    rw [if_pos rfl]
    refine (congrArg (Option.map Membership.standing) h).trans ?_
    by_cases hc : c' = c
    · simp [hc]
    · rw [if_pos (by simpa using hc), if_neg (fun h ↦ hc h.2), roll]
  · rw [if_neg hk, if_neg (fun h ↦ hk h.1)]

theorem insertMembership_of_attached (hu : t.users.contains m.userId.text = true)
    (hc : (t.of k).circles.contains m.circleId.text = true) {s : Standing}
    (hs : t.roll k m.userId m.circleId = some s) :
    t.insertMembership k m = (.error (.alreadyAssigned k), t) := by
  have ha := isAttached_of_roll hs
  rw [isAttached] at ha
  simp [insertMembership, hu, hc, ha]

theorem insertMembership_of_absent (hu : t.users.contains m.userId.text = true)
    (hc : (t.of k).circles.contains m.circleId.text = true)
    (hs : t.roll k m.userId m.circleId = none) :
    (t.insertMembership k m).1 = .ok m ∧
      (t.insertMembership k m).2.roll = t.roll.put k m.userId m.circleId (some m.standing) := by
  have ha := roll_eq_none_iff_isAttached.mp hs
  have hrows := roll_append (d := (t.of k).circles) ha
  rw [isAttached] at ha
  rw [insertMembership]
  simp only [hu, hc, ha, Bool.not_true, Bool.false_eq_true, if_false]
  exact ⟨trivial, hrows⟩

theorem updatePermission_of_absent {p : Permission} {now : Timestamp} (hs : t.roll k u c = none) :
    t.updatePermission k u c p now = (.error (.notAssigned k), t) := by
  simp [updatePermission, roll_eq_none.mp hs]

theorem updatePermission_of_attached (p : Permission) (now : Timestamp) {s : Standing}
    (hs : t.roll k u c = some s) :
    (t.updatePermission k u c p now).1 = .ok ⟨u, c, p, s.since, now⟩ ∧
      (t.updatePermission k u c p now).2.roll = t.roll.put k u c (some ⟨p, s.since, now⟩) := by
  have hrows := roll_changeFirst p now (d := (t.of k).circles) hs
  obtain ⟨m, hm, rfl⟩ := Option.map_eq_some_iff.mp hs
  obtain ⟨rfl, rfl⟩ := find?_isPair hm
  rw [updatePermission]
  simp only [hm]
  exact ⟨rfl, hrows⟩

theorem deleteMembership_of_absent (hs : t.roll k u c = none) :
    t.deleteMembership k u c = (.error (.notAssigned k), t) := by
  have ha := roll_eq_none_iff_isAttached.mp hs
  rw [isAttached] at ha
  simp [deleteMembership, ha]

theorem deleteMembership_of_attached (ht : t.Integrity) {s : Standing}
    (hs : t.roll k u c = some s) :
    (t.deleteMembership k u c).1 = .ok () ∧
      (t.deleteMembership k u c).2.roll = t.roll.put k u c none := by
  have hrows := roll_eraseP (k := k) (u := u) (c := c) ht (d := (t.of k).circles)
  have ha := isAttached_of_roll hs
  rw [isAttached] at ha
  rw [deleteMembership]
  simp only [ha, if_true]
  exact ⟨trivial, hrows⟩

theorem roll_of_absent_circle (ht : t.Integrity) (hc : (t.of k).circles.get? c.text = none)
    (u : UserId) : t.roll k u c = none := by
  rw [roll_eq_none, List.find?_eq_none]
  intro m hm hpair
  have hstored := ((ht.kinds_sound k).joins_stored m hm).2
  rw [(Membership.isPair_iff.mp hpair).2, Table.contains_eq_false.mpr hc] at hstored
  exact Bool.false_ne_true hstored

/-- Creating a circle attaches its owner, if there is one, and nobody else. -/
theorem createCircle_roll (ht : t.Integrity) {v w : Circle} {owner : Option Membership}
    (hfit : ∀ m ∈ owner, m.circleId = v.id) (h : (t.createCircle k v owner).1 = .ok w) :
    w = v ∧ (t.createCircle k v owner).2.roll =
      owner.elim t.roll fun m ↦ t.roll.put k m.userId v.id (some m.standing) := by
  rcases t.createCircle_cases k v owner with ⟨f, he⟩ | ⟨-, hnew, -, he⟩
  · rw [he] at h
    cases h
  rw [he] at h ⊢
  refine ⟨(Except.ok.inj h).symm, ?_⟩
  cases owner with
  | none =>
    refine roll_congr fun k' ↦ ?_
    rw [of_set]
    split
    · next hk => simp [hk]
    · rfl
  | some m =>
    have hm : m.circleId = v.id := hfit m rfl
    have ha : t.isAttached k m.userId m.circleId = false := by
      rw [hm, ← roll_eq_none_iff_isAttached]
      exact roll_of_absent_circle ht hnew _
    rw [Option.elim_some, ← hm]
    exact roll_append ha

end Store.Tables

end Roster
