import Roster.Proofs.Store.Integrity

namespace Roster.Store.Tables

variable {t : Tables} {k : Kind}

theorem member?_eq_some {m : Membership} {n : Member} :
    t.member? k m = some n ↔ n.membership = m ∧ t.users.get? m.userId.text = some n.user ∧
      (t.of k).circles.get? m.circleId.text = some n.circle := by
  obtain ⟨row, u, c⟩ := n
  unfold Tables.member?
  cases t.users.get? m.userId.text <;> cases (t.of k).circles.get? m.circleId.text <;>
    simp [eq_comm]

theorem member?_isSome (ht : t.Integrity) {m : Membership} (hm : m ∈ (t.of k).memberships) :
    ∃ n, t.member? k m = some n := by
  obtain ⟨hu, hc⟩ := (ht.kinds_sound k).joins_stored m hm
  obtain ⟨u, hu⟩ := Table.contains_iff.mp hu
  obtain ⟨c, hc⟩ := Table.contains_iff.mp hc
  exact ⟨⟨m, u, c⟩, member?_eq_some.mpr ⟨rfl, hu, hc⟩⟩

theorem map_pair_filterMap_member? (l : List Membership) :
    ((l.filterMap (t.member? k)).map (·.membership.pair)).Sublist (l.map Membership.pair) := by
  induction l with
  | nil => exact .slnil
  | cons m l ih =>
    rw [List.filterMap_cons]
    split
    · exact ih.cons _
    · next n hn =>
      rw [List.map_cons, List.map_cons, (member?_eq_some.mp hn).1]
      exact ih.cons_cons _

theorem Integrity.members_nodup (ht : t.Integrity) (k : Kind) (p : Membership → Bool) :
    ((((t.of k).memberships.filter p).filterMap (t.member? k)).map (·.membership.pair)).Nodup :=
  (ht.kinds_sound k).pairs_nodup.sublist
    ((map_pair_filterMap_member? _).trans (List.filter_sublist.map _))

theorem mem_members {p : Membership → Bool} {n : Member} :
    n ∈ ((t.of k).memberships.filter p).filterMap (t.member? k) ↔
      n.membership ∈ (t.of k).memberships ∧ p n.membership = true ∧
        t.member? k n.membership = some n := by
  rw [List.mem_filterMap]
  constructor
  · rintro ⟨m, hm, hn⟩
    obtain rfl := (member?_eq_some.mp hn).1
    exact ⟨(List.mem_filter.mp hm).1, (List.mem_filter.mp hm).2, hn⟩
  · rintro ⟨hm, hp, hn⟩
    exact ⟨n.membership, List.mem_filter.mpr ⟨hm, hp⟩, hn⟩

theorem Integrity.member_pair (ht : t.Integrity) {m : Membership} {n : Member}
    (h : t.member? k m = some n) : n.membership.pair = (n.user.id, n.circle.id) := by
  obtain ⟨rfl, hu, hc⟩ := member?_eq_some.mp h
  rw [Membership.pair, UserId.text_inj.mp (ht.users_sound.key_eq_id hu),
    CircleId.text_inj.mp ((ht.kinds_sound k).circles_sound.key_eq_id hc)]

/-- Rows are told apart by their pairs, and so are the members that they show. -/
theorem Integrity.member_eq (ht : t.Integrity) {m n : Member}
    (hm : m.membership ∈ (t.of k).memberships) (hn : n.membership ∈ (t.of k).memberships)
    (hmm : t.member? k m.membership = some m) (hnn : t.member? k n.membership = some n)
    (hpair : m.membership.pair = n.membership.pair) : m = n := by
  have hmembership := List.inj_on_of_nodup_map (ht.kinds_sound k).pairs_nodup hm hn hpair
  rw [hmembership, hnn] at hmm
  exact (Option.some.inj hmm).symm

end Roster.Store.Tables
