import Roster.Proofs.Circles.Probing
import Roster.Proofs.Circles.Validity

namespace Roster.Circles

open Store (Table Tables)

variable {k : Kind} {t : Tables} {f : Fresh} {r : NewCircle} {owner : Option UserId}

def NewCircle.circle (f : Fresh) (r : NewCircle) (slug : String) : Circle where
  id := f.circleId
  slug := slug
  name := r.name
  createdAt := f.now
  updatedAt := f.now

structure NewCircle.Creatable (k : Kind) (f : Fresh) (owner : Option UserId) (t : Tables)
    (r : NewCircle) : Prop where
  slug_blank : ∀ s ∈ r.slug, Text.blank s = true
  name : Rule.name r.name = none
  id_free : (t.of k).circles.contains f.circleId.text = false
  name_free : (t.of k).circles.lacks Circle.name r.name = true
  owner_stored : ∀ u ∈ owner, t.users.contains u.text = true

theorem validate_eq_of_rule {c : Circle} (hname : Rule.name c.name = none) :
    c.validate = ((Rule.slug c.slug).map fun b ↦ ⟨"slug", b.message⟩).toList := by
  rw [Circle.validate, Rule.collect_eq, hname]
  cases Rule.slug c.slug <;> rfl

theorem perform_draft_of_creatable (hr : r.Creatable k f owner t)
    (hbase : Rule.slug (Slug.ofText r.name) = none) :
    perform (draft k f r) t =
      ((f.firstFree? ((t.of k).circles.lacks Circle.slug) (Slug.ofText r.name)).elim
        (.error (.field "slug" Breach.taken.message)) fun slug ↦
          (Rule.slug slug).elim (.ok (r.circle f slug)) fun b ↦ .error (.field "slug" b.message),
        t) := by
  have hfree : (fun s ↦ !t.circleTaken k .slug s none) = (t.of k).circles.lacks Circle.slug :=
    Table.not_taken_none
  have hslug := perform_availableSlug k f (Slug.ofText r.name) none t
  rw [hfree, Fresh.slugFor?_of_ne_empty (Rule.ne_empty_of_slug hbase)] at hslug
  unfold draft
  simp only [Slug.given_eq_none hr.slug_blank]
  refine (perform_bind_elim hslug).trans ?_
  cases f.firstFree? ((t.of k).circles.lacks Circle.slug) (Slug.ofText r.name) with
  | none => rfl
  | some slug =>
    have hname (key : Circle.Key) (hkey : key ∈ probes true) :
        t.circleTaken k key ((r.circle f slug).get key) (some (r.circle f slug).id) = false := by
      rw [List.mem_singleton.mp hkey]
      exact Table.taken_of_lacks hr.name_free _
    have hchecked : perform (checkTaken k (r.circle f slug) (probes true)
        (r.circle f slug).validate) t = (.ok (r.circle f slug).validate, t) := by
      rw [perform_checkTaken k _ (probes_nodup true), Rule.collect_probed_of_free hname,
        List.append_nil]
    have herrors : (r.circle f slug).validate =
        ((Rule.slug slug).map fun b ↦ ⟨"slug", b.message⟩).toList :=
      validate_eq_of_rule (c := r.circle f slug) hr.name
    refine (perform_bind_ok hchecked).trans ((perform_requireNone _ _ t).trans ?_)
    rw [herrors, Option.elim_some]
    cases Rule.slug slug <;> rfl

/-- A circle whose values no other of its kind has, under an id that none has, is put into the store
with the row of its owner. -/
theorem createCircle_of_free {c : Circle} {row : Option Membership}
    (hrow : ∀ m ∈ row, t.users.contains m.userId.text = true)
    (hid : (t.of k).circles.contains c.id.text = false)
    (hfree : ∀ key, (t.of k).circles.lacks (Circle.get · key) (c.get key) = true) :
    t.createCircle k c row = (.ok c, t.set k
      ⟨(t.of k).circles.insert c.id.text c, (t.of k).memberships ++ row.toList⟩) := by
  have hclash : Tables.circleClash (t.of k) c = none := by
    rw [Tables.circleClash_eq_none]
    exact fun v hv _ key ↦ Table.lacks_iff.mp (hfree key) v hv
  have hfilter : row.filter (fun m ↦ !t.users.contains m.userId.text) = none := by
    rw [Option.filter_eq_none_iff]
    intro m hm
    simp [hrow m hm]
  simp only [Tables.createCircle, hfilter, hid, hclash, Bool.false_eq_true, if_false]

theorem create_ends (hr : r.Creatable k f owner t)
    (hbase : Rule.slug (Slug.ofText r.name) = none) :
    f.Ends ((t.of k).circles.lacks Circle.slug) (Slug.ofText r.name) t
      (fun slug ↦ (.ok (r.circle f slug), t.set k
        ⟨(t.of k).circles.insert f.circleId.text (r.circle f slug), (t.of k).memberships ++
          (owner.map fun u ↦ Membership.new u f.circleId .owner f.now).toList⟩))
      (perform (create k f r owner) t) := by
  rw [Fresh.Ends, perform_create, perform_draft_of_creatable hr hbase]
  cases hfirst : f.firstFree? ((t.of k).circles.lacks Circle.slug) (Slug.ofText r.name) with
  | none => rfl
  | some slug =>
    dsimp only [Option.elim_some]
    cases Rule.slug slug with
    | some b => rfl
    | none =>
      refine createCircle_of_free (c := r.circle f slug) ?_ hr.id_free fun key ↦ ?_
      · intro m hm
        obtain ⟨u, hu, rfl⟩ := Option.map_eq_some_iff.mp hm
        exact hr.owner_stored u hu
      · cases key with
        | slug => exact (Fresh.derives_of_firstFree? hfirst).free
        | name => exact hr.name_free

end Roster.Circles
