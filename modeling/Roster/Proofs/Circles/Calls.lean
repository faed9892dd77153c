import Roster.Circles
import Roster.Proofs.Store.LastWrite

namespace Roster.Circles

open Store (Call Tables)

variable (k : Kind)

structure Revises (c : Change) (u v : Circle) : Prop where
  id : v.id = u.id
  createdAt : v.createdAt = u.createdAt
  slug : c.slug = none → v.slug = u.slug
  name : c.name = none → v.name = u.name

theorem withName_revises (now : Timestamp) (c : Change) (u : Circle) :
    Revises c u (c.name.elim u (u.setName now)) := by
  cases hc : c.name with
  | none => exact ⟨rfl, rfl, fun _ ↦ rfl, fun _ ↦ rfl⟩
  | some s => exact ⟨rfl, rfl, fun _ ↦ rfl, fun h ↦ by simp [hc] at h⟩

theorem find_reads (reference : String) : Puts Reads (find k reference) :=
  .bind (.ask rfl) fun _ _ ↦ .orFail _ _

theorem firstFree_probes (except : Option CircleId) (slugs : List String) :
    Puts Probes (firstFree k except slugs) := by
  induction slugs with
  | nil => exact .throw _
  | cons s rest ih =>
    refine .bind (.ask rfl) fun isTaken _ ↦ ?_
    split
    · exact ih
    · exact .pure trivial

theorem availableSlug_probes (f : Fresh) (base : String) (except : Option CircleId) :
    Puts Probes (availableSlug k f base except) := by
  unfold availableSlug
  split
  · exact .pure trivial
  · exact firstFree_probes _ _ _

theorem checkTaken_probes (c : Circle) (keys : List Circle.Key) (errors : FieldErrors) :
    Puts Probes (checkTaken k c keys errors) := by
  induction keys generalizing errors with
  | nil => exact .pure trivial
  | cons key rest ih =>
    unfold checkTaken
    split
    · exact ih errors
    · refine .bind (.ask rfl) fun isTaken _ ↦ ?_
      split
      · exact ih _
      · exact ih _

theorem slugOf_probes (f : Fresh) (given : Option String) (base : String) :
    Puts Probes (slugOf k f given base) := by
  cases given with
  | none => exact availableSlug_probes _ _ _ _
  | some s => exact .pure trivial

theorem withSlug_probes (f : Fresh) {c : Change} {u v : Circle} (hv : Revises c u v) :
    Puts Probes (withSlug k f c.slug v) fun p ↦ Revises c u p.1 := by
  cases hc : c.slug with
  | none => exact .pure hv
  | some s =>
    have hslug (s : String) : Revises c u (v.setSlug f.now s) :=
      ⟨hv.id, hv.createdAt, fun h ↦ by simp [hc] at h, hv.name⟩
    unfold withSlug
    dsimp only
    split
    · exact .bind (availableSlug_probes _ _ _ _) fun slug _ ↦ .pure (hslug slug)
    · exact .pure (hslug s)

theorem draft_probes (f : Fresh) (r : NewCircle) :
    Puts Probes (draft k f r) (·.id = f.circleId) := by
  refine .bind (slugOf_probes _ _ _ _) fun slug _ ↦ ?_
  refine .bind (checkTaken_probes _ _ _ _) fun errors _ ↦ ?_
  exact .bind (.requireNone _) fun _ _ ↦ .pure rfl

theorem revision_probes (f : Fresh) (c : Change) (u : Circle) :
    Puts Probes (revision k f c u) (Revises c u) := by
  refine .bind (withSlug_probes k f (withName_revises f.now c u)) fun ⟨v, isDerived⟩ hv ↦ ?_
  refine .bind (checkTaken_probes _ _ _ _) fun errors _ ↦ ?_
  exact .bind (.requireNone _) fun _ _ ↦ .pure hv

theorem draft_reads (f : Fresh) (r : NewCircle) :
    Puts Reads (draft k f r) (·.id = f.circleId) :=
  (draft_probes k f r).reads

theorem revision_reads (f : Fresh) (c : Change) (u : Circle) :
    Puts Reads (revision k f c u) (Revises c u) :=
  (revision_probes k f c u).reads

theorem perform_find (reference : String) (t : Tables) :
    perform (find k reference) t =
      ((t.findCircle k reference).elim (.error (.circleNotFound k reference)) .ok, t) :=
  perform_orFail _ _ _

theorem perform_create (f : Fresh) (r : NewCircle) (owner : Option UserId) (t : Tables) :
    perform (create k f r owner) t = match (perform (draft k f r) t).1 with
      | .ok c => t.createCircle k c (owner.map fun u ↦ Membership.new u c.id .owner f.now)
      | .error x => (.error x, t) := by
  rw [create, (draft_reads k f r).perform_then]
  cases (perform (draft k f r) t).1 <;> rfl

theorem perform_update (f : Fresh) (reference : String) (c : Change) (t : Tables) :
    perform (update k f reference c) t = match t.findCircle k reference with
      | none => (.error (.circleNotFound k reference), t)
      | some u => match (perform (revision k f c u) t).1 with
        | .ok v => t.updateCircle k v
        | .error x => (.error x, t) := by
  rw [update, (find_reads k reference).perform_then, perform_find]
  cases t.findCircle k reference with
  | none => rfl
  | some u =>
    dsimp only
    refine ((revision_reads k f c u).perform_then _ t).trans ?_
    cases (perform (revision k f c u) t).1 <;> rfl

/-- Deleting succeeds whenever the record that is found stands under its id. -/
theorem perform_delete (reference : String) {t : Tables}
    (ht : (t.of k).circles.Sound (·.id.text) Circle.get) :
    perform (delete k reference) t = match t.findCircle k reference with
      | none => (.error (.circleNotFound k reference), t)
      | some c => (.ok (), (t.deleteCircle k c.id).2) := by
  rw [delete, (find_reads k reference).perform_then, perform_find]
  cases h : t.findCircle k reference with
  | none => rfl
  | some c =>
    have hdelete : perform (Errand.ask (.deleteCircle k c.id)) t =
        (.ok true, (t.deleteCircle k c.id).2) := by
      rw [perform_ask, Tables.answer, ← Tables.contains_of_findCircle ht h]
      rfl
    exact perform_bind_ok hdelete

theorem create_writesLast (f : Fresh) (r : NewCircle) (owner : Option UserId) :
    WritesLast (Call.CreatesFresh f) (·.isOk = true) (create k f r owner).run := by
  refine .bind (draft_reads k f r).looks fun c hid ↦ .ask ⟨hid, ?_⟩
  intro m hm
  obtain ⟨u, -, rfl⟩ := Option.map_eq_some_iff.mp hm
  rfl

theorem update_writesLast (f : Fresh) (reference : String) (c : Change) :
    WritesLast (Call.CreatesFresh f) (·.isOk = true) (update k f reference c).run :=
  .bind (find_reads k reference).looks fun u _ ↦
    .bind (revision_reads k f c u).looks fun _ _ ↦ .ask trivial

theorem delete_writesLast {P : Call → Prop} (hP : ∀ id, P (.deleteCircle k id))
    (reference : String) : WritesLast P (·.isOk = true) (delete k reference).run := by
  refine .bind (find_reads k reference).looks fun c _ ↦ .ask_bind (hP c.id) fun isDeleted ↦ ?_
  cases isDeleted with
  | true => exact ⟨.ok (), rfl, .inr rfl⟩
  | false => exact ⟨.error (.circleNotFound k reference), rfl, .inl rfl⟩

theorem create_ownerFits (f : Fresh) (r : NewCircle) (owner : Option UserId) :
    Puts Call.OwnerFits (create k f r owner) :=
  (create_writesLast k f r owner).ownerFits Call.CreatesFresh.ownerFits

theorem update_ownerFits (f : Fresh) (reference : String) (c : Change) :
    Puts Call.OwnerFits (update k f reference c) :=
  (update_writesLast k f reference c).ownerFits Call.CreatesFresh.ownerFits

theorem delete_ownerFits (reference : String) : Puts Call.OwnerFits (delete k reference) :=
  (delete_writesLast k (fun _ ↦ trivial) reference).ownerFits fun _ ↦ id

end Roster.Circles
