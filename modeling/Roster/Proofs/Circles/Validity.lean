import Roster.Proofs.Circles.Calls
import Roster.Proofs.Store.Validity

namespace Roster.Circles

open Store (Call Tables)

variable (k : Kind)

theorem checkTaken_keeps (c : Circle) (keys : List Circle.Key) (errors : FieldErrors) :
    Puts Probes (checkTaken k c keys errors) fun errors' ↦ errors' = [] → errors = [] := by
  induction keys generalizing errors with
  | nil => exact .pure id
  | cons key rest ih =>
    unfold checkTaken
    split
    · exact ih errors
    · refine .bind (.ask rfl) fun isTaken _ ↦ ?_
      split
      · refine (ih _).mono (fun _ ↦ id) fun errors' h h' ↦ ?_
        simpa [FieldErrors.add] using h h'
      · exact ih errors

theorem draft_valid (f : Fresh) (r : NewCircle) : Puts Probes (draft k f r) (·.validate = []) := by
  refine .bind (slugOf_probes _ _ _ _) fun slug _ ↦ ?_
  refine .bind (checkTaken_keeps _ _ _ _) fun errors hkept ↦ ?_
  exact .bind (.requireNone_eq_nil errors) fun _ hnone ↦ .pure (hkept hnone)

theorem revision_valid (f : Fresh) (c : Change) (u : Circle) :
    Puts Probes (revision k f c u) (·.validate = []) := by
  refine .bind (withSlug_probes k f (withName_revises f.now c u)) fun ⟨v, isDerived⟩ _ ↦ ?_
  refine .bind (checkTaken_keeps _ _ _ _) fun errors hkept ↦ ?_
  exact .bind (.requireNone_eq_nil errors) fun _ hnone ↦ .pure (hkept hnone)

theorem create_putsValid (f : Fresh) (r : NewCircle) (owner : Option UserId) :
    Puts Call.PutsValid (create k f r owner) := by
  refine .bind ((draft_valid k f r).mono (fun _ ↦ Probes.putsValid) fun _ ↦ id) fun c hc ↦ ?_
  exact .ask hc

theorem find_putsValid (reference : String) : Puts Call.PutsValid (find k reference) :=
  (find_reads k reference).looks.mono (fun _ ↦ Call.putsValid_of_not_isWrite) fun _ ↦ id

theorem update_putsValid (f : Fresh) (reference : String) (c : Change) :
    Puts Call.PutsValid (update k f reference c) := by
  refine .bind (find_putsValid k reference) fun u _ ↦ ?_
  refine .bind ((revision_valid k f c u).mono (fun _ ↦ Probes.putsValid) fun _ ↦ id) fun v hv ↦ ?_
  exact .ask hv

theorem delete_putsValid (reference : String) : Puts Call.PutsValid (delete k reference) :=
  (delete_writesLast k (fun _ ↦ trivial) reference).puts (fun _ ↦ Call.putsValid_of_not_isWrite)
    fun _ ↦ id

end Roster.Circles
