import Roster.Proofs.Accounts.Calls
import Roster.Proofs.Store.Validity

namespace Roster

theorem FieldErrors.check_eq_nil {errors : FieldErrors} {field : String} {failure : Option String}
    (h : errors.check field failure = []) : errors = [] := by
  cases failure with
  | none => exact h
  | some message => simp [check, add] at h

namespace Accounts

open Store (Call Tables)

def Change.SetsNothing (c : Change) : Prop :=
  { c with password := c.password? } = {}

instance (c : Change) : Decidable c.SetsNothing :=
  inferInstanceAs (Decidable (_ = _))

theorem checkTaken_keeps (u : User) (keys : List User.Key) (errors : FieldErrors) :
    Puts Probes (checkTaken u keys errors) fun errors' ↦ errors' = [] → errors = [] := by
  induction keys generalizing errors with
  | nil => exact .pure id
  | cons key rest ih =>
    unfold checkTaken
    split
    · exact ih errors
    · refine .bind (.ask rfl) fun isTaken _ ↦ ?_
      split
      · refine (ih _).mono (fun _ ↦ id) fun errors' h h' ↦ ?_
        simpa [FieldErrors.add] using h h'
      · exact ih errors

theorem draft_valid (h : Hasher) (f : Fresh) (r : NewUser) :
    Puts Probes (draft h f r) (·.validate = []) := by
  refine .bind (slugOf_probes _ _ _) fun slug _ ↦ ?_
  refine .bind (checkTaken_keeps _ _ _) fun errors hkept ↦ ?_
  refine .bind (.requireNone_eq_nil errors) fun _ hnone ↦ .bind (.ofExcept _) fun hash _ ↦ .pure ?_
  exact FieldErrors.check_eq_nil (hkept hnone)

theorem revision_valid (h : Hasher) (f : Fresh) (c : Change) (u : User) :
    Puts Probes (revision h f c u) (·.validate = []) := by
  refine .bind (withSlug_probes _ _ _) fun ⟨v, isDerived⟩ _ ↦ ?_
  refine .bind (checkTaken_keeps _ _ _) fun errors hkept ↦ ?_
  refine .bind (.requireNone_eq_nil errors) fun _ hnone ↦ ?_
  refine (withPassword_probes h f.now _ v).mono (fun _ ↦ id) fun w hw ↦ ?_
  obtain ⟨hash, now, rfl, -⟩ := hw
  exact FieldErrors.check_eq_nil (hkept hnone)

theorem create_putsValid (h : Hasher) (f : Fresh) (r : NewUser) :
    Puts Call.PutsValid (create h f r) := by
  refine .bind ((draft_valid h f r).mono (fun _ ↦ Probes.putsValid) fun _ ↦ id) fun u hu ↦ ?_
  exact .ask hu

theorem find_putsValid (reference : String) : Puts Call.PutsValid (find reference) :=
  (find_reads reference).looks.mono (fun _ ↦ Call.putsValid_of_not_isWrite) fun _ ↦ id

theorem update_putsValid (h : Hasher) (f : Fresh) (reference : String) (c : Change) :
    Puts Call.PutsValid (update h f reference c) := by
  refine .bind (find_putsValid reference) fun u _ ↦ ?_
  refine .bind ((revision_valid h f c u).mono (fun _ ↦ Probes.putsValid) fun _ ↦ id) fun v hv ↦ ?_
  exact .ask hv

theorem delete_putsValid (reference : String) : Puts Call.PutsValid (delete reference) :=
  (delete_writesLast (fun _ ↦ trivial) reference).puts (fun _ ↦ Call.putsValid_of_not_isWrite)
    fun _ ↦ id

theorem ensureAdmin_putsValid (h : Hasher) (f : Fresh) (username password email : String) :
    Puts Call.PutsValid (ensureAdmin h f username password email) := by
  refine .bind (.ask trivial) fun found _ ↦ ?_
  split
  · exact update_putsValid ..
  · exact create_putsValid ..

end Accounts

end Roster
