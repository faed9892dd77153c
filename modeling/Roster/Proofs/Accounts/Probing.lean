import Roster.Proofs.Accounts.Calls
import Roster.Proofs.Rule.Findings
import Roster.Proofs.Store.Taken

namespace Roster

theorem User.Key.name_injective : Function.Injective User.Key.name := by
  intro key key'
  cases key <;> cases key' <;> decide

namespace Accounts

open Store (Tables)

theorem perform_firstFree (except : Option UserId) (slugs : List String) (t : Tables) :
    perform (firstFree except slugs) t =
      ((slugs.find? fun s ↦ !t.userTaken .slug s except).elim
        (.error (.field "slug" Breach.taken.message)) .ok, t) := by
  refine Slug.perform_search rfl (fun _ _ ↦ rfl) (fun s ↦ ?_) slugs
  rw [perform_isUserTaken, Bool.not_not]

theorem perform_availableSlug (f : Fresh) (base : String) (except : Option UserId) (t : Tables) :
    perform (availableSlug f base except) t =
      ((f.slugFor? (fun s ↦ !t.userTaken .slug s except) base).elim
        (.error (.field "slug" Breach.taken.message)) .ok, t) := by
  unfold availableSlug Fresh.slugFor?
  by_cases hbase : base = ""
  · subst hbase
    rfl
  · rw [if_neg (fun hempty ↦ hbase (eq_of_beq hempty)), if_neg hbase]
    exact perform_firstFree ..

theorem perform_checkTaken (u : User) {keys : List User.Key} (hkeys : keys.Nodup)
    (errors : FieldErrors) (t : Tables) :
    perform (checkTaken u keys errors) t =
      (.ok (errors ++ Rule.collect (Rule.probed User.Key.name
        (fun key ↦ t.userTaken key (u.get key) (some u.id)) errors keys)), t) :=
  Rule.perform_probing User.Key.name_injective (fun _ ↦ rfl) (fun _ _ _ ↦ rfl)
    (fun _ ↦ perform_isUserTaken ..) hkeys errors

theorem probes_nodup (isDerived : Bool) : (probes isDerived).Nodup := by
  cases isDerived <;> decide

theorem not_mem_probes {isDerived : Bool} {key : User.Key} :
    key ∉ probes isDerived ↔ isDerived = true ∧ key = .slug := by
  cases isDerived <;> cases key <;> decide

end Accounts

end Roster
