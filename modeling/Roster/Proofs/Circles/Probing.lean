import Roster.Proofs.Circles.Calls
import Roster.Proofs.Rule.Findings
import Roster.Proofs.Store.Taken

namespace Roster

theorem Circle.Key.text_injective : Function.Injective Circle.Key.text := by
  intro key key'
  cases key <;> cases key' <;> decide

namespace Circles

open Store (Tables)

theorem perform_firstFree (k : Kind) (except : Option CircleId) (slugs : List String) (t : Tables) :
    perform (firstFree k except slugs) t =
      ((slugs.find? fun s ↦ !t.circleTaken k .slug s except).elim
        (.error (.field "slug" Breach.taken.message)) .ok, t) := by
  refine Slug.perform_search rfl (fun _ _ ↦ rfl) (fun s ↦ ?_) slugs
  rw [perform_isCircleTaken, Bool.not_not]

theorem perform_availableSlug (k : Kind) (f : Fresh) (base : String) (except : Option CircleId)
    (t : Tables) :
    perform (availableSlug k f base except) t =
      ((f.slugFor? (fun s ↦ !t.circleTaken k .slug s except) base).elim
        (.error (.field "slug" Breach.taken.message)) .ok, t) := by
  unfold availableSlug Fresh.slugFor?
  by_cases hbase : base = ""
  · subst hbase
    rfl
  · rw [if_neg (fun hempty ↦ hbase (eq_of_beq hempty)), if_neg hbase]
    exact perform_firstFree ..

theorem perform_checkTaken (k : Kind) (c : Circle) {keys : List Circle.Key} (hkeys : keys.Nodup)
    (errors : FieldErrors) (t : Tables) :
    perform (checkTaken k c keys errors) t =
      (.ok (errors ++ Rule.collect (Rule.probed Circle.Key.text
        (fun key ↦ t.circleTaken k key (c.get key) (some c.id)) errors keys)), t) :=
  Rule.perform_probing Circle.Key.text_injective (fun _ ↦ rfl) (fun _ _ _ ↦ rfl)
    (fun _ ↦ perform_isCircleTaken ..) hkeys errors

theorem probes_nodup (isDerived : Bool) : (probes isDerived).Nodup := by
  cases isDerived <;> decide

theorem not_mem_probes {isDerived : Bool} {key : Circle.Key} :
    key ∉ probes isDerived ↔ isDerived = true ∧ key = .slug := by
  cases isDerived <;> cases key <;> decide

end Circles

end Roster
