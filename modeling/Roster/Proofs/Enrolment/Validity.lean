import Roster.Proofs.Accounts.Revising
import Roster.Proofs.Circles.Revising
import Roster.Proofs.Enrolment.Ledger

namespace Roster.Enrolment

open Store (Call Tables)

/-- What errands and operations lead to, one after the other, from the empty store. In between the
maps may come to be visited in another order. -/
inductive Served : Tables → Prop
  | empty : Served .empty
  | carried {t : Tables} (h : Hasher) (e : Event) : Served t → Served (e.carry h t).2
  | adminEnsured {t : Tables} (h : Hasher) (f : Fresh) (username password email : String) :
      Served t → Served (perform (Accounts.ensureAdmin h f username password email) t).2
  | rearranged {t t' : Tables} : Served t → t.Rearranged t' → Served t'

theorem Task.operation_putsValid (x : Task) : x.operation.Asks Call.PutsValid := by
  have hdone {α β : Type} {d : Dialogue Store.interface α} {g : α → β} {Q : α → Prop}
      (hd : WritesLast Call.PutsValid Q d) :
      (d.bind fun a ↦ .done (g a)).Asks Call.PutsValid :=
    (hd.asks (fun _ ↦ Call.putsValid_of_not_isWrite) fun _ ↦ id).bind fun _ _ ↦ trivial
  obtain ⟨k, action, now, userRef, circleRef, permission⟩ := x
  cases action with
  | attach => exact hdone (attach_writesLast k (fun _ ↦ trivial) now userRef circleRef permission)
  | permit =>
    exact hdone (permit_writesLast k (fun _ _ _ _ ↦ trivial) now userRef circleRef permission)
  | drop => exact hdone (drop_writesLast k (fun _ _ ↦ trivial) userRef circleRef)

variable {t : Tables}

theorem Event.carry_valid (h : Hasher) (ht : t.Valid) (e : Event) : (e.carry h t).2.Valid := by
  cases e with
  | enrol x => exact ht.run x.operation_putsValid
  | createUser f r => exact ht.run (Accounts.create_putsValid h f r).asks
  | changeUser f reference c => exact ht.run (Accounts.update_putsValid h f reference c).asks
  | deleteUser reference => exact ht.run (Accounts.delete_putsValid reference).asks
  | createCircle k f r owner => exact ht.run (Circles.create_putsValid k f r owner).asks
  | changeCircle k f reference c => exact ht.run (Circles.update_putsValid k f reference c).asks
  | deleteCircle k reference => exact ht.run (Circles.delete_putsValid k reference).asks

namespace Served

theorem integrity (ht : Served t) : t.Integrity := by
  induction ht with
  | empty => exact .empty
  | carried h e _ ih => exact e.carry_integrity h ih
  | adminEnsured h f username password email _ ih =>
    have hputs := Accounts.ensureAdmin_createsFresh h f username password email
    exact hputs.perform_keeps (fun c _ hc ht ↦ ht.answer (hc.ownerFits c)) ih
  | rearranged _ h ih => exact h.integrity ih

theorem valid (ht : Served t) : t.Valid := by
  induction ht with
  | empty => exact .empty
  | carried h e _ ih => exact e.carry_valid h ih
  | adminEnsured h f username password email _ ih =>
    exact ih.run (Accounts.ensureAdmin_putsValid h f username password email).asks
  | rearranged _ h ih => exact ih.rearranged h

end Served

/-- Every record that is stored obeys the rules of its fields. Whoever asks, under its id, for no
change of it is told that it went well, and all tables are as they were. -/
theorem stored_stays_as_it_is (ht : Served t) :
    (∀ u ∈ t.users.values, u.validate = [] ∧
      ∀ h f c, c.SetsNothing → perform (Accounts.update h f u.id.text c) t = (.ok u, t)) ∧
    (∀ k, ∀ c ∈ (t.of k).circles.values, c.validate = [] ∧
      ∀ f, ∃ found, t.findCircle k c.id.text = some found ∧
        perform (Circles.update k f c.id.text ⟨none, none⟩) t = (.ok found, t)) := by
  have hvalid := ht.valid
  have hintegrity := ht.integrity
  constructor
  · intro u hu
    refine ⟨hvalid.users u hu, ?_⟩
    intro h f c hc
    exact Accounts.perform_update_of_nothing hintegrity hu (hvalid.users u hu) h f hc
  · intro k c hc
    refine ⟨hvalid.circles k c hc, ?_⟩
    intro f
    -- Another circle may have this id for a slug and be found instead; it is left alone as well.
    have href : c.isReferencedBy c.id.text = true := by simp [Circle.isReferencedBy]
    obtain ⟨found, hfind⟩ : ∃ found, t.findCircle k c.id.text = some found :=
      Option.isSome_iff_exists.mp (List.find?_isSome.mpr ⟨c, hc, href⟩)
    have hfound := List.mem_of_find?_eq_some hfind
    exact ⟨found, hfind, Circles.perform_update_of_nothing hintegrity hfind
      (hvalid.circles k found hfound) f⟩

theorem stored_stays_as_it_is_after_ensuring :
    let h : Hasher := ⟨.ok, (· == ·)⟩
    let fresh (now : Timestamp) : Fresh := ⟨now, ⟨"u", by decide⟩, ⟨"g", by decide⟩, []⟩
    let start := (perform (Accounts.ensureAdmin h (fresh ⟨0, 0⟩) "Jane Doe" "password-1"
      "jane@example.org") .empty).2
    let t := ((Event.createCircle .group (fresh ⟨1, 0⟩) ⟨"Core", none⟩
      (some ⟨"u", by decide⟩)).carry h start).2
    let u : User := ⟨⟨"u", by decide⟩, "jane-doe", "Jane Doe", "jane@example.org", "Admin",
      "password-1", true, true, ⟨0, 0⟩, ⟨0, 0⟩⟩
    let c : Accounts.Change := { password := some "" }
    Served t ∧ u ∈ t.users.values ∧ c.SetsNothing ∧ u.validate = [] ∧
      perform (Accounts.update h (fresh ⟨2, 0⟩) "u" c) t = (.ok u, t) := by
  intro h fresh start t u c
  have ht : Served t := .carried h _ (.adminEnsured h _ _ _ _ .empty)
  have hu : u ∈ t.users.values := by decide +kernel
  have hc : c.SetsNothing := by decide
  obtain ⟨hvalid, hupdate⟩ := (stored_stays_as_it_is ht).1 u hu
  exact ⟨ht, hu, hc, hvalid, hupdate h (fresh ⟨2, 0⟩) c hc⟩

end Roster.Enrolment
