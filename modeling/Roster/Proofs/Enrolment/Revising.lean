import Roster.Proofs.Accounts.Revising
import Roster.Proofs.Circles.Revising

namespace Roster.Enrolment

open Store (Tables)

variable {start t : Tables}

/-- In whatever order the maps are visited, a change of a user or of a circle goes well if and only if
the record that its reference finds can become another one by it. This one takes the place of the one
that was found; all other records and all rows stay. -/
theorem change_replaces_found (ht : start.Reachable) (horder : start.Rearranged t) (f : Fresh)
    (reference : String) :
    (∀ (h : Hasher) (c : Accounts.Change) (v : User) (t' : Tables),
      perform (Accounts.update h f reference c) t = (.ok v, t') ↔
        ∃ u, t.findUser reference = some u ∧ Accounts.Becomes h f t c u v ∧ t.ReplacesUser v t') ∧
    ∀ (k : Kind) (c : Circles.Change) (v : Circle) (t' : Tables),
      perform (Circles.update k f reference c) t = (.ok v, t') ↔
        ∃ u, t.findCircle k reference = some u ∧ Circles.Becomes k f t c u v ∧
          t.ReplacesCircle k v t' := by
  have hintegrity := horder.integrity ht.integrity
  exact ⟨fun _ _ _ _ ↦ Accounts.update_eq_ok_iff hintegrity,
    fun _ _ _ _ ↦ Circles.update_eq_ok_iff hintegrity⟩

theorem change_replaces_found_of_ada :
    let h : Hasher := ⟨.ok, (· == ·)⟩
    let x : Slug.Suffix := ⟨"a1b2c3".toList, by decide, by decide⟩
    let f : Fresh := ⟨⟨1, 0⟩, ⟨"w", by decide⟩, ⟨"d", by decide⟩, [x]⟩
    let u : User := .new ⟨"u", by decide⟩ ⟨0, 0⟩ "ada" "ada@example.org" "password-1"
    let bob : User := .new ⟨"v", by decide⟩ ⟨0, 0⟩ "bob" "bob@example.org" "password-1"
    let g : Circle := .new ⟨"c", by decide⟩ ⟨0, 0⟩ "First"
    let t := Tables.empty.after [.createUser u, .createUser bob, .createCircle .team g none]
    let c : Accounts.Change := { username := some "Bob", slug := some " ", password := some "" }
    let c' : Circles.Change := ⟨some "FIRST", some ""⟩
    let v : User := { u with username := "Bob", slug := "bob-a1b2c3", updatedAt := ⟨1, 0⟩ }
    let d : Circle := { g with name := "FIRST", updatedAt := ⟨1, 0⟩ }
    t.Reachable ∧
      perform (Accounts.update h f "ada" c) t = (.ok v, { t with users := t.users.insert "u" v }) ∧
      perform (Circles.update .team f "first" c') t =
        (.ok d, t.set .team { t.of .team with circles := (t.of .team).circles.insert "c" d }) := by
  intro h x f u bob g t c c' v d
  have ht : t.Reachable := ⟨[.createUser u, .createUser bob, .createCircle .team g none],
    by simp [Store.Call.OwnerFits], rfl⟩
  have hv : Accounts.Becomes h f t c u v := by
    constructor
    case hashed => rfl
    case apart => intro key; cases key <;> decide
    all_goals decide +kernel
  have hd : Circles.Becomes .team f t c' g d := by
    constructor
    case apart => intro key; cases key <;> decide
    all_goals decide +kernel
  obtain ⟨husers, -⟩ := change_replaces_found ht (.refl t) f "ada"
  obtain ⟨-, hcircles⟩ := change_replaces_found ht (.refl t) f "first"
  refine ⟨ht, (husers h c v _).mpr ⟨u, by decide, hv, ?_⟩,
    (hcircles .team c' d _).mpr ⟨g, by decide, hd, ?_⟩⟩
  · exact (Tables.replacesUser_iff (by decide)).mpr rfl
  · exact (Tables.replacesCircle_iff (by decide)).mpr rfl

end Roster.Enrolment
