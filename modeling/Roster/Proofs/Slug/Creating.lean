import Roster.Proofs.Accounts.Deriving
import Roster.Proofs.Circles.Deriving

namespace Roster.Slug

open Store (Tables)

/-- A record that is valid and free but for its slug gets the slug of its name, or a suffixed one if
that is taken. Creating it fails only if the suffix makes the slug longer than its rule allows. -/
theorem derived_unless_too_long (f : Fresh) (t : Tables) :
    (∀ (h : Hasher) (hash : String) (r : Accounts.NewUser), r.Creatable h f hash t →
      let base := ofText r.username
      let isFree := t.users.lacks User.slug
      let outcome := perform (Accounts.create h f r) t
      Rule.slug base = none → (∃ s ∈ base :: f.candidates base, isFree s = true) →
        ∃ slug, f.Derives isFree base slug ∧
          (slug = base ∨ Text.length base + 7 ≤ Rule.maxLength →
            Rule.slug slug = none ∧ outcome = (.ok (r.user f hash slug),
              { t with users := t.users.insert f.userId.text (r.user f hash slug) })) ∧
          (slug ≠ base → Rule.maxLength < Text.length base + 7 → outcome =
            (.error (.field "slug" (Breach.length Rule.minLength Rule.maxLength).message), t))) ∧
    ∀ (k : Kind) (owner : Option UserId) (r : Circles.NewCircle), r.Creatable k f owner t →
      let base := ofText r.name
      let isFree := (t.of k).circles.lacks Circle.slug
      let outcome := perform (Circles.create k f r owner) t
      Rule.slug base = none → (∃ s ∈ base :: f.candidates base, isFree s = true) →
        ∃ slug, f.Derives isFree base slug ∧
          (slug = base ∨ Text.length base + 7 ≤ Rule.maxLength →
            Rule.slug slug = none ∧ outcome = (.ok (r.circle f slug), t.set k
              ⟨(t.of k).circles.insert f.circleId.text (r.circle f slug), (t.of k).memberships ++
                (owner.map fun u ↦ Membership.new u f.circleId .owner f.now).toList⟩)) ∧
          (slug ≠ base → Rule.maxLength < Text.length base + 7 → outcome =
            (.error (.field "slug" (Breach.length Rule.minLength Rule.maxLength).message), t)) := by
  constructor
  · intro h hash r hr base isFree outcome hbase hfree
    exact (Accounts.create_ends hr hbase).exists_derived hbase hfree
  · intro k owner r hr base isFree outcome hbase hfree
    exact (Circles.create_ends hr hbase).exists_derived hbase hfree

theorem derived_unless_too_long_of_taken :
    let h : Hasher := ⟨.ok, (· == ·)⟩
    let x : Suffix := ⟨"a1b2c3".toList, by decide, by decide⟩
    let f : Fresh := ⟨⟨1, 0⟩, ⟨"v", by decide⟩, ⟨"g", by decide⟩, .replicate attempts x⟩
    let u : User := .new ⟨"u", by decide⟩ ⟨0, 0⟩ "ada" "ada@example.org" ""
    let c : Circle := .new ⟨"c", by decide⟩ ⟨0, 0⟩ "Ada"
    let t := Tables.empty.after [.createUser u, .createCircle .group c none]
    let r : Accounts.NewUser := ⟨"Ada", "password-1", "a@example.org", none, some " ", true, false⟩
    let r' : Circles.NewCircle := ⟨"Ada!", none⟩
    r.Creatable h f "password-1" t ∧ r'.Creatable .group f (some u.id) t ∧
      (perform (Accounts.create h f r) t).1 = .ok (r.user f "password-1" "ada-a1b2c3") ∧
      (perform (Circles.create .group f r' (some u.id)) t).1 = .ok (r'.circle f "ada-a1b2c3") := by
  intro h x f u c t r r'
  have hr : r.Creatable h f "password-1" t := by
    refine ⟨?_, ?_, ?_, ?_, ?_, ?_, ?_, ?_, ?_⟩ <;> decide
  have hr' : r'.Creatable .group f (some u.id) t := by
    refine ⟨?_, ?_, ?_, ?_, ?_⟩ <;> decide
  obtain ⟨husers, hcircles⟩ := derived_unless_too_long f t
  obtain ⟨slug, hslug, huser, -⟩ := husers h "password-1" r hr (by decide +kernel)
    ⟨"ada-a1b2c3", by decide⟩
  obtain ⟨slug', hslug', hcircle, -⟩ := hcircles .group (some u.id) r' hr' (by decide +kernel)
    ⟨"ada-a1b2c3", by decide⟩
  obtain ⟨y, hy, rfl⟩ := hslug.suffixed (by decide +kernel)
  obtain ⟨y', hy', rfl⟩ := hslug'.suffixed (by decide +kernel)
  have hsuffixed : withSuffix (ofText "Ada") x = "ada-a1b2c3" := by decide
  have hsuffixed' : withSuffix (ofText "Ada!") x = "ada-a1b2c3" := by decide
  have hcreated := (huser (.inr (by decide))).2
  have hcreated' := (hcircle (.inr (by decide))).2
  rw [List.eq_of_mem_replicate (List.mem_of_mem_take hy), hsuffixed] at hcreated
  rw [List.eq_of_mem_replicate (List.mem_of_mem_take hy'), hsuffixed'] at hcreated'
  exact ⟨hr, hr', congrArg Prod.fst hcreated, congrArg Prod.fst hcreated'⟩

theorem suffix_exceeds_length :
    let name := String.ofList (List.replicate 249 'a')
    let x : Suffix := ⟨"a1b2c3".toList, by decide, by decide⟩
    let f : Fresh := ⟨⟨1, 0⟩, ⟨"u", by decide⟩, ⟨"g", by decide⟩, .replicate attempts x⟩
    let c : Circle := { Circle.new ⟨"c", by decide⟩ ⟨0, 0⟩ "First" with slug := name }
    let t := Tables.empty.after [.createCircle .group c none]
    let r : Circles.NewCircle := ⟨name, none⟩
    t.Reachable ∧ r.Creatable .group f none t ∧ Rule.slug (ofText name) = none ∧
      (t.of .group).circles.lacks Circle.slug (withSuffix (ofText name) x) = true ∧
      (perform (Circles.create .group f r none) t).1 =
        .error (.field "slug" "the length must be between 3 and 255") := by
  intro name x f c t r
  have hslug : isSlug name = true := by
    rw [isSlug_iff, String.toList_ofList]
    refine .of_word (by decide) fun c hc ↦ ?_
    rw [List.eq_of_mem_replicate hc]
    decide
  have hlength : Text.length name = 249 := by
    rw [Text.length, String.toList_ofList, List.length_replicate]
  have hbounds : Rule.minLength ≤ Text.length name ∧ Text.length name ≤ Rule.maxLength := by
    rw [hlength]
    decide
  have hself : ofText name = name := eq_of_beq (Bool.and_eq_true_iff.mp hslug).2
  have hrule : Rule.slug (ofText name) = none := by
    rw [hself]
    exact Rule.slug_eq_none_iff.mpr ⟨hslug, hbounds⟩
  have hr : r.Creatable .group f none t := by
    refine ⟨?_, ?_, rfl, ?_, ?_⟩
    · rintro s ⟨⟩
    · exact Rule.name_eq_none_iff.mpr ⟨not_blank_of_isSlug hslug, hbounds⟩
    · refine Store.Table.lacks_iff.mpr fun v hv hname ↦ ?_
      rw [List.mem_singleton.mp hv] at hname
      exact absurd ((congrArg Text.length hname).trans hlength) (by decide)
    · rintro u ⟨⟩
  have hfree : (t.of .group).circles.lacks Circle.slug (withSuffix (ofText name) x) = true := by
    refine Store.Table.lacks_iff.mpr fun v hv hsame ↦ ?_
    rw [List.mem_singleton.mp hv, hself] at hsame
    exact withSuffix_ne x name hsame.symm
  obtain ⟨slug, hderives, -, hlong⟩ := (Circles.create_ends hr hrule).exists_derived hrule
    ⟨_, List.mem_cons_of_mem _ List.mem_cons_self, hfree⟩
  have hne : slug ≠ ofText name := by
    rintro rfl
    exact Store.Table.lacks_iff.mp hderives.free c List.mem_cons_self hself.symm
  have hrefused := hlong hne (by rw [show ofText r.name = name from hself, hlength]; decide)
  exact ⟨⟨[.createCircle .group c none], by simp [Store.Call.OwnerFits], rfl⟩, hr, hrule, hfree,
    congrArg Prod.fst hrefused⟩

end Roster.Slug
