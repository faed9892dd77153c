import Roster.Circle
import Roster.Proofs.Encoding.Bytes
import Roster.Proofs.Slug.NormalForm
import Roster.Proofs.Text.Pieces
import Roster.User

namespace Roster

variable {s base : String}

theorem Email.length_le_of_isValid (h : isValid s = true) : Text.length s ≤ 320 := by
  unfold isValid at h
  split at h
  · cases h
  · next name domain hsplit =>
    simp only [Bool.and_eq_true, decide_eq_true_eq] at h
    obtain ⟨c, -, hs, -⟩ := Text.splitLast_eq_some hsplit
    rw [Text.length, hs, List.length_append, List.length_cons]
    omega

theorem Email.isValid_ofList {name domain : List Char} (h : '@' ∉ domain) :
    isValid (String.ofList (name ++ '@' :: domain)) = (decide (name.length ≤ 64) &&
      decide (domain.length ≤ 255) && !name.isEmpty && name.all isLocal && isDomain domain) := by
  have hsplit : Text.splitLast (· == '@') (name ++ '@' :: domain) = some (name, domain) := by
    refine Text.splitLast_append (by decide) name fun c hc ↦ beq_false_of_ne ?_
    rintro rfl
    exact h hc
  rw [isValid, String.toList_ofList, hsplit]

namespace Rule

theorem name_eq_none_iff : name s = none ↔
    Text.blank s = false ∧ minLength ≤ Text.length s ∧ Text.length s ≤ maxLength := by
  unfold name
  cases Text.blank s <;> simp

theorem slug_eq_none_iff : slug s = none ↔
    Slug.isSlug s = true ∧ minLength ≤ Text.length s ∧ Text.length s ≤ maxLength := by
  have hname : slug s = none ↔ name s = none ∧ Slug.isSlug s = true := by
    unfold slug
    cases name s <;> simp
  rw [hname, name_eq_none_iff]
  constructor
  · rintro ⟨⟨-, hlength⟩, hslug⟩
    exact ⟨hslug, hlength⟩
  · rintro ⟨hslug, hlength⟩
    exact ⟨⟨Slug.not_blank_of_isSlug hslug, hlength⟩, hslug⟩

theorem ne_empty_of_slug (h : slug s = none) : s ≠ "" := by
  rintro rfl
  exact absurd h (by decide)

theorem ne_empty_of_password (h : password s = none) : s ≠ "" := by
  rintro rfl
  cases h

theorem password_eq_none_iff : password s = none ↔
    minPassword ≤ s.utf8ByteSize ∧ s.utf8ByteSize ≤ maxPassword := by
  unfold password
  split
  · next hempty =>
    rw [String.isEmpty_iff.mp hempty]
    decide
  · split
    · next hshort => simp [hshort]
    · next hleast =>
      split
      · next hlong => simp [hlong]
      · next hmost => simp [Nat.not_lt.mp hleast, Nat.not_lt.mp hmost]

theorem fullname_eq_none_iff : fullname s = none ↔ Text.length s ≤ maxLength := by
  simp [fullname]

theorem length_le_of_email (h : email s = none) : Text.length s ≤ 320 := by
  apply Email.length_le_of_isValid
  unfold email at h
  by_contra hs
  rw [if_neg hs] at h
  split at h <;> cases h

theorem collect_eq (checks : List (String × Option Breach)) :
    collect checks = checks.filterMap fun c ↦ c.2.map fun b ↦ ⟨c.1, b.message⟩ := by
  have hfold (errors : FieldErrors) :
      checks.foldl (fun errors c ↦ errors.check c.1 (c.2.map Breach.message)) errors =
        errors ++ checks.filterMap fun c ↦ c.2.map fun b ↦ ⟨c.1, b.message⟩ := by
    induction checks generalizing errors with
    | nil => simp
    | cons c rest ih =>
      rw [List.foldl_cons, ih, List.filterMap_cons]
      cases c.2 <;> simp [FieldErrors.check, FieldErrors.add]
  exact hfold []

theorem collect_eq_nil_iff {checks : List (String × Option Breach)} :
    collect checks = [] ↔ ∀ c ∈ checks, c.2 = none := by
  simp [collect_eq, List.filterMap_eq_nil_iff]

/-- A suffix keeps a slug a slug, and breaks its rule only by the length that it adds. -/
theorem slug_withSuffix (h : slug base = none) (x : Slug.Suffix) :
    slug (Slug.withSuffix base x) =
      if Text.length base + 7 ≤ maxLength then none else some (.length minLength maxLength) := by
  obtain ⟨hslug, hleast, -⟩ := slug_eq_none_iff.mp h
  have hslug' := Slug.isSlug_withSuffix x hslug
  have hleast' : minLength ≤ Text.length base + 7 := Nat.le_add_right_of_le hleast
  rw [slug, name, Slug.not_blank_of_isSlug hslug', hslug', Slug.length_withSuffix]
  by_cases hfits : Text.length base + 7 ≤ maxLength <;> simp [hfits, hleast']

end Rule

theorem User.validate_eq_nil_iff {u : User} : u.validate = [] ↔
    Rule.name u.username = none ∧ Rule.slug u.slug = none ∧ Rule.email u.email = none ∧
      Rule.fullname u.fullname = none := by
  simp [validate, Rule.collect_eq_nil_iff]

theorem Circle.validate_eq_nil_iff {c : Circle} : c.validate = [] ↔
    Rule.slug c.slug = none ∧ Rule.name c.name = none := by
  simp [validate, Rule.collect_eq_nil_iff]

end Roster
