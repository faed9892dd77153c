import Roster.Fresh
import Roster.Proofs.Rule.Lengths
import Roster.Proofs.Store.Performing

namespace Roster

open Store (Table Tables)

def Store.Table.lacks {α : Type} (t : Table α) (field : α → String) (value : String) : Bool :=
  !t.values.any (field · == value)

theorem Store.Table.lacks_iff {α : Type} {t : Table α} {field : α → String} {value : String} :
    t.lacks field value = true ↔ ∀ a ∈ t.values, field a ≠ value := by
  simp [lacks]

variable {α : Type} {f : Fresh} {isFree : String → Bool} {base slug : String}

def Fresh.firstFree? (f : Fresh) (isFree : String → Bool) (base : String) : Option String :=
  (base :: f.candidates base).find? isFree

def Fresh.slugFor? (f : Fresh) (isFree : String → Bool) (base : String) : Option String :=
  if base = "" then some "" else f.firstFree? isFree base

def Fresh.slugAfter? (f : Fresh) (isFree : String → Bool) (asked : Option String)
    (name before : String) : Option String :=
  match asked with
  | none => some before
  | some s => if Text.blank s then f.slugFor? isFree (Slug.ofText name) else some s

structure Fresh.Derives (f : Fresh) (isFree : String → Bool) (base slug : String) : Prop where
  free : isFree slug = true
  own : isFree base = true → slug = base
  suffixed : isFree base = false →
    ∃ x ∈ f.suffixes.take Slug.attempts, slug = Slug.withSuffix base x

/-- How creating a record ends if nothing but its derived slug can break a rule. -/
def Fresh.Ends (f : Fresh) (isFree : String → Bool) (base : String) (t : Tables)
    (created : String → Except Fault α × Tables) (outcome : Except Fault α × Tables) : Prop :=
  outcome = (f.firstFree? isFree base).elim (.error (.field "slug" Breach.taken.message), t)
    fun slug ↦ (Rule.slug slug).elim (created slug) fun b ↦ (.error (.field "slug" b.message), t)

theorem Slug.given_eq_none {given : Option String} (h : ∀ s ∈ given, Text.blank s = true) :
    given.filter (fun s ↦ !Text.blank s) = none := by
  rw [Option.filter_eq_none_iff]
  intro s hs
  simp [h s hs]

theorem Slug.perform_search {search : List String → Errand String} {probe : String → Errand Bool}
    {t : Tables} (hnil : search [] = throw (.field "slug" Breach.taken.message))
    (hcons : ∀ s rest, search (s :: rest) = do if ← probe s then search rest else pure s)
    (hprobe : ∀ s, perform (probe s) t = (.ok !isFree s, t)) (slugs : List String) :
    perform (search slugs) t =
      ((slugs.find? isFree).elim (.error (.field "slug" Breach.taken.message)) .ok, t) := by
  induction slugs with
  | nil =>
    rw [hnil]
    rfl
  | cons s rest ih =>
    rw [hcons, perform_bind_ok (hprobe s), List.find?_cons]
    cases isFree s with
    | true => rfl
    | false => exact ih

namespace Fresh

theorem slugFor?_of_ne_empty (hbase : base ≠ "") :
    f.slugFor? isFree base = f.firstFree? isFree base :=
  if_neg hbase

theorem exists_slugFor? (hfree : base ≠ "" → ∃ s ∈ base :: f.candidates base, isFree s = true) :
    ∃ slug, f.slugFor? isFree base = some slug := by
  rw [slugFor?]
  split
  · exact ⟨"", rfl⟩
  · next hbase => exact Option.isSome_iff_exists.mp (List.find?_isSome.mpr (hfree hbase))

theorem free_of_slugFor? (h : f.slugFor? isFree base = some slug) (hslug : slug ≠ "") :
    isFree slug = true := by
  rw [slugFor?] at h
  split at h
  · exact absurd (Option.some.inj h).symm hslug
  · exact List.find?_some h

theorem free_of_slugAfter? {asked : Option String} {name before : String}
    (h : f.slugAfter? isFree asked name before = some slug) (hasked : asked.any Text.blank = true)
    (hslug : slug ≠ "") : isFree slug = true := by
  cases asked with
  | none => cases hasked
  | some s =>
    have hblank : Text.blank s = true := hasked
    rw [slugAfter?, if_pos hblank] at h
    exact free_of_slugFor? h hslug

theorem derives_of_firstFree? (h : f.firstFree? isFree base = some slug) :
    f.Derives isFree base slug := by
  rw [firstFree?, List.find?_cons] at h
  cases hbase : isFree base with
  | true =>
    rw [hbase] at h
    cases h
    exact ⟨hbase, fun _ ↦ rfl, fun h ↦ absurd (hbase.symm.trans h) Bool.noConfusion⟩
  | false =>
    rw [hbase] at h
    obtain ⟨x, hx, rfl⟩ := List.mem_map.mp (List.mem_of_find?_eq_some h)
    exact ⟨List.find?_some h, fun h ↦ absurd (hbase.symm.trans h) Bool.noConfusion,
      fun _ ↦ ⟨x, hx, rfl⟩⟩

/-- A derived slug obeys the rule for slugs unless a suffix makes it too long. -/
theorem Derives.rule (h : f.Derives isFree base slug) (hbase : Rule.slug base = none) :
    Rule.slug slug = if slug = base ∨ Text.length base + 7 ≤ Rule.maxLength then none
      else some (.length Rule.minLength Rule.maxLength) := by
  cases hfree : isFree base with
  | true =>
    rw [h.own hfree, if_pos (.inl rfl), hbase]
  | false =>
    obtain ⟨x, -, rfl⟩ := h.suffixed hfree
    simp only [Rule.slug_withSuffix hbase, Slug.withSuffix_ne x base, false_or]

/-- If some slug is free, one is derived, and the record gets it or the slug is refused as too long. -/
theorem Ends.exists_derived {t : Tables} {created : String → Except Fault α × Tables}
    {outcome : Except Fault α × Tables} (h : f.Ends isFree base t created outcome)
    (hbase : Rule.slug base = none) (hfree : ∃ s ∈ base :: f.candidates base, isFree s = true) :
    ∃ slug, f.Derives isFree base slug ∧
      (slug = base ∨ Text.length base + 7 ≤ Rule.maxLength →
        Rule.slug slug = none ∧ outcome = created slug) ∧
      (slug ≠ base → Rule.maxLength < Text.length base + 7 → outcome =
        (.error (.field "slug" (Breach.length Rule.minLength Rule.maxLength).message), t)) := by
  obtain ⟨slug, hslug⟩ := Option.isSome_iff_exists.mp (List.find?_isSome.mpr hfree)
  have hderives := derives_of_firstFree? hslug
  have hrule := hderives.rule hbase
  rw [Ends, firstFree?, hslug, Option.elim_some] at h
  refine ⟨slug, hderives, fun hfits ↦ ?_, fun hne hlong ↦ ?_⟩
  · rw [if_pos hfits] at hrule
    rw [hrule] at h
    exact ⟨hrule, h⟩
  · rw [if_neg (not_or.mpr ⟨hne, Nat.not_le.mpr hlong⟩)] at hrule
    rw [hrule] at h
    exact h

end Fresh

end Roster
