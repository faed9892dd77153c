import Roster.Proofs.Circles.Probing
import Roster.Proofs.Circles.Validity

namespace Roster.Circles

open Store (Tables)

variable {k : Kind} {f : Fresh} {c : Change} {t t' : Tables} {u v : Circle}

namespace Change

def circle (f : Fresh) (c : Change) (u : Circle) (slug : String) : Circle where
  id := u.id
  slug := slug
  name := c.name.getD u.name
  createdAt := u.createdAt
  updatedAt := if c = ⟨none, none⟩ then u.updatedAt else f.now

def slug? (k : Kind) (f : Fresh) (t : Tables) (c : Change) (u : Circle) : Option String :=
  f.slugAfter? (fun s ↦ !t.circleTaken k .slug s (some u.id)) c.slug (c.name.getD u.name) u.slug

def isTaken (k : Kind) (f : Fresh) (t : Tables) (c : Change) (u : Circle) (slug : String)
    (key : Circle.Key) : Bool :=
  t.circleTaken k key ((c.circle f u slug).get key) (some u.id)

def errors (k : Kind) (f : Fresh) (t : Tables) (c : Change) (u : Circle) (slug : String) :
    FieldErrors :=
  (c.circle f u slug).validate ++ Rule.collect (Rule.probed Circle.Key.text
    (c.isTaken k f t u slug) (c.circle f u slug).validate (probes (c.slug.any Text.blank)))

/-- Nothing is wrong with a change if the circle is then valid and apart from all others. -/
theorem errors_eq_nil_iff (hslug : c.slug? k f t u = some v.slug) (hv : v = c.circle f u v.slug) :
    c.errors k f t u v.slug = [] ↔
      v.validate = [] ∧ ∀ key, t.circleTaken k key (v.get key) (some v.id) = false := by
  have htaken (key : Circle.Key) :
      t.circleTaken k key (v.get key) (some v.id) = c.isTaken k f t u v.slug key := by
    rw [isTaken, ← hv, hv]
    rfl
  simp only [htaken]
  rw [errors, ← hv, List.append_eq_nil_iff]
  refine and_congr_right fun hvalid ↦ ?_
  rw [hvalid, Rule.collect_probed_eq_nil_iff]
  refine ⟨fun hprobed key ↦ ?_, fun hfree key _ ↦ hfree key⟩
  by_cases hkey : key ∈ probes (c.slug.any Text.blank)
  · exact hprobed key hkey
  · -- A slug that is derived again is not probed, but it was free when it was derived.
    obtain ⟨hderived, rfl⟩ := not_mem_probes.mp hkey
    have hrule := (Circle.validate_eq_nil_iff.mp hvalid).1
    have hfree := Fresh.free_of_slugAfter? hslug hderived (Rule.ne_empty_of_slug hrule)
    rwa [Bool.not_eq_true'] at hfree

end Change

theorem perform_withSlug (k : Kind) (f : Fresh) (c : Change) (u : Circle) (t : Tables) :
    perform (withSlug k f c.slug (c.name.elim u (u.setName f.now))) t =
      ((c.slug? k f t u).elim (.error (.field "slug" Breach.taken.message)) fun slug ↦
        .ok (c.circle f u slug, c.slug.any Text.blank), t) := by
  obtain ⟨name, slug⟩ := c
  have hslug := perform_availableSlug k f (Slug.ofText (name.getD u.name)) (some u.id) t
  have hnamed : name.elim u (u.setName f.now) = { u with
      name := name.getD u.name
      updatedAt := if name.isSome then f.now else u.updatedAt } := by cases name <;> rfl
  unfold withSlug Change.slug? Fresh.slugAfter?
  dsimp only
  rw [hnamed]
  cases slug with
  | none => cases name <;> rfl
  | some s =>
    have hcircle (slug : String) : (⟨name, some s⟩ : Change).circle f u slug =
        { u with slug := slug, name := name.getD u.name, updatedAt := f.now } := by
      rw [Change.circle, if_neg (by simp)]
    simp only [hcircle, Option.any_some]
    cases Text.blank s with
    | false => rfl
    | true =>
      rw [if_pos rfl, if_pos rfl]
      refine (perform_bind_elim hslug).trans ?_
      cases f.slugFor? (fun s ↦ !t.circleTaken k .slug s (some u.id))
        (Slug.ofText (name.getD u.name)) <;> rfl

theorem perform_revision (k : Kind) (f : Fresh) (c : Change) (u : Circle) (t : Tables) :
    perform (revision k f c u) t =
      ((c.slug? k f t u).elim (.error (.field "slug" Breach.taken.message)) fun slug ↦
        if c.errors k f t u slug = [] then .ok (c.circle f u slug)
        else .error (.invalid (c.errors k f t u slug)), t) := by
  unfold revision
  refine (perform_bind_elim (perform_withSlug k f c u t)).trans ?_
  cases c.slug? k f t u with
  | none => rfl
  | some slug =>
    have hchecked : perform (checkTaken k (c.circle f u slug) (probes (c.slug.any Text.blank))
        (c.circle f u slug).validate) t = (.ok (c.errors k f t u slug), t) :=
      perform_checkTaken k _ (probes_nodup _) _ t
    refine (perform_bind_ok hchecked).trans ((perform_requireNone _ _ t).trans ?_)
    rw [Option.elim_some]
    split <;> rfl

structure Becomes (k : Kind) (f : Fresh) (t : Tables) (c : Change) (u v : Circle) : Prop where
  eq : v = c.circle f u v.slug
  slug : c.slug? k f t u = some v.slug
  valid : v.validate = []
  apart : ∀ key, t.circleTaken k key (v.get key) (some v.id) = false

theorem Becomes.id (hv : Becomes k f t c u v) : v.id = u.id :=
  (congrArg Circle.id hv.eq).trans rfl

theorem revision_eq_ok_iff :
    (perform (revision k f c u) t).1 = .ok v ↔ Becomes k f t c u v := by
  rw [perform_revision, elim_error_eq_ok_iff]
  refine ⟨?_, fun hv ↦ ⟨v.slug, hv.slug, ?_⟩⟩
  · rintro ⟨slug, hslug, hok⟩
    split at hok
    · next hnil =>
      have hv := (Except.ok.inj hok).symm
      obtain rfl : v.slug = slug := congrArg Circle.slug hv
      obtain ⟨hvalid, hapart⟩ := (Change.errors_eq_nil_iff hslug hv).mp hnil
      exact ⟨hv, hslug, hvalid, hapart⟩
    · cases hok
  · rw [if_pos ((Change.errors_eq_nil_iff hv.slug hv.eq).mpr ⟨hv.valid, hv.apart⟩), ← hv.eq]

/-- A change goes well if and only if the circle that is found can become another one by it, and then
puts it in the place of the one that was found. -/
theorem update_eq_ok_iff (ht : t.Integrity) {reference : String} :
    perform (update k f reference c) t = (.ok v, t') ↔
      ∃ u, t.findCircle k reference = some u ∧ Becomes k f t c u v ∧ t.ReplacesCircle k v t' := by
  rw [perform_update]
  cases hfind : t.findCircle k reference with
  | none => simp
  | some u =>
    have hstored := Tables.contains_of_findCircle (ht.kinds_sound k).circles_sound hfind
    simp only [Option.some.injEq, exists_eq_left']
    constructor
    · intro hok
      cases hw : (perform (revision k f c u) t).1 with
      | error x =>
        rw [hw] at hok
        cases hok
      | ok w =>
        rw [hw] at hok
        obtain ⟨rfl, -, -, hreplaces⟩ := Tables.updateCircle_eq_ok_iff.mp hok
        exact ⟨revision_eq_ok_iff.mp hw, hreplaces⟩
    · rintro ⟨hv, hreplaces⟩
      rw [revision_eq_ok_iff.mpr hv]
      refine Tables.updateCircle_eq_ok_iff.mpr ⟨rfl, ?_, hv.apart, hreplaces⟩
      rw [hv.id]
      exact hstored

/-- Nothing changes if a reference finds a circle and nothing about it is to be changed. -/
theorem perform_update_of_nothing (ht : t.Integrity) {reference : String}
    (hfind : t.findCircle k reference = some u) (hvalid : u.validate = []) (f : Fresh) :
    perform (update k f reference ⟨none, none⟩) t = (.ok u, t) := by
  have hu : u ∈ (t.of k).circles.values := List.mem_of_find?_eq_some hfind
  exact (update_eq_ok_iff ht).mpr
    ⟨u, hfind, ⟨rfl, rfl, hvalid, ht.circleTaken_of_stored hu⟩, ht.replacesCircle_self hu⟩

end Roster.Circles
