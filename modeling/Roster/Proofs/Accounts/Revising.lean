import Roster.Proofs.Accounts.Probing
import Roster.Proofs.Accounts.Validity

namespace Roster.Accounts

open Store (Tables)

variable {h : Hasher} {f : Fresh} {c : Change} {t t' : Tables} {u v : User} {slug : String}

namespace Change

def user (f : Fresh) (c : Change) (u : User) (hash slug : String) : User where
  id := u.id
  slug := slug
  username := c.username.getD u.username
  email := c.email.getD u.email
  fullname := c.fullname.getD u.fullname
  passwordHash := hash
  active := c.active.getD u.active
  admin := c.admin.getD u.admin
  createdAt := u.createdAt
  updatedAt := if c.SetsNothing then u.updatedAt else f.now

def slug? (f : Fresh) (t : Tables) (c : Change) (u : User) : Option String :=
  f.slugAfter? (fun s ↦ !t.userTaken .slug s (some u.id)) c.slug (c.username.getD u.username) u.slug

def broken (f : Fresh) (c : Change) (u : User) (slug : String) : FieldErrors :=
  (c.user f u u.passwordHash slug).validate.check "password"
    ((c.password?.bind Rule.password).map Breach.message)

def isTaken (f : Fresh) (t : Tables) (c : Change) (u : User) (slug : String) (key : User.Key) : Bool :=
  t.userTaken key ((c.user f u u.passwordHash slug).get key) (some u.id)

def errors (f : Fresh) (t : Tables) (c : Change) (u : User) (slug : String) : FieldErrors :=
  c.broken f u slug ++ Rule.collect (Rule.probed User.Key.name (c.isTaken f t u slug)
    (c.broken f u slug) (probes (c.slug.any Text.blank)))

theorem setsNothing_iff : c.SetsNothing ↔
    c.username = none ∧ c.slug = none ∧ c.email = none ∧ c.fullname = none ∧ c.password? = none ∧
      c.active = none ∧ c.admin = none := by
  simp only [SetsNothing, Change.mk.injEq]

def unhashed (f : Fresh) (c : Change) (u : User) (slug : String) : User :=
  { withFields f.now c u with
    slug := slug
    updatedAt := if c.slug.isSome then f.now else (withFields f.now c u).updatedAt }

theorem user_eq (f : Fresh) (c : Change) (u : User) (hash slug : String) :
    c.user f u hash slug = { c.unhashed f u slug with
      passwordHash := hash
      updatedAt := if c.password?.isSome then f.now else (c.unhashed f u slug).updatedAt } := by
  -- Every setter writes the time, so it does not matter which of them ran.
  have htime : (if c.SetsNothing then u.updatedAt else f.now) =
      if c.password?.isSome then f.now else (c.unhashed f u slug).updatedAt := by
    rw [unhashed, withFields_eq]
    by_cases hc : c.SetsNothing
    · obtain ⟨husername, hslug, hemail, hfullname, hpassword, hactive, hadmin⟩ :=
        setsNothing_iff.mp hc
      simp [hc, husername, hslug, hemail, hfullname, hpassword, hactive, hadmin]
    · rw [if_neg hc]
      rw [setsNothing_iff] at hc
      split_ifs with hpassword hslug hfields <;> try rfl
      simp_all
  rw [user, htime, unhashed, withFields_eq]

end Change

theorem perform_withSlug (f : Fresh) (c : Change) (u : User) (t : Tables) :
    perform (withSlug f c.slug (withFields f.now c u)) t =
      ((c.slug? f t u).elim (.error (.field "slug" Breach.taken.message)) fun slug ↦
        .ok (c.unhashed f u slug, c.slug.any Text.blank), t) := by
  have hid : (withFields f.now c u).id = u.id := by rw [withFields_eq]
  have hbefore : (withFields f.now c u).slug = u.slug := by rw [withFields_eq]
  have hname : (withFields f.now c u).username = c.username.getD u.username := by rw [withFields_eq]
  have hslug := perform_availableSlug f (Slug.ofText (withFields f.now c u).username)
    (some (withFields f.now c u).id) t
  unfold withSlug Change.slug? Change.unhashed Fresh.slugAfter?
  rw [← hid, ← hbefore, ← hname]
  cases c.slug with
  | none => rfl
  | some s =>
    dsimp only [Option.any_some]
    cases Text.blank s with
    | false => rfl
    | true =>
      rw [if_pos rfl, if_pos rfl]
      refine (perform_bind_elim hslug).trans ?_
      cases f.slugFor? (fun s ↦ !t.userTaken .slug s (some (withFields f.now c u).id))
        (Slug.ofText (withFields f.now c u).username) <;> rfl

theorem perform_withPassword (h : Hasher) (now : Timestamp) (password : Option String) (u : User)
    (t : Tables) : perform (withPassword h now password u) t =
      (password.elim (.ok u) fun p ↦ (h.hash p).map (u.setPasswordHash now), t) := by
  cases password with
  | none => rfl
  | some p =>
    unfold withPassword
    dsimp only [Option.elim_some]
    cases h.hash p <;> rfl

theorem perform_revision (h : Hasher) (f : Fresh) (c : Change) (u : User) (t : Tables) :
    perform (revision h f c u) t =
      ((c.slug? f t u).elim (.error (.field "slug" Breach.taken.message)) fun slug ↦
        if c.errors f t u slug = [] then
          c.password?.elim (.ok (c.user f u u.passwordHash slug)) fun p ↦
            (h.hash p).map (c.user f u · slug)
        else .error (.invalid (c.errors f t u slug)), t) := by
  unfold revision
  refine (perform_bind_elim (perform_withSlug f c u t)).trans ?_
  cases c.slug? f t u with
  | none => rfl
  | some slug =>
    have hbroken : (c.unhashed f u slug).validate.check "password"
        ((c.password?.bind Rule.password).map Breach.message) = c.broken f u slug := by
      rw [Change.broken, Change.user_eq]
      rfl
    have htaken : (fun key ↦ t.userTaken key ((c.unhashed f u slug).get key)
        (some (c.unhashed f u slug).id)) = c.isTaken f t u slug := by
      funext key
      rw [Change.isTaken, Change.user_eq, Change.unhashed, withFields_eq]
      cases key <;> rfl
    have hchecked := perform_checkTaken (c.unhashed f u slug)
      (probes_nodup (c.slug.any Text.blank)) (c.broken f u slug) t
    rw [htaken, ← Change.errors, ← hbroken] at hchecked
    refine (perform_bind_ok hchecked).trans ((perform_requireNone _ _ t).trans ?_)
    rw [Option.elim_some]
    split
    · refine (perform_withPassword h f.now c.password? (c.unhashed f u slug) t).trans ?_
      have hhash : u.passwordHash = (c.unhashed f u slug).passwordHash := by
        rw [Change.unhashed, withFields_eq]
      simp only [Change.user_eq, hhash]
      cases c.password? <;> rfl
    · rfl

theorem Change.broken_eq_nil_iff : c.broken f u slug = [] ↔
    (c.user f u u.passwordHash slug).validate = [] ∧ ∀ p ∈ c.password?, Rule.password p = none := by
  unfold broken
  cases c.password? with
  | none => simp [FieldErrors.check]
  | some p => cases hrule : Rule.password p <;> simp [FieldErrors.check, FieldErrors.add, hrule]

/-- Nothing is wrong with a change if the user is then valid and apart from all others. -/
theorem Change.errors_eq_nil_iff (hslug : c.slug? f t u = some v.slug)
    (hv : v = c.user f u v.passwordHash v.slug) : c.errors f t u v.slug = [] ↔
      v.validate = [] ∧ (∀ p ∈ c.password?, Rule.password p = none) ∧
        ∀ key, t.userTaken key (v.get key) (some v.id) = false := by
  have hvalid : v.validate = (c.user f u u.passwordHash v.slug).validate :=
    (congrArg User.validate hv).trans rfl
  have htaken (key : User.Key) :
      t.userTaken key (v.get key) (some v.id) = c.isTaken f t u v.slug key := by
    rw [isTaken, hv]
    cases key <;> rfl
  simp only [htaken]
  rw [hvalid, errors, List.append_eq_nil_iff, ← and_assoc, ← broken_eq_nil_iff]
  refine and_congr_right fun hbroken ↦ ?_
  rw [hbroken, Rule.collect_probed_eq_nil_iff]
  refine ⟨fun hprobed key ↦ ?_, fun hfree key _ ↦ hfree key⟩
  by_cases hkey : key ∈ probes (c.slug.any Text.blank)
  · exact hprobed key hkey
  · -- A slug that is derived again is not probed, but it was free when it was derived.
    obtain ⟨hderived, rfl⟩ := not_mem_probes.mp hkey
    have hrule := (User.validate_eq_nil_iff.mp (broken_eq_nil_iff.mp hbroken).1).2.1
    have hfree := Fresh.free_of_slugAfter? hslug hderived (Rule.ne_empty_of_slug hrule)
    rwa [Bool.not_eq_true'] at hfree

theorem Change.hashed_eq_ok_iff :
    (c.password?.elim (.ok (c.user f u u.passwordHash slug)) fun p ↦
      (h.hash p).map (c.user f u · slug)) = .ok v ↔
    v = c.user f u v.passwordHash slug ∧
      c.password?.elim (v.passwordHash = u.passwordHash) (h.hash · = .ok v.passwordHash) := by
  cases c.password? with
  | none =>
    constructor
    · rintro ⟨⟩
      exact ⟨rfl, rfl⟩
    · rintro ⟨hv, hhash⟩
      rw [hv, hhash, Option.elim_none]
  | some p =>
    rw [Option.elim_some, Option.elim_some]
    cases h.hash p with
    | error x => simp [Except.map]
    | ok hash =>
      constructor
      · rintro ⟨⟩
        exact ⟨rfl, rfl⟩
      · rintro ⟨hv, hhash⟩
        rw [hv, ← Except.ok.inj hhash]
        rfl

/-- A user becomes another one by a change: what the change names is set, under the slug and with the
hash that it leads to, and the result obeys the rules and is apart from all others. -/
structure Becomes (h : Hasher) (f : Fresh) (t : Tables) (c : Change) (u v : User) : Prop where
  eq : v = c.user f u v.passwordHash v.slug
  slug : c.slug? f t u = some v.slug
  rule : ∀ p ∈ c.password?, Rule.password p = none
  hashed : c.password?.elim (v.passwordHash = u.passwordHash) (h.hash · = .ok v.passwordHash)
  valid : v.validate = []
  apart : ∀ key, t.userTaken key (v.get key) (some v.id) = false

theorem Becomes.id (hv : Becomes h f t c u v) : v.id = u.id :=
  (congrArg User.id hv.eq).trans rfl

theorem revision_eq_ok_iff :
    (perform (revision h f c u) t).1 = .ok v ↔ Becomes h f t c u v := by
  rw [perform_revision, elim_error_eq_ok_iff]
  refine ⟨?_, fun hv ↦ ⟨v.slug, hv.slug, ?_⟩⟩
  · rintro ⟨slug, hslug, hok⟩
    split at hok
    · next hnil =>
      obtain ⟨hv, hhashed⟩ := Change.hashed_eq_ok_iff.mp hok
      obtain rfl : v.slug = slug := congrArg User.slug hv
      obtain ⟨hvalid, hrule, hapart⟩ := (Change.errors_eq_nil_iff hslug hv).mp hnil
      exact ⟨hv, hslug, hrule, hhashed, hvalid, hapart⟩
    · cases hok
  · rw [if_pos ((Change.errors_eq_nil_iff hv.slug hv.eq).mpr ⟨hv.valid, hv.rule, hv.apart⟩)]
    exact Change.hashed_eq_ok_iff.mpr ⟨hv.eq, hv.hashed⟩

/-- A change goes well if and only if the user that is found can become another one by it, and then puts
him in the place of the one that was found. -/
theorem update_eq_ok_iff (ht : t.Integrity) {reference : String} :
    perform (update h f reference c) t = (.ok v, t') ↔
      ∃ u, t.findUser reference = some u ∧ Becomes h f t c u v ∧ t.ReplacesUser v t' := by
  rw [perform_update]
  cases hfind : t.findUser reference with
  | none => simp
  | some u =>
    have hstored := Tables.contains_of_findUser ht.users_sound hfind
    simp only [Option.some.injEq, exists_eq_left']
    constructor
    · intro hok
      cases hw : (perform (revision h f c u) t).1 with
      | error x =>
        rw [hw] at hok
        cases hok
      | ok w =>
        rw [hw] at hok
        obtain ⟨rfl, -, -, hreplaces⟩ := Tables.updateUser_eq_ok_iff.mp hok
        exact ⟨revision_eq_ok_iff.mp hw, hreplaces⟩
    · rintro ⟨hv, hreplaces⟩
      rw [revision_eq_ok_iff.mpr hv]
      refine Tables.updateUser_eq_ok_iff.mpr ⟨rfl, ?_, hv.apart, hreplaces⟩
      rw [hv.id]
      exact hstored

theorem becomes_self (ht : t.Integrity) (hu : u ∈ t.users.values) (hvalid : u.validate = [])
    (h : Hasher) (f : Fresh) (hc : c.SetsNothing) : Becomes h f t c u u := by
  obtain ⟨husername, hslug, hemail, hfullname, hpassword, hactive, hadmin⟩ :=
    Change.setsNothing_iff.mp hc
  refine ⟨?_, ?_, ?_, ?_, hvalid, ht.userTaken_of_stored hu⟩
  · rw [Change.user, if_pos hc, husername, hemail, hfullname, hactive, hadmin]
    rfl
  · rw [Change.slug?, hslug]
    rfl
  · rw [hpassword]
    rintro p ⟨⟩
  · rw [hpassword]
    rfl

theorem perform_update_of_nothing (ht : t.Integrity) (hu : u ∈ t.users.values)
    (hvalid : u.validate = []) (h : Hasher) (f : Fresh) (hc : c.SetsNothing) :
    perform (update h f u.id.text c) t = (.ok u, t) :=
  (update_eq_ok_iff ht).mpr ⟨u, Tables.findUser_of_get? (ht.users_sound.mem_values.mp hu),
    becomes_self ht hu hvalid h f hc, ht.replacesUser_self hu⟩

end Roster.Accounts
