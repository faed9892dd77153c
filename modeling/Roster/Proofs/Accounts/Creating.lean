import Roster.Proofs.Accounts.Probing
import Roster.Proofs.Store.Runs

namespace Roster.Accounts

open Store (Table Tables)

variable {t t' : Tables} {h : Hasher} {f : Fresh} {r : NewUser} {hash slug : String} {u : User}

def NewUser.user (f : Fresh) (r : NewUser) (hash slug : String) : User where
  id := f.userId
  slug := slug
  username := r.username
  email := r.email
  fullname := r.fullname.getD ""
  passwordHash := hash
  active := r.active
  admin := r.admin
  createdAt := f.now
  updatedAt := f.now

namespace NewUser

def givenSlug (r : NewUser) : Option String :=
  r.slug.filter fun s ↦ !Text.blank s

def slug? (f : Fresh) (t : Tables) (r : NewUser) : Option String :=
  match r.givenSlug with
  | some s => some s
  | none => f.slugFor? (fun s ↦ !t.userTaken .slug s none) (Slug.ofText r.username)

def checks (r : NewUser) (slug : String) : List (String × Option Breach) :=
  [("username", Rule.name r.username), ("slug", Rule.slug slug), ("email", Rule.email r.email),
    ("fullname", Rule.fullname (r.fullname.getD "")), ("password", Rule.password r.password)]

def clash (f : Fresh) (t : Tables) (key : User.Key) (rule : String → Option Breach)
    (value : String) : Option Breach :=
  if (rule value).isNone && t.userTaken key value (some f.userId) then some .taken else none

/-- What is wrong with each field: first the rules, then the values that are taken. -/
def findings (f : Fresh) (t : Tables) (r : NewUser) (slug : String) :
    List (String × Option Breach) :=
  r.checks slug ++ [("username", clash f t .username Rule.name r.username),
    ("email", clash f t .email Rule.email r.email)] ++
    if r.givenSlug.isSome then [("slug", clash f t .slug Rule.slug slug)] else []

def errors (f : Fresh) (t : Tables) (r : NewUser) (slug : String) : FieldErrors :=
  Rule.collect (r.findings f t slug)

structure Acceptable (f : Fresh) (t : Tables) (r : NewUser) (s : String) : Prop where
  username : Rule.name r.username = none
  slug : Rule.slug s = none
  email : Rule.email r.email = none
  fullname : Rule.fullname (r.fullname.getD "") = none
  password : Rule.password r.password = none
  username_free : t.userTaken .username r.username (some f.userId) = false
  email_free : t.userTaken .email r.email (some f.userId) = false
  slug_free : r.givenSlug.isSome = true → t.userTaken .slug s (some f.userId) = false

theorem exists_slug? (hfree : r.givenSlug = none → Slug.ofText r.username ≠ "" →
      ∃ s ∈ Slug.ofText r.username :: f.candidates (Slug.ofText r.username),
        t.userTaken .slug s none = false) :
    ∃ slug, r.slug? f t = some slug := by
  unfold slug?
  cases hgiven : r.givenSlug with
  | some s => exact ⟨s, rfl⟩
  | none =>
    refine Fresh.exists_slugFor? fun hbase ↦ ?_
    obtain ⟨s, hs, hfree⟩ := hfree hgiven hbase
    exact ⟨s, hs, by rw [hfree]; rfl⟩

theorem clash_eq_none_iff {key : User.Key} {rule : String → Option Breach} {value : String}
    (hrule : rule value = none) :
    clash f t key rule value = none ↔ t.userTaken key value (some f.userId) = false := by
  simp [clash, hrule]

theorem errors_eq_nil_iff : r.errors f t slug = [] ↔ r.Acceptable f t slug := by
  have hslug : (∀ c ∈ if r.givenSlug.isSome then [("slug", clash f t .slug Rule.slug slug)] else [],
      c.2 = none) ↔ (r.givenSlug.isSome = true → clash f t .slug Rule.slug slug = none) := by
    split <;> simp [*]
  rw [errors, Rule.collect_eq_nil_iff, findings, List.forall_mem_append, List.forall_mem_append, hslug]
  simp only [checks, List.forall_mem_cons, List.not_mem_nil, false_implies, implies_true, and_true]
  constructor
  · rintro ⟨⟨⟨husername, hslug, hemail, hfullname, hpassword⟩, hname, haddress⟩, hgiven⟩
    exact ⟨husername, hslug, hemail, hfullname, hpassword, (clash_eq_none_iff husername).mp hname,
      (clash_eq_none_iff hemail).mp haddress, fun h ↦ (clash_eq_none_iff hslug).mp (hgiven h)⟩
  · intro hr
    exact ⟨⟨⟨hr.username, hr.slug, hr.email, hr.fullname, hr.password⟩,
      (clash_eq_none_iff hr.username).mpr hr.username_free,
      (clash_eq_none_iff hr.email).mpr hr.email_free⟩,
      fun h ↦ (clash_eq_none_iff hr.slug).mpr (hr.slug_free h)⟩

theorem findings_eq (f : Fresh) (t : Tables) (r : NewUser) (slug : String) :
    r.findings f t slug = r.checks slug ++ Rule.probed User.Key.name
      (fun key ↦ t.userTaken key ((r.user f "" slug).get key) (some f.userId))
      (Rule.collect (r.checks slug)) (probes r.givenSlug.isNone) := by
  have husername : (Rule.collect (r.checks slug)).hasField "username" =
      (Rule.name r.username).isSome := by simp [Rule.hasField_collect, checks]
  have hslug : (Rule.collect (r.checks slug)).hasField "slug" = (Rule.slug slug).isSome := by
    simp [Rule.hasField_collect, checks]
  have hemail : (Rule.collect (r.checks slug)).hasField "email" = (Rule.email r.email).isSome := by
    simp [Rule.hasField_collect, checks]
  rw [findings, List.append_assoc]
  cases r.givenSlug <;>
    simp [probes, Rule.probed, clash, User.get, user, User.Key.name, husername, hslug, hemail]

theorem errors_fields_nodup (f : Fresh) (t : Tables) (r : NewUser) (slug : String) :
    (r.errors f t slug).fields.Nodup := by
  rw [errors, findings_eq, Rule.collect_append]
  refine Rule.fields_probed_nodup User.Key.name_injective (probes_nodup _) ?_
  exact Rule.fields_collect_nodup (by simp [checks])

end NewUser

theorem perform_slugOf (f : Fresh) (t : Tables) (r : NewUser) :
    perform (slugOf f r.givenSlug (Slug.ofText r.username)) t =
      ((r.slug? f t).elim (.error (.field "slug" Breach.taken.message)) .ok, t) := by
  unfold NewUser.slug? slugOf
  cases r.givenSlug with
  | some s => rfl
  | none => exact perform_availableSlug ..

theorem perform_draft (h : Hasher) (f : Fresh) (r : NewUser) (t : Tables) :
    perform (draft h f r) t =
      ((r.slug? f t).elim (.error (.field "slug" Breach.taken.message)) fun slug ↦
        if r.errors f t slug = [] then (h.hash r.password).map (r.user f · slug)
        else .error (.invalid (r.errors f t slug)), t) := by
  unfold draft
  refine (perform_bind_elim (perform_slugOf f t r)).trans ?_
  cases r.slug? f t with
  | none => rfl
  | some slug =>
    have hchecked : perform (checkTaken (r.user f "" slug) (probes r.givenSlug.isNone)
        (Rule.collect (r.checks slug))) t = (.ok (r.errors f t slug), t) := by
      rw [perform_checkTaken _ (probes_nodup _), NewUser.errors, NewUser.findings_eq,
        Rule.collect_append]
      rfl
    refine (perform_bind_ok hchecked).trans ((perform_requireNone _ _ t).trans ?_)
    rw [Option.elim_some]
    split
    · cases h.hash r.password <;> rfl
    · rfl

/-- Whoever is acceptable is apart from all other users, if the slug is the one that is used. -/
theorem NewUser.Acceptable.apart (hr : r.Acceptable f t slug) (hslug : r.slug? f t = some slug)
    (key : User.Key) :
    t.userTaken key ((r.user f hash slug).get key) (some (r.user f hash slug).id) = false := by
  cases key with
  | username => exact hr.username_free
  | email => exact hr.email_free
  | slug =>
    cases hgiven : r.givenSlug with
    | some s => exact hr.slug_free (by rw [hgiven]; rfl)
    | none =>
      simp only [NewUser.slug?, hgiven] at hslug
      have hfree := Fresh.free_of_slugFor? hslug (Rule.ne_empty_of_slug hr.slug)
      rw [Bool.not_eq_true', Tables.userTaken, Table.taken_none, Bool.not_eq_false'] at hfree
      exact Table.taken_of_lacks hfree _

theorem draft_eq_ok_iff : (perform (draft h f r) t).1 = .ok u ↔
    u = r.user f u.passwordHash u.slug ∧ r.slug? f t = some u.slug ∧ r.Acceptable f t u.slug ∧
      h.hash r.password = .ok u.passwordHash := by
  rw [perform_draft, elim_error_eq_ok_iff]
  constructor
  · rintro ⟨slug, hslug, hok⟩
    split at hok
    · next hnil =>
      cases hhash : h.hash r.password with
      | error x =>
        rw [hhash] at hok
        cases hok
      | ok hash =>
        rw [hhash] at hok
        cases hok
        exact ⟨rfl, hslug, NewUser.errors_eq_nil_iff.mp hnil, rfl⟩
    · cases hok
  · rintro ⟨hu, hslug, hr, hhash⟩
    refine ⟨u.slug, hslug, ?_⟩
    rw [if_pos (NewUser.errors_eq_nil_iff.mpr hr), hhash]
    exact congrArg Except.ok hu.symm

theorem apart_of_draft (hu : (perform (draft h f r) t).1 = .ok u) (key : User.Key) :
    t.userTaken key (u.get key) (some u.id) = false := by
  obtain ⟨heq, hslug, hr, -⟩ := draft_eq_ok_iff.mp hu
  rw [heq]
  exact hr.apart hslug key

theorem create_eq_ok_iff : perform (create h f r) t = (.ok u, t') ↔
    (perform (draft h f r) t).1 = .ok u ∧ t.users.contains u.id.text = false ∧
      t' = { t with users := t.users.insert u.id.text u } := by
  rw [perform_create]
  cases hdraft : (perform (draft h f r) t).1 with
  | error x => simp
  | ok v =>
    simp only [Except.ok.injEq, Tables.createUser_eq_ok_iff]
    constructor
    · rintro ⟨rfl, hid, -, ht'⟩
      exact ⟨rfl, hid, ht'⟩
    · rintro ⟨rfl, hid, ht'⟩
      exact ⟨rfl, hid, apart_of_draft hdraft, ht'⟩

/-- Creating a user under an id that nobody has, when hashing goes well and some slug is left, goes well
if and only if nothing is wrong with the request. The user is then put into the store, which has nothing
to object; otherwise everything that is wrong is reported, for each field once, and nothing changes. -/
theorem create_ok_iff_acceptable (hid : t.users.contains f.userId.text = false)
    (hhash : h.hash r.password = .ok hash)
    (hfree : r.givenSlug = none → Slug.ofText r.username ≠ "" →
      ∃ s ∈ Slug.ofText r.username :: f.candidates (Slug.ofText r.username),
        t.userTaken .slug s none = false) :
    ∃ slug, r.slug? f t = some slug ∧
      let outcome := perform (create h f r) t
      let user := r.user f hash slug
      let errors := Rule.collect (r.findings f t slug)
      ((∃ u, outcome.1 = .ok u) ↔ r.Acceptable f t slug) ∧
      (r.Acceptable f t slug → outcome =
        (.ok user, { t with users := ⟨t.users.entries ++ [(f.userId.text, user)]⟩ })) ∧
      (¬ r.Acceptable f t slug → outcome = (.error (.invalid errors), t)) ∧
      errors.fields.Nodup ∧
      ∀ u, (perform (draft h f r) t).1 = .ok u → t.userClash u = none := by
  obtain ⟨slug, hslug⟩ := r.exists_slug? hfree
  have hnodup := NewUser.errors_fields_nodup f t r slug
  have hclash (u : User) (hu : (perform (draft h f r) t).1 = .ok u) : t.userClash u = none :=
    Tables.userClash_eq_none_iff_taken.mpr (apart_of_draft hu)
  refine ⟨slug, hslug, ?_⟩
  by_cases hr : r.Acceptable f t slug
  · have hdraft : (perform (draft h f r) t).1 = .ok (r.user f hash slug) :=
      draft_eq_ok_iff.mpr ⟨rfl, hslug, hr, hhash⟩
    have hinsert : t.users.insert (r.user f hash slug).id.text (r.user f hash slug) =
        ⟨t.users.entries ++ [(f.userId.text, r.user f hash slug)]⟩ := Table.insert_of_absent hid
    have hcreated := create_eq_ok_iff.mpr ⟨hdraft, hid, rfl⟩
    rw [hinsert] at hcreated
    exact ⟨iff_of_true ⟨_, congrArg Prod.fst hcreated⟩ hr, fun _ ↦ hcreated, absurd hr, hnodup,
      hclash⟩
  · have hrefused : perform (create h f r) t = (.error (.invalid (r.errors f t slug)), t) := by
      rw [perform_create, perform_draft, hslug, Option.elim_some,
        if_neg (mt NewUser.errors_eq_nil_iff.mp hr)]
    refine ⟨iff_of_false ?_ hr, fun h ↦ absurd h hr, fun _ ↦ hrefused, hnodup, hclash⟩
    rintro ⟨u, hu⟩
    rw [hrefused] at hu
    cases hu

theorem create_ok_iff_acceptable_of_ada :
    let h : Hasher := ⟨.ok, (· == ·)⟩
    let f : Fresh := ⟨⟨1, 0⟩, ⟨"v", by decide⟩, ⟨"g", by decide⟩, []⟩
    let t := Tables.empty.after [.createUser (.new ⟨"u", by decide⟩ ⟨0, 0⟩ "ada" "ada@example.org" "")]
    let r : NewUser := ⟨"ada", "short", "ada", none, some "Ada", true, false⟩
    let r' : NewUser := ⟨"bob", "password-1", "bob@example.org", none, none, true, false⟩
    (perform (create h f r) t).1 = .error (.invalid
      [⟨"slug", Breach.slug.message⟩, ⟨"email", Breach.email.message⟩,
        ⟨"password", (Breach.shortPassword 8).message⟩, ⟨"username", Breach.taken.message⟩]) ∧
    (perform (create h f r') t).1 = .ok (r'.user f "password-1" "bob") := by
  intro h f t r r'
  have hid : t.users.contains f.userId.text = false := by decide
  obtain ⟨slug, hslug, -, -, hrefused, -⟩ := create_ok_iff_acceptable (h := h) (r := r) hid rfl
    (fun hgiven ↦ absurd hgiven (by decide))
  obtain ⟨slug', hslug', -, hcreated, -⟩ := create_ok_iff_acceptable (h := h) (r := r') hid rfl
    (fun _ _ ↦ ⟨"bob", by decide⟩)
  have hs : r.slug? f t = some "Ada" := by decide
  have hs' : r'.slug? f t = some "bob" := by decide
  obtain rfl := Option.some.inj (hs.symm.trans hslug)
  obtain rfl := Option.some.inj (hs'.symm.trans hslug')
  have hr : ¬ r.Acceptable f t "Ada" := fun hr ↦ absurd hr.slug (by decide)
  have hr' : r'.Acceptable f t "bob" := by
    constructor <;> decide
  rw [hrefused hr, hcreated hr']
  refine ⟨?_, rfl⟩
  decide

end Roster.Accounts
