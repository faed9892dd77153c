import Roster.Proofs.Accounts.Creating

namespace Roster.Accounts

open Store (Table Tables)

variable {t : Tables} {h : Hasher} {f : Fresh} {r : NewUser} {hash : String}

structure NewUser.Creatable (h : Hasher) (f : Fresh) (hash : String) (t : Tables) (r : NewUser) :
    Prop where
  slug_blank : ∀ s ∈ r.slug, Text.blank s = true
  username : Rule.name r.username = none
  email : Rule.email r.email = none
  fullname : Rule.fullname (r.fullname.getD "") = none
  password : Rule.password r.password = none
  hashed : h.hash r.password = .ok hash
  id_free : t.users.contains f.userId.text = false
  username_free : t.users.lacks User.username r.username = true
  email_free : t.users.lacks User.email r.email = true

theorem NewUser.Creatable.slug?_eq (hr : r.Creatable h f hash t)
    (hbase : Slug.ofText r.username ≠ "") :
    r.slug? f t = f.firstFree? (t.users.lacks User.slug) (Slug.ofText r.username) := by
  have hfree : (fun s ↦ !t.userTaken .slug s none) = t.users.lacks User.slug :=
    Table.not_taken_none
  rw [NewUser.slug?, NewUser.givenSlug, Slug.given_eq_none hr.slug_blank, hfree]
  exact Fresh.slugFor?_of_ne_empty hbase

theorem NewUser.Creatable.errors_eq (hr : r.Creatable h f hash t) (slug : String) :
    r.errors f t slug = ((Rule.slug slug).map fun b ↦ ⟨"slug", b.message⟩).toList := by
  have husername : NewUser.clash f t .username Rule.name r.username = none :=
    (NewUser.clash_eq_none_iff hr.username).mpr (Table.taken_of_lacks hr.username_free _)
  have hemail : NewUser.clash f t .email Rule.email r.email = none :=
    (NewUser.clash_eq_none_iff hr.email).mpr (Table.taken_of_lacks hr.email_free _)
  rw [NewUser.errors, NewUser.findings, NewUser.givenSlug, Slug.given_eq_none hr.slug_blank,
    husername, hemail, Rule.collect_eq, NewUser.checks, hr.username, hr.email, hr.fullname,
    hr.password]
  cases Rule.slug slug <;> rfl

theorem perform_draft_of_creatable (hr : r.Creatable h f hash t)
    (hbase : Rule.slug (Slug.ofText r.username) = none) :
    perform (draft h f r) t =
      ((f.firstFree? (t.users.lacks User.slug) (Slug.ofText r.username)).elim
        (.error (.field "slug" Breach.taken.message)) fun slug ↦
          (Rule.slug slug).elim (.ok (r.user f hash slug)) fun b ↦ .error (.field "slug" b.message),
        t) := by
  rw [perform_draft, hr.slug?_eq (Rule.ne_empty_of_slug hbase)]
  cases f.firstFree? (t.users.lacks User.slug) (Slug.ofText r.username) with
  | none => rfl
  | some slug =>
    rw [Option.elim_some, Option.elim_some, hr.errors_eq, hr.hashed]
    cases Rule.slug slug <;> rfl

theorem create_ends (hr : r.Creatable h f hash t)
    (hbase : Rule.slug (Slug.ofText r.username) = none) :
    f.Ends (t.users.lacks User.slug) (Slug.ofText r.username) t
      (fun slug ↦ (.ok (r.user f hash slug),
        { t with users := t.users.insert f.userId.text (r.user f hash slug) }))
      (perform (create h f r) t) := by
  rw [Fresh.Ends, perform_create, perform_draft_of_creatable hr hbase]
  cases hfirst : f.firstFree? (t.users.lacks User.slug) (Slug.ofText r.username) with
  | none => rfl
  | some slug =>
    dsimp only [Option.elim_some]
    cases Rule.slug slug with
    | some b => rfl
    | none =>
      refine Tables.createUser_eq_ok_iff.mpr ⟨rfl, hr.id_free, fun key ↦ ?_, rfl⟩
      apply Table.taken_of_lacks
      cases key with
      | slug => exact (Fresh.derives_of_firstFree? hfirst).free
      | username => exact hr.username_free
      | email => exact hr.email_free

end Roster.Accounts
