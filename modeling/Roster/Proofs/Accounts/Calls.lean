import Roster.Accounts
import Roster.Proofs.Store.LastWrite

namespace Roster.Accounts

open Store (Call Tables)

def SlugFits (f : Fresh) (asked : Option String) (name before after : String) : Prop :=
  match asked with
  | none => after = before
  | some s =>
    if Text.blank s then after ∈ Slug.ofText name :: f.candidates (Slug.ofText name) else after = s

/-- The password that a change sets; the empty one is no change. -/
def Change.password? (c : Change) : Option String :=
  c.password.filter fun p ↦ !p.isEmpty

structure Applies (h : Hasher) (f : Fresh) (c : Change) (u v : User) : Prop where
  id : v.id = u.id
  createdAt : v.createdAt = u.createdAt
  username : v.username = c.username.getD u.username
  slug : SlugFits f c.slug v.username u.slug v.slug
  email : v.email = c.email.getD u.email
  fullname : v.fullname = c.fullname.getD u.fullname
  password : c.password?.elim (v.passwordHash = u.passwordHash) (h.hash · = .ok v.passwordHash)
  active : v.active = c.active.getD u.active
  admin : v.admin = c.admin.getD u.admin

structure Revises (c : Change) (u v : User) : Prop where
  id : v.id = u.id
  createdAt : v.createdAt = u.createdAt
  slug : c.slug = none → v.slug = u.slug
  active : c.active = none → v.active = u.active
  admin : c.admin = none → v.admin = u.admin

theorem Applies.revises {h : Hasher} {f : Fresh} {c : Change} {u v : User}
    (hv : Applies h f c u v) : Revises c u v where
  id := hv.id
  createdAt := hv.createdAt
  slug hc := by
    have hslug := hv.slug
    rwa [hc] at hslug
  active hc := by rw [hv.active, hc, Option.getD_none]
  admin hc := by rw [hv.admin, hc, Option.getD_none]

theorem withFields_eq (now : Timestamp) (c : Change) (u : User) :
    withFields now c u = { u with
      username := c.username.getD u.username
      email := c.email.getD u.email
      fullname := c.fullname.getD u.fullname
      active := c.active.getD u.active
      admin := c.admin.getD u.admin
      updatedAt := if c.username.isSome || c.email.isSome || c.fullname.isSome || c.active.isSome ||
        c.admin.isSome then now else u.updatedAt } := by
  obtain ⟨username, slug, email, fullname, password, active, admin⟩ := c
  cases username <;> cases email <;> cases fullname <;> cases active <;> cases admin <;> rfl

theorem get_puts {P : Call → Prop} {id : UserId} (h : P (.getUser id)) : Puts P (get id) :=
  .bind (.ask h) fun _ _ ↦ .orFail _ _

theorem find_reads (reference : String) : Puts Reads (find reference) :=
  .bind (.ask rfl) fun _ _ ↦ .orFail _ _

theorem authenticate_puts {P : Call → Prop} (h : Hasher) {username : String} (password : String)
    (hP : P (.userNamed username)) : Puts P (authenticate h username password) := by
  refine .bind (.ask hP) fun found _ ↦ .bind (.orFail _ _) fun user _ ↦ ?_
  split
  · exact .pure trivial
  · exact .throw _

theorem firstFree_probes (except : Option UserId) (slugs : List String) :
    Puts Probes (firstFree except slugs) (· ∈ slugs) := by
  induction slugs with
  | nil => exact .throw _
  | cons s rest ih =>
    refine .bind (.ask rfl) fun isTaken _ ↦ ?_
    split
    · exact ih.mono (fun _ ↦ id) fun _ ↦ List.mem_cons_of_mem s
    · exact .pure List.mem_cons_self

theorem availableSlug_probes (f : Fresh) (base : String) (except : Option UserId) :
    Puts Probes (availableSlug f base except) (· ∈ base :: f.candidates base) := by
  unfold availableSlug
  split
  · exact .pure List.mem_cons_self
  · exact firstFree_probes _ _

theorem checkTaken_probes (u : User) (keys : List User.Key) (errors : FieldErrors) :
    Puts Probes (checkTaken u keys errors) := by
  induction keys generalizing errors with
  | nil => exact .pure trivial
  | cons key rest ih =>
    unfold checkTaken
    split
    · exact ih errors
    · refine .bind (.ask rfl) fun isTaken _ ↦ ?_
      split
      · exact ih _
      · exact ih _

theorem slugOf_probes (f : Fresh) (given : Option String) (base : String) :
    Puts Probes (slugOf f given base) := by
  cases given with
  | none => exact (availableSlug_probes _ _ _).mono (fun _ ↦ id) fun _ _ ↦ trivial
  | some s => exact .pure trivial

theorem withSlug_probes (f : Fresh) (slug : Option String) (u : User) :
    Puts Probes (withSlug f slug u) fun p ↦ ∃ s now,
      p.1 = { u with slug := s, updatedAt := now } ∧ SlugFits f slug u.username u.slug s := by
  cases slug with
  | none => exact .pure ⟨u.slug, u.updatedAt, rfl, rfl⟩
  | some s =>
    unfold withSlug SlugFits
    dsimp only
    split
    · exact .bind (availableSlug_probes _ _ _) fun slug hslug ↦ .pure ⟨slug, f.now, rfl, hslug⟩
    · exact .pure ⟨s, f.now, rfl, rfl⟩

theorem withPassword_probes (h : Hasher) (now : Timestamp) (password : Option String) (u : User) :
    Puts Probes (withPassword h now password u) fun v ↦ ∃ hash now,
      v = { u with passwordHash := hash, updatedAt := now } ∧
        password.elim (hash = u.passwordHash) (h.hash · = .ok hash) := by
  cases password with
  | none => exact .pure ⟨u.passwordHash, u.updatedAt, rfl, rfl⟩
  | some p =>
    refine .bind (Q := fun hash ↦ h.hash p = .ok hash) ?_ fun hash hhash ↦
      .pure ⟨hash, now, rfl, hhash⟩
    cases hp : h.hash p with
    | error x => exact .throw x
    | ok hash => exact .pure rfl

theorem draft_probes (h : Hasher) (f : Fresh) (r : NewUser) :
    Puts Probes (draft h f r) (·.id = f.userId) := by
  refine .bind (slugOf_probes _ _ _) fun slug _ ↦ .bind (checkTaken_probes _ _ _) fun errors _ ↦ ?_
  exact .bind (.requireNone _) fun _ _ ↦ .bind (.ofExcept _) fun hash _ ↦ .pure rfl

theorem revision_applies (h : Hasher) (f : Fresh) (c : Change) (u : User) :
    Puts Probes (revision h f c u) (Applies h f c u) := by
  refine .bind (withSlug_probes f c.slug (withFields f.now c u)) fun ⟨v, isDerived⟩ hv ↦ ?_
  refine .bind (checkTaken_probes _ _ _) fun errors _ ↦ .bind (.requireNone _) fun _ _ ↦ ?_
  refine (withPassword_probes h f.now _ v).mono (fun _ ↦ id) fun w hw ↦ ?_
  obtain ⟨slug, now, rfl, hslug⟩ := hv
  obtain ⟨hash, now, rfl, hhash⟩ := hw
  rw [withFields_eq] at hslug hhash
  rw [withFields_eq]
  exact ⟨rfl, rfl, rfl, hslug, rfl, rfl, hhash, rfl, rfl⟩

theorem draft_reads (h : Hasher) (f : Fresh) (r : NewUser) :
    Puts Reads (draft h f r) (·.id = f.userId) :=
  (draft_probes h f r).reads

theorem revision_reads (h : Hasher) (f : Fresh) (c : Change) (u : User) :
    Puts Reads (revision h f c u) (Revises c u) :=
  (revision_applies h f c u).reads.mono (fun _ ↦ id) fun _ ↦ Applies.revises

theorem perform_get (id : UserId) (t : Tables) :
    perform (get id) t = ((t.users.get? id.text).elim (.error (.userNotFound id.text)) .ok, t) :=
  perform_orFail _ _ _

/-- Unknown names, wrong passwords and inactive accounts lead to one fault. -/
theorem perform_authenticate (h : Hasher) (username password : String) (t : Tables) :
    perform (authenticate h username password) t =
      (((t.users.values.find? (·.username == username)).filter fun u ↦
        h.verify password u.passwordHash && u.active).elim
          (.error (.unauthorized "Wrong username or password")) .ok, t) := by
  have hask : perform (Errand.ask (.userNamed username)) t =
      (.ok (t.users.values.find? (·.username == username)), t) := rfl
  rw [authenticate, perform_bind_ok hask]
  cases t.users.values.find? (·.username == username) with
  | none => rw [perform_bind_error (perform_orFail _ none t)]; rfl
  | some v =>
    rw [perform_bind_ok (perform_orFail _ (some v) t), Option.filter_some]
    split <;> rfl

/-- Whoever is authenticated is stored under the name, has the password and is active. -/
theorem perform_authenticate_ok {h : Hasher} {username password : String} {t : Tables} {u : User}
    (hu : (perform (authenticate h username password) t).1 = .ok u) :
    t.users.values.find? (·.username == username) = some u ∧
      h.verify password u.passwordHash = true ∧ u.active = true := by
  rw [perform_authenticate] at hu
  cases hfind : (t.users.values.find? (·.username == username)).filter fun u ↦
      h.verify password u.passwordHash && u.active with
  | none =>
    rw [hfind] at hu
    cases hu
  | some v =>
    rw [hfind] at hu
    cases hu
    obtain ⟨hstored, hchecked⟩ := Option.filter_eq_some_iff.mp hfind
    exact ⟨hstored, Bool.and_eq_true_iff.mp hchecked⟩

theorem perform_find (reference : String) (t : Tables) :
    perform (find reference) t =
      ((t.findUser reference).elim (.error (.userNotFound reference)) .ok, t) :=
  perform_orFail _ _ _

theorem perform_create (h : Hasher) (f : Fresh) (r : NewUser) (t : Tables) :
    perform (create h f r) t = match (perform (draft h f r) t).1 with
      | .ok u => t.createUser u
      | .error x => (.error x, t) := by
  rw [create, (draft_reads h f r).perform_then]
  cases (perform (draft h f r) t).1 <;> rfl

theorem perform_update (h : Hasher) (f : Fresh) (reference : String) (c : Change) (t : Tables) :
    perform (update h f reference c) t = match t.findUser reference with
      | none => (.error (.userNotFound reference), t)
      | some u => match (perform (revision h f c u) t).1 with
        | .ok v => t.updateUser v
        | .error x => (.error x, t) := by
  rw [update, (find_reads reference).perform_then, perform_find]
  cases t.findUser reference with
  | none => rfl
  | some u =>
    dsimp only
    refine ((revision_reads h f c u).perform_then _ t).trans ?_
    cases (perform (revision h f c u) t).1 <;> rfl

/-- Deleting succeeds whenever the record that is found stands under its id. -/
theorem perform_delete (reference : String) {t : Tables} (ht : t.users.Sound (·.id.text) User.get) :
    perform (delete reference) t = match t.findUser reference with
      | none => (.error (.userNotFound reference), t)
      | some u => (.ok (), (t.deleteUser u.id).2) := by
  rw [delete, (find_reads reference).perform_then, perform_find]
  cases h : t.findUser reference with
  | none => rfl
  | some u =>
    have hdelete : perform (Errand.ask (.deleteUser u.id)) t =
        (.ok true, (t.deleteUser u.id).2) := by
      rw [perform_ask, Tables.answer, ← Tables.contains_of_findUser ht h]
      rfl
    exact perform_bind_ok hdelete

theorem create_writesLast (h : Hasher) (f : Fresh) (r : NewUser) :
    WritesLast (Call.CreatesFresh f) (·.isOk = true) (create h f r).run :=
  .bind (draft_reads h f r).looks fun _ hid ↦ .ask hid

theorem update_writesLast (h : Hasher) (f : Fresh) (reference : String) (c : Change) :
    WritesLast (Call.CreatesFresh f) (·.isOk = true) (update h f reference c).run :=
  .bind (find_reads reference).looks fun u _ ↦
    .bind (revision_reads h f c u).looks fun _ _ ↦ .ask trivial

theorem delete_writesLast {P : Call → Prop} (hP : ∀ id, P (.deleteUser id)) (reference : String) :
    WritesLast P (·.isOk = true) (delete reference).run := by
  refine .bind (find_reads reference).looks fun u _ ↦ .ask_bind (hP u.id) fun isDeleted ↦ ?_
  cases isDeleted with
  | true => exact ⟨.ok (), rfl, .inr rfl⟩
  | false => exact ⟨.error (.userNotFound reference), rfl, .inl rfl⟩

theorem create_ownerFits (h : Hasher) (f : Fresh) (r : NewUser) :
    Puts Call.OwnerFits (create h f r) :=
  (create_writesLast h f r).ownerFits Call.CreatesFresh.ownerFits

theorem update_ownerFits (h : Hasher) (f : Fresh) (reference : String) (c : Change) :
    Puts Call.OwnerFits (update h f reference c) :=
  (update_writesLast h f reference c).ownerFits Call.CreatesFresh.ownerFits

theorem delete_ownerFits (reference : String) : Puts Call.OwnerFits (delete reference) :=
  (delete_writesLast (fun _ ↦ trivial) reference).ownerFits fun _ ↦ id

theorem ensureAdmin_createsFresh (h : Hasher) (f : Fresh) (username password email : String) :
    Puts (Call.CreatesFresh f) (ensureAdmin h f username password email) := by
  refine .bind (.ask trivial) fun found _ ↦ ?_
  split
  · exact (update_writesLast ..).puts (fun _ ↦ Call.createsFresh_of_not_isWrite) fun _ ↦ id
  · exact (create_writesLast ..).puts (fun _ ↦ Call.createsFresh_of_not_isWrite) fun _ ↦ id

end Roster.Accounts
