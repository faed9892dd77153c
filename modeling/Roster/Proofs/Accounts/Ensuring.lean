import Roster.Proofs.Accounts.Creating
import Roster.Proofs.Accounts.Hashes
import Roster.Proofs.Accounts.Revising

namespace Roster.Accounts

open Store (Table Tables)

variable {start t t' : Tables} {h h' : Hasher} {f f' : Fresh} {u : User}
variable {username password email : String}

def promotion (password email : String) : Change :=
  { email := some email, password := some password, active := some true, admin := some true }

def founder (username password email : String) : NewUser :=
  ⟨username, password, email, some "Admin", none, true, true⟩

theorem perform_ensureAdmin (h : Hasher) (f : Fresh) (username password email : String)
    (t : Tables) : perform (ensureAdmin h f username password email) t =
      match t.users.values.find? (·.username == username) with
      | some u => perform (update h f u.id.text (promotion password email)) t
      | none => perform (create h f (founder username password email)) t := by
  have hask : perform (Errand.ask (.userNamed username)) t =
      (.ok (t.users.values.find? (·.username == username)), t) := rfl
  rw [ensureAdmin, perform_bind_ok hask]
  cases t.users.values.find? (·.username == username) <;> rfl

theorem promotion_password? :
    (promotion password email).password? = if password = "" then none else some password := by
  rw [Change.password?, promotion, Option.filter_some]
  by_cases hempty : password = "" <;> simp [hempty]

/-- An admin who has been seen to: he has the name and the email, and the password unless this is empty;
he is stored, and nothing else has changed. -/
structure Ensured (h : Hasher) (t : Tables) (name password address : String) (u : User)
    (t' : Tables) : Prop where
  username : u.username = name
  email : u.email = address
  active : u.active = true
  admin : u.admin = true
  password : if password = "" then
      ∃ old, t.users.get? u.id.text = some old ∧ old.username = name ∧
        old.passwordHash = u.passwordHash
    else Rule.password password = none ∧ h.hash password = .ok u.passwordHash
  valid : u.validate = []
  stored : t'.users.get? u.id.text = some u
  others : ∀ key, key ≠ u.id.text → t'.users.get? key = t.users.get? key
  kinds : ∀ k, t'.of k = t.of k

theorem ensured_of_create
    (hok : perform (create h f (founder username password email)) t = (.ok u, t')) :
    Ensured h t username password email u t' := by
  obtain ⟨hdraft, hid, rfl⟩ := create_eq_ok_iff.mp hok
  obtain ⟨hu, hslug, hr, hhash⟩ := draft_eq_ok_iff.mp hdraft
  refine ⟨congrArg User.username hu, congrArg User.email hu, congrArg User.active hu,
    congrArg User.admin hu, ?_, ?_, ?_, ?_, ?_⟩
  · have hempty : password ≠ "" := Rule.ne_empty_of_password hr.password
    rw [if_neg hempty]
    exact ⟨hr.password, hhash⟩
  · rw [User.validate_eq_nil_iff, hu]
    exact ⟨hr.username, hr.slug, hr.email, hr.fullname⟩
  · rw [Table.get?_insert, if_pos rfl]
  · intro key hkey
    rw [Table.get?_insert, if_neg hkey]
  · exact fun k ↦ Tables.of_with_users ..

theorem ensured_of_update (ht : t.Integrity) {old : User}
    (hfind : t.users.values.find? (·.username == username) = some old)
    (hok : perform (update h f old.id.text (promotion password email)) t = (.ok u, t')) :
    Ensured h t username password email u t' := by
  have hold : t.users.get? old.id.text = some old :=
    ht.users_sound.mem_values.mp (List.mem_of_find?_eq_some hfind)
  have hname : old.username = username := by
    have hbeq := List.find?_some (p := fun v : User ↦ v.username == username) hfind
    exact eq_of_beq hbeq
  obtain ⟨found, hfound, hu, hreplaces⟩ := (update_eq_ok_iff ht).mp hok
  rw [Tables.findUser_of_get? hold] at hfound
  obtain rfl := Option.some.inj hfound
  refine ⟨(congrArg User.username hu.eq).trans hname, congrArg User.email hu.eq,
    congrArg User.active hu.eq, congrArg User.admin hu.eq, ?_, hu.valid, hreplaces.stored,
    hreplaces.others, hreplaces.kinds⟩
  have hhashed := hu.hashed
  have hrule := hu.rule
  rw [promotion_password?] at hhashed hrule
  split_ifs at hhashed hrule ⊢ with hempty
  · rw [hu.id]
    exact ⟨old, hold, hname, hhashed.symm⟩
  · exact ⟨hrule password rfl, hhashed⟩

theorem ensured_of_ok (ht : t.Integrity)
    (hok : perform (ensureAdmin h f username password email) t = (.ok u, t')) :
    Ensured h t username password email u t' := by
  rw [perform_ensureAdmin] at hok
  cases hfind : t.users.values.find? (·.username == username) with
  | none =>
    rw [hfind] at hok
    exact ensured_of_create hok
  | some old =>
    rw [hfind] at hok
    exact ensured_of_update ht hfind hok

theorem find?_of_username (ht : t.Integrity) (hu : u ∈ t.users.values) :
    t.users.values.find? (·.username == u.username) = some u :=
  Table.find?_of_only hu (beq_self_eq_true _) fun _ hv hname ↦
    ht.users_sound.eq_of_get_eq hv hu .username (eq_of_beq hname)

/-- Whoever is stored and active is authenticated by his name and his password. -/
theorem perform_authenticate_of_stored (ht : t.Integrity) (hu : u ∈ t.users.values)
    (hactive : u.active = true) (h : Hasher) (password : String) :
    perform (authenticate h u.username password) t =
      (if h.verify password u.passwordHash then .ok u
        else .error (.unauthorized "Wrong username or password"), t) := by
  rw [perform_authenticate, find?_of_username ht hu, Option.filter_some, hactive, Bool.and_true]
  split <;> rfl

theorem ensureAdmin_again (ht : t.Integrity) (hu : u ∈ t.users.values) (hvalid : u.validate = [])
    (hrule : password ≠ "" → Rule.password password = none)
    (hhash : password ≠ "" → ∃ hash, h.hash password = .ok hash) (f : Fresh) :
    ∃ v t', perform (ensureAdmin h f u.username password u.email) t = (.ok v, t') ∧
      v.id = u.id ∧ t'.users.keys = t.users.keys := by
  have hget := ht.users_sound.mem_values.mp hu
  obtain ⟨hash, hhashed⟩ : ∃ hash, (promotion password u.email).password?.elim
      (hash = u.passwordHash) (h.hash · = .ok hash) := by
    rw [promotion_password?]
    split_ifs with hempty
    · exact ⟨u.passwordHash, rfl⟩
    · exact hhash hempty
  let v := (promotion password u.email).user f u hash u.slug
  have hv : Becomes h f t (promotion password u.email) u v := by
    refine ⟨rfl, rfl, ?_, hhashed, hvalid, fun key ↦ ?_⟩
    · rw [promotion_password?]
      split_ifs with hempty
      · simp
      · rintro p ⟨⟩
        exact hrule hempty
    · -- Of the fields that are kept apart only the email is set, to what it is already.
      have hfree := ht.userTaken_of_stored hu key
      cases key <;> exact hfree
  have hstored : t.users.contains v.id.text = true := Table.contains_iff.mpr ⟨u, hget⟩
  have hreplaces : t.ReplacesUser v { t with users := t.users.insert v.id.text v } :=
    (Tables.replacesUser_iff hstored).mpr rfl
  refine ⟨v, _, ?_, rfl, hreplaces.keys⟩
  rw [perform_ensureAdmin, find?_of_username ht hu]
  exact (update_eq_ok_iff ht).mpr ⟨u, Tables.findUser_of_get? hget, hv, hreplaces⟩

/-- Whenever it goes well to see to an admin, he is the one user with the name, active, an admin, with
the email; nobody else has changed, and doing it again, with the same hasher or another one that hashes
whenever this one does, finds the same user and adds nobody. He is let in with the password, unless this
is empty: then he was there before, and is let in with the password that he had. -/
theorem ensured_admin_is_let_in (ht : start.Reachable) (horder : start.Rearranged t)
    (hverify : ∀ p hash, h.hash p = .ok hash → h.verify p hash = true)
    (hok : perform (ensureAdmin h f username password email) t = (.ok u, t')) :
    Ensured h t username password email u t' ∧ ∀ later, t'.Rearranged later →
      (password ≠ "" → perform (authenticate h username password) later = (.ok u, later)) ∧
      (password = "" → ∃ old, t.users.get? u.id.text = some old ∧ old.username = username ∧
        ∀ p, perform (authenticate h username p) later =
          (if h.verify p old.passwordHash then .ok u
            else .error (.unauthorized "Wrong username or password"), later)) ∧
      ∀ h' f', h.HashesAlike h' → ∃ v later',
        perform (ensureAdmin h' f' username password email) later = (.ok v, later') ∧
          v.id = u.id ∧ later'.users.keys = later.users.keys := by
  have hintegrity := horder.integrity ht.integrity
  have hu := ensured_of_ok hintegrity hok
  refine ⟨hu, fun later hlater ↦ ?_⟩
  have hmem : u ∈ later.users.values :=
    hlater.users.mem_values.mpr (Table.mem_values_of_get? hu.stored)
  have hkept : (perform (ensureAdmin h f username password email) t).2.Integrity :=
    (ensureAdmin_createsFresh ..).perform_keeps (fun c _ hc ht ↦ ht.answer (hc.ownerFits c))
      hintegrity
  rw [hok] at hkept
  have hafter := hlater.integrity hkept
  have hauth := perform_authenticate_of_stored hafter hmem hu.active h
  have hpassword := hu.password
  rw [hu.username] at hauth
  refine ⟨fun hp ↦ ?_, fun hp ↦ ?_, fun h' f' hh ↦ ?_⟩
  · rw [if_neg hp] at hpassword
    rw [hauth, if_pos (hverify _ _ hpassword.2)]
  · rw [if_pos hp] at hpassword
    obtain ⟨old, hold, hname, hhash⟩ := hpassword
    refine ⟨old, hold, hname, fun p ↦ ?_⟩
    rw [hhash, hauth]
  · rw [← hu.username, ← hu.email]
    refine ensureAdmin_again hafter hmem hu.valid (fun hp ↦ ?_) (fun hp ↦ ?_) f' <;>
      rw [if_neg hp] at hpassword
    · exact hpassword.1
    · exact hh.exists_hash hpassword.2

theorem ensured_admin_is_let_in_of_ada :
    let h : Hasher := ⟨.ok, (· == ·)⟩
    let f : Fresh := ⟨⟨1, 0⟩, ⟨"v", by decide⟩, ⟨"g", by decide⟩, []⟩
    let ada : User := .new ⟨"u", by decide⟩ ⟨0, 0⟩ "ada" "ada@example.org" "password-1"
    let t := Tables.empty.after [.createUser ada]
    let u : User := { ada with
      email := "a@example.org", passwordHash := "password-2", admin := true, updatedAt := ⟨1, 0⟩ }
    let t' := (perform (ensureAdmin h f "ada" "password-2" "a@example.org") t).2
    t.Reachable ∧ (∀ p hash, h.hash p = .ok hash → h.verify p hash = true) ∧
      (perform (ensureAdmin h f "ada" "password-2" "a@example.org") t).1 = .ok u ∧
      (perform (authenticate h "ada" "password-2") t').1 = .ok u := by
  intro h f ada t u t'
  have ht : t.Reachable := ⟨[.createUser ada], by simp [Store.Call.OwnerFits], rfl⟩
  have hverify (p hash : String) (hhash : h.hash p = .ok hash) : h.verify p hash = true := by
    cases hhash
    exact beq_self_eq_true p
  have hok : (perform (ensureAdmin h f "ada" "password-2" "a@example.org") t).1 = .ok u := by
    decide
  obtain ⟨-, hlater⟩ := ensured_admin_is_let_in ht (.refl t) hverify (Prod.ext hok rfl)
  obtain ⟨hauth, -⟩ := hlater t' (.refl t')
  exact ⟨ht, hverify, hok, congrArg Prod.fst (hauth (by decide))⟩

theorem ensured_admin_not_let_in :
    let h : Hasher := ⟨.ok, (· == ·)⟩
    let f : Fresh := ⟨⟨1, 0⟩, ⟨"v", by decide⟩, ⟨"g", by decide⟩, []⟩
    let ada : User := .new ⟨"u", by decide⟩ ⟨0, 0⟩ "ada" "ada@example.org" "password-1"
    let t := Tables.empty.after [.createUser ada]
    let u : User := { ada with admin := true, updatedAt := ⟨1, 0⟩ }
    let outcome := perform (ensureAdmin h f "ada" "" "ada@example.org") t
    t.Reachable ∧ (∀ p hash, h.hash p = .ok hash → h.verify p hash = true) ∧ outcome.1 = .ok u ∧
      (perform (authenticate h "ada" "") outcome.2).1 =
        .error (.unauthorized "Wrong username or password") := by
  intro h f ada t u outcome
  refine ⟨⟨[.createUser ada], by simp [Store.Call.OwnerFits], rfl⟩, ?_, ?_, ?_⟩
  · intro p hash hhash
    cases hhash
    exact beq_self_eq_true p
  · decide
  · decide

end Roster.Accounts
