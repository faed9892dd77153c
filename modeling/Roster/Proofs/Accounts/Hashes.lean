import Roster.Proofs.Accounts.Calls
import Roster.Proofs.Store.Agreement

namespace Roster

open Store (Tables)

/-- Two hashers with which hashing succeeds and fails alike. The hashes may differ, as salts do. -/
def Hasher.HashesAlike (h h' : Hasher) : Prop :=
  ∀ password, (h'.hash password).map (fun _ ↦ ()) = (h.hash password).map fun _ ↦ ()

theorem Hasher.HashesAlike.exists_hash {h h' : Hasher} (hh : h.HashesAlike h')
    {password hash : String} (hhash : h.hash password = .ok hash) :
    ∃ hash', h'.hash password = .ok hash' := by
  have halike := hh password
  rw [hhash] at halike
  cases hhash' : h'.hash password with
  | error x =>
    rw [hhash'] at halike
    cases halike
  | ok hash' => exact ⟨hash', rfl⟩

def Hasher.ChecksAlike (h h' : Hasher) (t t' : Tables) (username password : String) : Prop :=
  (t'.users.values.find? (·.username == username)).map (h'.verify password ·.passwordHash) =
    (t.users.values.find? (·.username == username)).map (h.verify password ·.passwordHash)

namespace Accounts

variable {h h' : Hasher} {u u' : User} (f : Fresh)

theorem get_agrees (id : UserId) : Agrees User.unhashed (get id) (get id) :=
  .bind (.ask rfl) fun _ _ hu ↦ .orFail hu

theorem find_agrees (reference : String) : Agrees User.unhashed (find reference) (find reference) :=
  .bind (.ask rfl) fun _ _ hu ↦ .orFail hu

theorem hash_agrees (hh : h.HashesAlike h') (password : String) :
    Agrees (fun _ ↦ ()) (Errand.ofExcept (h.hash password)) (Errand.ofExcept (h'.hash password)) :=
  fun _ _ ht ↦ .done (hh password) ht

theorem draft_agrees (hh : h.HashesAlike h') (r : NewUser) :
    Agrees User.unhashed (draft h f r) (draft h' f r) := by
  refine .bind_same (slugOf_probes f _ _).probes_agrees fun slug ↦ ?_
  refine .bind_same (checkTaken_probes _ _ _).probes_agrees fun errors ↦ ?_
  refine .bind_same (.requireNone _) fun _ ↦ .bind (hash_agrees hh r.password) fun _ _ _ ↦ ?_
  exact .pure rfl

theorem create_agrees (hh : h.HashesAlike h') (r : NewUser) :
    Agrees User.unhashed (create h f r) (create h' f r) :=
  .bind (draft_agrees f hh r) fun _ _ hu ↦ .createUser hu

theorem checkTaken_eq (u : User) (hash : String) (keys : List User.Key) (errors : FieldErrors) :
    checkTaken { u with passwordHash := hash } keys errors = checkTaken u keys errors := by
  induction keys generalizing errors with
  | nil => rfl
  | cons key rest ih =>
    have hget : User.get { u with passwordHash := hash } key = u.get key := by cases key <;> rfl
    rw [checkTaken, checkTaken, hget]
    simp only [ih]

theorem withFields_unhashed (now : Timestamp) (c : Change) (u : User) :
    (withFields now c u).unhashed = withFields now c u.unhashed := by
  rw [withFields_eq, withFields_eq]
  rfl

theorem withSlug_agrees (slug : Option String) (hu : u'.unhashed = u.unhashed) :
    Agrees User.unhashedFst (withSlug f slug u) (withSlug f slug u') := by
  obtain ⟨hash, rfl⟩ := User.eq_of_unhashed hu
  cases slug with
  | none => exact .pure rfl
  | some s =>
    unfold withSlug
    dsimp only
    split
    · exact .bind_same (availableSlug_probes f _ _).probes_agrees fun slug ↦ .pure rfl
    · exact .pure rfl

theorem withPassword_agrees (hh : h.HashesAlike h') (now : Timestamp) (password : Option String)
    (hu : u'.unhashed = u.unhashed) :
    Agrees User.unhashed (withPassword h now password u) (withPassword h' now password u') := by
  cases password with
  | none => exact .pure hu
  | some p =>
    obtain ⟨hash, rfl⟩ := User.eq_of_unhashed hu
    exact .bind (hash_agrees hh p) fun _ _ _ ↦ .pure rfl

theorem revision_agrees (hh : h.HashesAlike h') (c : Change) (hu : u'.unhashed = u.unhashed) :
    Agrees User.unhashed (revision h f c u) (revision h' f c u') := by
  have hfields : (withFields f.now c u').unhashed = (withFields f.now c u).unhashed := by
    rw [withFields_unhashed, hu, withFields_unhashed]
  refine .bind (withSlug_agrees f c.slug hfields) fun ⟨v, isDerived⟩ _ hv ↦ ?_
  obtain ⟨hash, rfl⟩ := User.eq_of_unhashedFst hv
  dsimp only
  rw [checkTaken_eq v hash]
  exact .bind_same (checkTaken_probes v _ _).probes_agrees fun errors ↦
    .bind_same (.requireNone _) fun _ ↦ withPassword_agrees hh _ _ rfl

theorem update_agrees (hh : h.HashesAlike h') (reference : String) (c : Change) :
    Agrees User.unhashed (update h f reference c) (update h' f reference c) :=
  .bind (find_agrees reference) fun _ _ hu ↦
    .bind (revision_agrees f hh c hu) fun _ _ hv ↦ .updateUser hv

theorem delete_agrees (reference : String) :
    Agrees id (delete reference) (delete reference) := by
  refine .bind (find_agrees reference) fun u u' hu ↦ ?_
  obtain ⟨hash, rfl⟩ := User.eq_of_unhashed hu
  refine .bind_same (.ask_same (c := .deleteUser u.id) ⟨rfl, rfl⟩) fun isDeleted ↦ ?_
  cases isDeleted with
  | true => exact .pure rfl
  | false => exact .throw _

theorem authenticate_agree {t t' : Tables} {username password : String}
    (ht : t'.unhashed = t.unhashed) (hcheck : h.ChecksAlike h' t t' username password) :
    Agree (Except.map User.unhashed) (authenticate h username password).run
      (authenticate h' username password).run t t' := by
  have hfound : (t'.users.values.find? (·.username == username)).map User.unhashed =
      (t.users.values.find? (·.username == username)).map User.unhashed := by
    rw [← Tables.find?_unhashed t' fun _ ↦ rfl, ht, Tables.find?_unhashed t fun _ ↦ rfl]
  have hrun : (authenticate h username password).run.run Tables.answer t = _ :=
    perform_authenticate h username password t
  have hrun' : (authenticate h' username password).run.run Tables.answer t' = _ :=
    perform_authenticate h' username password t'
  refine ⟨?_, by rw [hrun, hrun']; exact ht⟩
  rw [hrun, hrun']
  cases hu : t.users.values.find? (·.username == username) with
  | none =>
    rw [hu] at hfound
    rw [Option.map_eq_none_iff.mp hfound]
    rfl
  | some u =>
    rw [Hasher.ChecksAlike, hu] at hcheck
    rw [hu] at hfound
    obtain ⟨u', hu', heq⟩ := Option.map_eq_some_iff.mp hfound
    rw [hu'] at hcheck ⊢
    have hactive : u'.active = u.active := by
      obtain ⟨hash, rfl⟩ := User.eq_of_unhashed heq
      rfl
    -- Nowhere else is a hash looked at.
    have hchecked : h'.verify password u'.passwordHash = h.verify password u.passwordHash :=
      Option.some.inj hcheck
    rw [Option.filter_some, Option.filter_some, hchecked, hactive]
    split
    · exact congrArg Except.ok heq
    · rfl

end Accounts

end Roster
