import Roster.Proofs.Accounts.Ensuring

namespace Roster

open Store (Table Tables)

theorem Text.utf8ByteSize_bounds (s : String) :
    length s ≤ s.utf8ByteSize ∧ s.utf8ByteSize ≤ 4 * length s := by
  have hbounds := Bytes.utf8ByteSize_bounds s.toList
  rwa [String.ofList_toList] at hbounds

/-- The rule for passwords counts the characters of all texts but two kinds: those too short that have
bytes enough, and those short enough that have too many bytes. -/
theorem Rule.password_counts_characters_iff (s : String) :
    (password s = none ↔ minPassword ≤ Text.length s ∧ Text.length s ≤ maxPassword) ↔
      ¬ (Text.length s < minPassword ∧ minPassword ≤ s.utf8ByteSize) ∧
      ¬ (Text.length s ≤ maxPassword ∧ maxPassword < s.utf8ByteSize) := by
  have hbounds := Text.utf8ByteSize_bounds s
  rw [password_eq_none_iff]
  simp only [minPassword, maxPassword]
  omega

theorem Rule.length_of_password {s : String} (h : password s = none) :
    2 ≤ Text.length s ∧ Text.length s ≤ maxPassword := by
  have hbounds := Text.utf8ByteSize_bounds s
  rw [password_eq_none_iff] at h
  simp only [minPassword, maxPassword] at h ⊢
  omega

theorem FieldErrors.fields_check (errors : FieldErrors) (field : String) (failure : Option String) :
    (errors.check field failure).fields = errors.fields ++ if failure.isSome then [field] else [] := by
  cases failure <;> simp [check, add, fields]

theorem Store.Tables.password_not_mem_putUser {t : Tables} {u : User} {errors : FieldErrors}
    (h : (t.putUser u).1 = .error (.invalid errors)) : "password" ∉ errors.fields := by
  unfold putUser at h
  split at h
  · next key _ =>
    cases h
    cases key <;> simp [FieldErrors.fields, User.Key.name]
  · cases h

theorem Store.Tables.mem_values_of_findUser {t : Tables} {u : User} {reference : String}
    (hfind : t.findUser reference = some u) : u ∈ t.users.values := by
  unfold findUser at hfind
  split at hfind
  · next hget =>
    cases hfind
    exact Table.mem_values_of_get? hget
  · exact List.mem_of_find?_eq_some hfind

namespace Accounts

theorem NewUser.password_mem_errors {f : Fresh} {t : Tables} {r : NewUser} {slug : String}
    (h : "password" ∈ (r.errors f t slug).fields) : Rule.password r.password ≠ none := by
  obtain ⟨b, hb⟩ := Rule.mem_fields_collect.mp h
  have hrule : some b = Rule.password r.password := by
    simp only [findings, checks] at hb
    split at hb <;> simpa using hb
  rw [← hrule]
  simp

theorem Change.password_mem_errors {f : Fresh} {t : Tables} {c : Change} {u : User} {slug : String}
    (h : "password" ∈ (c.errors f t u slug).fields) :
    ∃ p ∈ c.password?, Rule.password p ≠ none := by
  have hvalidate : "password" ∉ (c.user f u u.passwordHash slug).validate.fields := by
    intro hmem
    obtain ⟨b, hb⟩ := Rule.mem_fields_collect.mp hmem
    simp at hb
  have hprobed : "password" ∉ (Rule.collect (Rule.probed User.Key.name (c.isTaken f t u slug)
      (c.broken f u slug) (probes (c.slug.any Text.blank)))).fields := by
    intro hmem
    obtain ⟨b, hb⟩ := Rule.mem_fields_collect.mp hmem
    obtain ⟨key, -, hkey⟩ := List.mem_map.mp hb
    cases key <;> simp [User.Key.name] at hkey
  have hbroken : "password" ∈ (c.broken f u slug).fields := by
    rw [errors, FieldErrors.fields, List.map_append] at h
    exact (List.mem_append.mp h).resolve_right hprobed
  rw [broken, FieldErrors.fields_check] at hbroken
  have hfound := (List.mem_append.mp hbroken).resolve_left hvalidate
  rw [Option.isSome_map] at hfound
  split at hfound
  · next hsome =>
    obtain ⟨b, hb⟩ := Option.isSome_iff_exists.mp hsome
    obtain ⟨p, hp, hrule⟩ := Option.bind_eq_some_iff.mp hb
    refine ⟨p, hp, ?_⟩
    rw [hrule]
    simp
  · simp at hfound

/-- A call with the tables before and the outcome: if it goes well, the new password is set; a hash that
is stored afterwards was there before or is one of the new password, which then obeys the rule; a new
password that does not changes nothing; and only such a password is blamed, unless it is for the
hashing. -/
structure Guards (h : Hasher) (new : Option String) (t : Tables)
    (o : Except Fault User × Tables) : Prop where
  set : ∀ u, o.1 = .ok u → u ∈ o.2.users.values ∧ ∀ p ∈ new, h.hash p = .ok u.passwordHash
  stored : ∀ v ∈ o.2.users.values, (∃ u ∈ t.users.values, u.passwordHash = v.passwordHash) ∨
    ∃ p ∈ new, Rule.password p = none ∧ h.hash p = .ok v.passwordHash
  refused : ∀ p ∈ new, Rule.password p ≠ none → (∃ x, o.1 = .error x) ∧ o.2 = t
  blamed : ∀ errors, o.1 = .error (.invalid errors) → "password" ∈ errors.fields →
    ∃ p ∈ new, Rule.password p ≠ none ∨ ∃ x, h.hash p = .error x

variable {h : Hasher} {f : Fresh} {t : Tables} {new : Option String} {u : User}

theorem Guards.of_error {x : Fault} (hblamed : ∀ errors, x = .invalid errors →
    "password" ∈ errors.fields → ∃ p ∈ new, Rule.password p ≠ none ∨ ∃ x, h.hash p = .error x) :
    Guards h new t (.error x, t) where
  set _ hok := nomatch hok
  stored v hv := .inl ⟨v, hv, rfl⟩
  refused _ _ _ := ⟨⟨x, rfl⟩, rfl⟩
  blamed errors herrors := hblamed errors (Except.error.inj herrors)

/-- A user whose hash is that of the new password, or an old one if there is none, may be put into the
store. -/
theorem guards_of_put (hrule : ∀ p ∈ new, Rule.password p = none)
    (hhash : new.elim (∃ w ∈ t.users.values, w.passwordHash = u.passwordHash)
      (h.hash · = .ok u.passwordHash)) : Guards h new t (t.putUser u) := by
  rcases t.putUser_cases u with ⟨x, hx⟩ | ⟨-, hput⟩
  · rw [hx]
    refine .of_error fun errors herrors hmem ↦ absurd hmem ?_
    apply Tables.password_not_mem_putUser (t := t) (u := u)
    rw [hx, herrors]
  · rw [hput]
    refine ⟨?_, ?_, fun p hp hbad ↦ absurd (hrule p hp) hbad, fun _ herrors ↦ nomatch herrors⟩
    · intro v hv
      obtain rfl := Except.ok.inj hv
      have hget : (t.users.insert u.id.text u).get? u.id.text = some u := by
        rw [Table.get?_insert, if_pos rfl]
      refine ⟨Table.mem_values_of_get? hget, ?_⟩
      rintro p ⟨⟩
      exact hhash
    · intro v hv
      rcases Table.mem_values_insert hv with rfl | hv
      · cases new with
        | none => exact .inl hhash
        | some p => exact .inr ⟨p, rfl, hrule p rfl, hhash⟩
      · exact .inl ⟨v, hv, rfl⟩

theorem eq_error_of_map {α β : Type} {e : Except Fault α} {g : α → β} {x : Fault}
    (h : e.map g = .error x) : e = .error x := by
  cases e with
  | error y => exact congrArg Except.error (Except.error.inj h)
  | ok a => cases h

/-- A password is blamed for what is wrong with the fields, or by what follows on them, but not for a
slug that is not to be had. -/
theorem blamed_of_elim {slug? : Option String} {wrong : String → FieldErrors}
    {next : String → Except Fault User} {errors : FieldErrors}
    (herrors : (slug?.elim (.error (.field "slug" Breach.taken.message)) fun slug ↦
      if wrong slug = [] then next slug else .error (.invalid (wrong slug))) =
        .error (.invalid errors))
    (hmem : "password" ∈ errors.fields) :
    ∃ slug, "password" ∈ (wrong slug).fields ∨ next slug = .error (.invalid errors) := by
  cases slug? with
  | none =>
    cases herrors
    simp [FieldErrors.fields] at hmem
  | some slug =>
    rw [Option.elim_some] at herrors
    split at herrors
    · exact ⟨slug, .inr herrors⟩
    · cases herrors
      exact ⟨slug, .inl hmem⟩

theorem draft_blames {r : NewUser} {errors : FieldErrors}
    (herrors : (perform (draft h f r) t).1 = .error (.invalid errors))
    (hmem : "password" ∈ errors.fields) :
    Rule.password r.password ≠ none ∨ ∃ x, h.hash r.password = .error x := by
  rw [perform_draft] at herrors
  obtain ⟨slug, hwrong | hnext⟩ := blamed_of_elim herrors hmem
  · exact .inl (NewUser.password_mem_errors hwrong)
  · exact .inr ⟨_, eq_error_of_map hnext⟩

theorem create_guards (h : Hasher) (f : Fresh) (r : NewUser) (t : Tables) :
    Guards h (some r.password) t (perform (create h f r) t) := by
  rw [perform_create]
  cases hdraft : (perform (draft h f r) t).1 with
  | error x =>
    refine .of_error fun errors herrors hmem ↦ ⟨_, rfl, ?_⟩
    exact draft_blames (hdraft.trans (congrArg Except.error herrors)) hmem
  | ok u =>
    obtain ⟨-, -, hr, hhash⟩ := draft_eq_ok_iff.mp hdraft
    dsimp only
    unfold Tables.createUser
    split
    · exact .of_error fun errors herrors ↦ nomatch herrors
    · refine guards_of_put ?_ hhash
      rintro p ⟨⟩
      exact hr.password

theorem revision_blames {c : Change} {errors : FieldErrors}
    (herrors : (perform (revision h f c u) t).1 = .error (.invalid errors))
    (hmem : "password" ∈ errors.fields) :
    ∃ p ∈ c.password?, Rule.password p ≠ none ∨ ∃ x, h.hash p = .error x := by
  rw [perform_revision] at herrors
  obtain ⟨slug, hwrong | hnext⟩ := blamed_of_elim herrors hmem
  · obtain ⟨p, hp, hrule⟩ := Change.password_mem_errors hwrong
    exact ⟨p, hp, .inl hrule⟩
  · cases hpassword : c.password? with
    | none =>
      rw [hpassword] at hnext
      cases hnext
    | some p =>
      rw [hpassword] at hnext
      exact ⟨p, rfl, .inr ⟨_, eq_error_of_map hnext⟩⟩

theorem update_guards (h : Hasher) (f : Fresh) (reference : String) (c : Change) (t : Tables) :
    Guards h c.password? t (perform (update h f reference c) t) := by
  rw [perform_update]
  cases hfind : t.findUser reference with
  | none => exact .of_error fun errors herrors ↦ nomatch herrors
  | some u =>
    dsimp only
    cases hrevision : (perform (revision h f c u) t).1 with
    | error x =>
      refine .of_error fun errors herrors hmem ↦ ?_
      exact revision_blames (hrevision.trans (congrArg Except.error herrors)) hmem
    | ok v =>
      have hv := revision_eq_ok_iff.mp hrevision
      dsimp only
      unfold Tables.updateUser
      split
      · refine guards_of_put hv.rule ?_
        have hhashed := hv.hashed
        cases hpassword : c.password? with
        | none =>
          rw [hpassword] at hhashed
          exact ⟨u, Tables.mem_values_of_findUser hfind, hhashed.symm⟩
        | some p =>
          rw [hpassword] at hhashed
          exact hhashed
      · exact .of_error fun errors herrors ↦ nomatch herrors

inductive Command where
  | create (r : NewUser)
  | update (reference : String) (c : Change)
  | ensureAdmin (username password email : String)

namespace Command

def errand (h : Hasher) (f : Fresh) : Command → Errand User
  | create r => Accounts.create h f r
  | update reference c => Accounts.update h f reference c
  | ensureAdmin username password email => Accounts.ensureAdmin h f username password email

def given : Command → Option String
  | create r => some r.password
  | update _ c => c.password
  | ensureAdmin _ password _ => some password

/-- The password that a command is to set: of a user who is there an empty one is none. -/
def new? (t : Tables) : Command → Option String
  | create r => some r.password
  | update _ c => c.password?
  | ensureAdmin username password _ =>
    match t.users.values.find? (·.username == username) with
    | none => some password
    | some _ => (some password).filter fun p ↦ !p.isEmpty

theorem given_of_new? {x : Command} {p : String} (hp : p ∈ x.new? t) : p ∈ x.given := by
  cases x with
  | create r => exact hp
  | update reference c => exact (Option.filter_eq_some_iff.mp hp).1
  | ensureAdmin username password email =>
    simp only [new?] at hp
    split at hp
    · exact hp
    · exact (Option.filter_eq_some_iff.mp hp).1

theorem guards (h : Hasher) (f : Fresh) (x : Command) (t : Tables) :
    Guards h (x.new? t) t (perform (x.errand h f) t) := by
  cases x with
  | create r => exact create_guards h f r t
  | update reference c => exact update_guards h f reference c t
  | ensureAdmin username password email =>
    simp only [errand, new?, perform_ensureAdmin]
    cases hfind : t.users.values.find? (·.username == username) with
    | none => exact create_guards h f (founder username password email) t
    | some u => exact update_guards h f u.id.text (promotion password email) t

end Command

structure Turn where
  hasher : Hasher
  fresh : Fresh
  command : Command

def Turn.outcome (x : Turn) (t : Tables) : Except Fault User × Tables :=
  perform (x.command.errand x.hasher x.fresh) t

def afterTurns (t : Tables) (turns : List Turn) : Tables :=
  turns.foldl (fun t x ↦ (x.outcome t).2) t

theorem stored_after (t : Tables) (turns : List Turn) :
    ∀ v ∈ (afterTurns t turns).users.values,
      (∃ u ∈ t.users.values, u.passwordHash = v.passwordHash) ∨
      ∃ x ∈ turns, ∃ p ∈ x.command.given,
        Rule.password p = none ∧ x.hasher.hash p = .ok v.passwordHash := by
  -- A hash that one command keeps is traced back to before it, and so to the start.
  induction turns generalizing t with
  | nil => exact fun v hv ↦ .inl ⟨v, hv, rfl⟩
  | cons x turns ih =>
    intro v hv
    rcases ih _ v hv with ⟨u, hu, hhash⟩ | ⟨y, hy, hset⟩
    · rcases (x.command.guards x.hasher x.fresh t).stored u hu with ⟨w, hw, hkept⟩ | ⟨p, hp, hset⟩
      · exact .inl ⟨w, hw, hkept.trans hhash⟩
      · rw [hhash] at hset
        exact .inr ⟨x, List.mem_cons_self, p, Command.given_of_new? hp, hset⟩
    · exact .inr ⟨y, List.mem_cons_of_mem x hy, hset⟩

/-- The rule for passwords is on bytes, and agrees with one on characters on all texts but two kinds.
Whatever commands are carried out on whatever tables: a new password is set only if it obeys the rule,
and is blamed only if it does not. -/
theorem passwords_bounded_in_bytes (p : String) (t : Tables) (x : Turn) (turns : List Turn) :
    (Rule.password p = none ↔ 8 ≤ p.utf8ByteSize ∧ p.utf8ByteSize ≤ 128) ∧
    ((Rule.password p = none ↔ 8 ≤ Text.length p ∧ Text.length p ≤ 128) ↔
      ¬ (Text.length p < 8 ∧ 8 ≤ p.utf8ByteSize) ∧
      ¬ (Text.length p ≤ 128 ∧ 128 < p.utf8ByteSize)) ∧
    (Rule.password p = none → 2 ≤ Text.length p ∧ Text.length p ≤ 128) ∧
    Guards x.hasher (x.command.new? t) t (x.outcome t) ∧
    ∀ v ∈ (afterTurns t turns).users.values,
      (∃ u ∈ t.users.values, u.passwordHash = v.passwordHash) ∨
      ∃ x ∈ turns, ∃ p ∈ x.command.given,
        Rule.password p = none ∧ x.hasher.hash p = .ok v.passwordHash := by
  refine ⟨?_, ?_, ?_, ?_, ?_⟩
  · exact Rule.password_eq_none_iff
  · exact Rule.password_counts_characters_iff p
  · exact Rule.length_of_password
  · exact x.command.guards x.hasher x.fresh t
  · exact stored_after t turns

theorem characters_not_counted :
    let h : Hasher := ⟨.ok, (· == ·)⟩
    let f : Fresh := ⟨⟨1, 0⟩, ⟨"u", by decide⟩, ⟨"g", by decide⟩, []⟩
    let short := "éééé"
    let long := String.ofList (List.replicate 65 'é')
    let r (password : String) : NewUser :=
      ⟨"ada", password, "ada@example.org", none, none, true, false⟩
    Text.length short = 4 ∧ Rule.password short = none ∧
    (∃ u, (perform (create h f (r short)) .empty).1 = .ok u ∧ h.hash short = .ok u.passwordHash) ∧
    Text.length long = 65 ∧ Rule.password long = some (.tooLong 128) ∧
    (perform (create h f (r long)) .empty).1 =
      .error (.invalid [⟨"password", (Breach.tooLong 128).message⟩]) := by
  intro h f short long r
  refine ⟨by decide, by decide, ⟨(r short).user f short "ada", ?_, rfl⟩,
    by decide +kernel, by decide +kernel, by decide +kernel⟩
  decide

end Accounts

end Roster
