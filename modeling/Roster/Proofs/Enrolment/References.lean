import Roster.Proofs.Enrolment.Calls
import Roster.Proofs.Enrolment.Stages
import Roster.Proofs.Store.Visiting

namespace Roster.Enrolment

open Store (Call Table Tables)

variable {t t' : Tables} {k : Kind} {reference : String} {u v : User} {c : Circle}

structure ActsOnUser (t : Tables) (reference : String) (u : User) : Prop where
  find : perform (Accounts.find reference) t = (.ok u, t)
  update : ∀ h f change, perform (Accounts.update h f reference change) t =
    match (perform (Accounts.revision h f change u) t).1 with
    | .ok v => t.updateUser v
    | .error x => (.error x, t)
  others : ∀ h f change key, key ≠ u.id.text →
    (perform (Accounts.update h f reference change) t).2.users.get? key = t.users.get? key
  delete : perform (Accounts.delete reference) t = (.ok (), (t.deleteUser u.id).2)
  enrol : ∀ x : Task, x.userRef = reference →
    t.roll.enrol x (some u) (t.findCircle x.kind x.circleRef) =
      ((x.operation.run Tables.answer t).1.result, (x.operation.run Tables.answer t).2.roll)

structure ActsOnCircle (t : Tables) (k : Kind) (reference : String) (c : Circle) : Prop where
  find : perform (Circles.find k reference) t = (.ok c, t)
  update : ∀ f change, perform (Circles.update k f reference change) t =
    match (perform (Circles.revision k f change c) t).1 with
    | .ok v => t.updateCircle k v
    | .error x => (.error x, t)
  others : ∀ f change key, key ≠ c.id.text →
    ((perform (Circles.update k f reference change) t).2.of k).circles.get? key =
      (t.of k).circles.get? key
  delete : perform (Circles.delete k reference) t = (.ok (), (t.deleteCircle k c.id).2)
  enrol : ∀ x : Task, x.kind = k → x.circleRef = reference →
    t.roll.enrol x (t.findUser x.userRef) (some c) =
      ((x.operation.run Tables.answer t).1.result, (x.operation.run Tables.answer t).2.roll)

theorem actsOnUser (ht : t.Integrity) (hu : t.findUser reference = some u) :
    ActsOnUser t reference u where
  find := by
    rw [Accounts.perform_find, hu]
    rfl
  update h f change := by
    have hupdate := Accounts.perform_update h f reference change t
    rw [hu] at hupdate
    exact hupdate
  others h f change key hkey := by
    rw [Accounts.perform_update, hu]
    dsimp only
    split
    · next v hv =>
      have hid := ((Accounts.revision_reads h f change u).perform_value hv).id
      rcases t.updateUser_cases v with ⟨x, hx⟩ | ⟨-, -, hx⟩
      · rw [hx]
      · rw [hx, Table.get?_insert, hid, if_neg hkey]
    · rfl
  delete := by rw [Accounts.perform_delete reference ht.users_sound, hu]
  enrol x hx := by
    obtain ⟨-, -, hrun⟩ := (Stage.start (x := x)).run ht (.refl t)
    rw [← hrun, enrolling, hx, hu]

theorem actsOnCircle (ht : t.Integrity) (hc : t.findCircle k reference = some c) :
    ActsOnCircle t k reference c where
  find := by
    rw [Circles.perform_find, hc]
    rfl
  update f change := by
    have hupdate := Circles.perform_update k f reference change t
    rw [hc] at hupdate
    exact hupdate
  others f change key hkey := by
    rw [Circles.perform_update, hc]
    dsimp only
    split
    · next v hv =>
      have hid := ((Circles.revision_reads k f change c).perform_value hv).id
      rcases t.updateCircle_cases k v with ⟨x, hx⟩ | ⟨-, -, hx⟩
      · rw [hx]
      · rw [hx, Tables.of_set_self, Table.get?_insert, hid, if_neg hkey]
    · rfl
  delete := by rw [Circles.perform_delete k reference (ht.kinds_sound k).circles_sound, hc]
  enrol x hk hx := by
    obtain ⟨-, -, hrun⟩ := (Stage.start (x := x)).run ht (.refl t)
    rw [← hrun, enrolling, hk, hx, hc]

theorem slug_or_username (href : u.isReferencedBy reference = true) (hid : u.id.text ≠ reference) :
    u.slug = reference ∨ u.username = reference := by
  simpa [User.isReferencedBy, hid] using href

/-- Two users whom one reference could mean, other than by id: one by slug, the other by name. -/
def Meet (reference : String) (u v : User) : Prop :=
  u.slug = reference ∧ v.username = reference

theorem eq_or_meet (ht : t.Integrity) (hu : u ∈ t.users.values) (hv : v ∈ t.users.values)
    (hur : u.isReferencedBy reference = true) (hvr : v.isReferencedBy reference = true)
    (hui : u.id.text ≠ reference) (hvi : v.id.text ≠ reference) :
    u = v ∨ Meet reference u v ∨ Meet reference v u := by
  rcases slug_or_username hur hui with hus | hun <;> rcases slug_or_username hvr hvi with hvs | hvn
  · exact .inl (ht.users_sound.eq_of_get_eq hu hv .slug (hus.trans hvs.symm))
  · exact .inr (.inl ⟨hus, hvn⟩)
  · exact .inr (.inr ⟨hvs, hun⟩)
  · exact .inl (ht.users_sound.eq_of_get_eq hu hv .username (hun.trans hvn.symm))

/-- A reference that is no id finds the same user in every order of the entries, unless it is the
slug of one user and the name of another. -/
theorem findUser_rearranged_iff (ht : t.Integrity) (reference : String) :
    (∀ t', t.Rearranged t' → t'.findUser reference = t.findUser reference) ↔
      t.users.contains reference = true ∨
        ∀ u ∈ t.users.values, ∀ v ∈ t.users.values, Meet reference u v → u = v := by
  cases hid : t.users.get? reference with
  | some u =>
    have hnames := Tables.namesUser_of_get? ht hid
    refine iff_of_true (fun t' ht' ↦ ?_) (.inl (Table.contains_iff.mpr ⟨u, hid⟩))
    rw [hnames t' ht', hnames t (.refl t)]
  | none =>
    have hne (u : User) (hu : u ∈ t.users.values) : u.id.text ≠ reference := by
      rintro rfl
      rw [ht.users_sound.mem_values.mp hu] at hid
      cases hid
    rw [Table.contains_eq_false.mpr hid, or_iff_right Bool.false_ne_true]
    constructor
    · intro hsame u hu v hv hmeet
      obtain ⟨hs, hn⟩ := hmeet
      obtain ⟨t₁, ht₁, hfind₁⟩ := Tables.exists_rearranged_findUser ht hid hu
        (by simp [User.isReferencedBy, hs])
      obtain ⟨t₂, ht₂, hfind₂⟩ := Tables.exists_rearranged_findUser ht hid hv
        (by simp [User.isReferencedBy, hn])
      rw [hsame t₁ ht₁] at hfind₁
      rw [hsame t₂ ht₂, hfind₁] at hfind₂
      exact Option.some.inj hfind₂
    · intro hapart t' ht'
      cases hfind : t.findUser reference with
      | none =>
        have hnone : ∀ v ∈ t.users.values, ¬ v.isReferencedBy reference = true := by
          rw [Tables.findUser, hid] at hfind
          exact List.find?_eq_none.mp hfind
        rw [Tables.findUser, ht'.users.get?_eq ht.users_sound.keys_nodup, hid]
        exact List.find?_eq_none.mpr fun v hv ↦ hnone v (ht'.users.mem_values.mp hv)
      | some u =>
        rw [Tables.findUser, hid] at hfind
        have hu := List.mem_of_find?_eq_some hfind
        have href := List.find?_some (p := fun v : User ↦ v.isReferencedBy reference) hfind
        refine Tables.namesUser_of_only ht hu href (fun v hv hvref ↦ ?_) t' ht'
        rcases eq_or_meet ht hv hu hvref href (hne v hv) (hne u hu) with rfl | hmeet | hmeet
        · rfl
        · exact hapart v hv u hu hmeet
        · exact (hapart u hu v hv hmeet).symm

/-- At most one user has a reference as id, at most one as slug and at most one as name. The id comes
first. Otherwise the reference finds the same user in every order unless it means two, one by slug
and one by name, and whoever is found is acted on. -/
theorem reference_names_user (ht : t.Reachable) (reference : String) :
    (∀ u ∈ t.users.values, ∀ v ∈ t.users.values, u.isReferencedBy reference = true →
      v.isReferencedBy reference = true → u.id.text ≠ reference → v.id.text ≠ reference →
      u = v ∨ Meet reference u v ∨ Meet reference v u) ∧
    (∀ u ∈ t.users.values, u.id.text = reference → t.NamesUser reference u) ∧
    ((∀ t', t.Rearranged t' → t'.findUser reference = t.findUser reference) ↔
      t.users.contains reference = true ∨
        ∀ u ∈ t.users.values, ∀ v ∈ t.users.values, Meet reference u v → u = v) ∧
    (∀ u, t.NamesUser reference u → ∀ t', t.Rearranged t' → ActsOnUser t' reference u) := by
  have ht := ht.integrity
  refine ⟨fun u hu v hv hur hvr ↦ eq_or_meet ht hu hv hur hvr, ?_,
    findUser_rearranged_iff ht reference, ?_⟩
  · rintro u hu rfl
    exact Tables.namesUser_of_get? ht (ht.users_sound.mem_values.mp hu)
  · intro u hu t' ht'
    exact actsOnUser (ht'.integrity ht) (hu t' ht')

theorem reference_names_user_of_two :
    let u : User := .new ⟨"u1", by decide⟩ ⟨0, 0⟩ "Jane Doe" "jane@example.org" ""
    let v : User := .new ⟨"u2", by decide⟩ ⟨0, 0⟩ "jane" "other@example.org" ""
    let t := Tables.empty.after [.createUser u, .createUser v]
    t.Reachable ∧ t.NamesUser "u1" u ∧ (∀ t', t.Rearranged t' → ActsOnUser t' "u1" u) ∧
      ∀ t', t.Rearranged t' → t'.findUser "jane" = t.findUser "jane" := by
  intro u v t
  have ht : t.Reachable := ⟨[.createUser u, .createUser v], by simp [Call.OwnerFits], rfl⟩
  have hentries : t.users.entries = [("u1", u), ("u2", v)] := by decide
  have hvalues : t.users.values = [u, v] := by rw [Table.values, hentries]; rfl
  obtain ⟨-, hid, -, hacts⟩ := reference_names_user ht "u1"
  obtain ⟨-, -, hsame, -⟩ := reference_names_user ht "jane"
  have hnames := hid u (by simp [hvalues]) rfl
  refine ⟨ht, hnames, hacts u hnames, hsame.mpr (.inr ?_)⟩
  simp only [hvalues, Meet]
  decide +kernel

theorem name_meets_slug :
    let h : Hasher := ⟨.ok, (· == ·)⟩
    let fresh (id : UserId) : Fresh := ⟨⟨0, 0⟩, id, ⟨"g", by decide⟩, []⟩
    let jane := Accounts.create h (fresh ⟨"u1", by decide⟩)
      ⟨"Jane Doe", "password-1", "jane@example.org", none, none, true, false⟩
    let other := Accounts.create h (fresh ⟨"u2", by decide⟩)
      ⟨"jane-doe", "password-2", "other@example.org", none, some "other", true, false⟩
    let t := (perform other (perform jane .empty).2).2
    let u : User := ⟨⟨"u1", by decide⟩, "jane-doe", "Jane Doe", "jane@example.org", "",
      "password-1", true, false, ⟨0, 0⟩, ⟨0, 0⟩⟩
    let v : User := ⟨⟨"u2", by decide⟩, "other", "jane-doe", "other@example.org", "",
      "password-2", true, false, ⟨0, 0⟩, ⟨0, 0⟩⟩
    t.Reachable ∧ t.users.values = [u, v] ∧ u.isReferencedBy "jane-doe" = true ∧
      v.isReferencedBy "jane-doe" = true ∧ t.users.contains "jane-doe" = false ∧
      ∃ t', t.Rearranged t' ∧ t'.findUser "jane-doe" ≠ t.findUser "jane-doe" := by
  intro h fresh jane other t u v
  have ht : t.Reachable := (Tables.Reachable.empty.perform
    (Accounts.create_ownerFits ..)).perform (Accounts.create_ownerFits ..)
  have hentries : t.users.entries = [("u1", u), ("u2", v)] := by decide +kernel
  have hvalues : t.users.values = [u, v] := by rw [Table.values, hentries]; rfl
  have hid : t.users.contains "jane-doe" = false := by
    rw [Table.contains, Table.get?, hentries]
    rfl
  refine ⟨ht, hvalues, by decide, by decide, hid, ?_⟩
  by_contra hsame
  push Not at hsame
  rcases (findUser_rearranged_iff ht.integrity "jane-doe").mp hsame with h | h
  · rw [hid] at h
    cases h
  · have huv := h u (by simp [hvalues]) v (by simp [hvalues]) ⟨rfl, rfl⟩
    exact absurd (congrArg User.slug huv) (by decide)

/-- The id of a user names this user. That of a circle names this circle if and only if no other
circle of its kind has it for a slug. Whoever is named is acted on. -/
theorem id_names_record (ht : t.Reachable) :
    (∀ u ∈ t.users.values, t.NamesUser u.id.text u ∧
      ∀ t', t.Rearranged t' → ActsOnUser t' u.id.text u) ∧
    (∀ k, ∀ c ∈ (t.of k).circles.values,
      (t.NamesCircle k c.id.text c ↔
        ∀ d ∈ (t.of k).circles.values, d.slug = c.id.text → d = c) ∧
      (t.NamesCircle k c.id.text c →
        ∀ t', t.Rearranged t' → ActsOnCircle t' k c.id.text c)) := by
  have ht := ht.integrity
  constructor
  · intro u hu
    have hnames := Tables.namesUser_of_get? ht (ht.users_sound.mem_values.mp hu)
    exact ⟨hnames, fun t' ht' ↦ actsOnUser (ht'.integrity ht) (hnames t' ht')⟩
  · intro k c hc
    refine ⟨?_, fun hnames t' ht' ↦ actsOnCircle (ht'.integrity ht) (hnames t' ht')⟩
    have hsound := (ht.kinds_sound k).circles_sound
    rw [Tables.namesCircle_iff]
    constructor
    · rintro ⟨-, -, honly⟩ d hd hslug
      exact honly d hd (by simp [Circle.isReferencedBy, hslug])
    · intro hslug
      refine ⟨hc, by simp [Circle.isReferencedBy], fun d hd href ↦ ?_⟩
      rcases Bool.or_eq_true_iff.mp href with hid | hs
      · have hd := hsound.mem_values.mp hd
        rw [eq_of_beq hid, hsound.mem_values.mp hc] at hd
        exact (Option.some.inj hd).symm
      · exact hslug d hd (eq_of_beq hs)

theorem id_names_record_of_two :
    let a : Circle := .new ⟨"first-id", by decide⟩ ⟨0, 0⟩ "First"
    let b : Circle := .new ⟨"second-id", by decide⟩ ⟨0, 0⟩ "First Id"
    let t := Tables.empty.after [.createCircle .group a none, .createCircle .group b none]
    t.Reachable ∧ t.NamesCircle .group "second-id" b ∧
      (∀ t', t.Rearranged t' → ActsOnCircle t' .group "second-id" b) ∧
      ¬ t.NamesCircle .group "first-id" a := by
  intro a b t
  have ht : t.Reachable := ⟨[.createCircle .group a none, .createCircle .group b none],
    by simp [Call.OwnerFits], rfl⟩
  have hvalues : (t.of .group).circles.values = [a, b] := by decide
  obtain ⟨-, hcircles⟩ := id_names_record ht
  obtain ⟨hb, hacts⟩ := hcircles .group b (by simp [hvalues])
  have hnames : t.NamesCircle .group "second-id" b := by
    refine hb.mpr ?_
    rw [hvalues]
    decide
  refine ⟨ht, hnames, hacts hnames, fun ha ↦ ?_⟩
  have hslug := (hcircles .group a (by simp [hvalues])).1.mp ha b (by simp [hvalues])
  revert hslug
  decide +kernel

theorem id_finds_another :
    let fresh (id : CircleId) : Fresh := ⟨⟨0, 0⟩, ⟨"u", by decide⟩, id, []⟩
    let first : CircleId := ⟨"5f0c6b1e-7a53-4c1b-9d0e-2f4a8b6c1d3e", by decide⟩
    let second : CircleId := ⟨"c2b7d9a4-0e61-4f38-8a5b-6d1f3e9c7b20", by decide⟩
    let one := Circles.create .group (fresh first) ⟨"First", none⟩ none
    let two := Circles.create .group (fresh second) ⟨"Second", some first.text⟩ none
    let change := Circles.update .group (fresh first) "first" ⟨none, some second.text⟩
    let t := (perform change (perform two (perform one .empty).2).2).2
    let a : Circle := ⟨first, second.text, "First", ⟨0, 0⟩, ⟨0, 0⟩⟩
    let b : Circle := ⟨second, first.text, "Second", ⟨0, 0⟩, ⟨0, 0⟩⟩
    t.Reachable ∧ (t.of .group).circles.values = [a, b] ∧
      ∀ t', t.Rearranged t' → ¬ (t'.findCircle .group first.text = some a ∧
        t'.findCircle .group second.text = some b) := by
  intro fresh first second one two change t a b
  have ht : t.Reachable := ((Tables.Reachable.empty.perform
    (Circles.create_ownerFits ..)).perform (Circles.create_ownerFits ..)).perform
    (Circles.update_ownerFits ..)
  have hvalues : (t.of .group).circles.values = [a, b] := by decide +kernel
  refine ⟨ht, hvalues, ?_⟩
  rintro t' ht' ⟨hfirst, hsecond⟩
  -- Either circle is referenced by either id, so both lookups stop at the same one.
  have hsame : t'.findCircle .group first.text = t'.findCircle .group second.text := by
    rw [Tables.findCircle, Tables.findCircle, ← List.head?_filter, ← List.head?_filter]
    refine congrArg List.head? (List.filter_congr fun c hc ↦ ?_)
    rw [(ht'.circles .group).mem_values, hvalues] at hc
    have hboth : ∀ c ∈ [a, b], c.isReferencedBy first.text = c.isReferencedBy second.text := by
      decide
    exact hboth c hc
  rw [hfirst, hsecond] at hsame
  exact absurd (congrArg Circle.id (Option.some.inj hsame)) (by decide)

end Roster.Enrolment
