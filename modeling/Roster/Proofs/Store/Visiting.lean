import Roster.Proofs.Store.Runs

namespace Roster.Store

namespace Table

variable {α κ : Type} {t t' : Table α} {key : String} {a : α} {p : α → Bool}

def Shuffled (t t' : Table α) : Prop :=
  t.entries.Perm t'.entries

theorem Shuffled.mem_values (h : t.Shuffled t') : a ∈ t'.values ↔ a ∈ t.values :=
  (h.map _).mem_iff.symm

theorem Shuffled.keys_nodup (h : t.Shuffled t') (ht : t.keys.Nodup) : t'.keys.Nodup :=
  (h.map _).nodup_iff.mp ht

theorem Shuffled.get?_eq (h : t.Shuffled t') (ht : t.keys.Nodup) : t'.get? key = t.get? key := by
  have ht' := h.keys_nodup ht
  have hmem {b : α} : t'.get? key = some b ↔ t.get? key = some b :=
    ⟨fun hb ↦ get?_of_mem ht (h.mem_iff.mpr (mem_of_get? hb)),
      fun hb ↦ get?_of_mem ht' (h.mem_iff.mp (mem_of_get? hb))⟩
  exact Option.ext fun b ↦ hmem

theorem Shuffled.sound {id : α → String} {get : α → κ → String} (h : t.Shuffled t')
    (ht : t.Sound id get) : t'.Sound id get where
  keys_nodup := h.keys_nodup ht.keys_nodup
  key_eq_id := by
    intro key a ha
    rw [h.get?_eq ht.keys_nodup] at ha
    exact ht.key_eq_id ha
  apart := by
    intro key key' a b field ha hb
    rw [h.get?_eq ht.keys_nodup] at ha hb
    exact ht.apart field ha hb

theorem find?_of_only (ha : a ∈ t.values) (hp : p a = true)
    (honly : ∀ b ∈ t.values, p b = true → b = a) : t.values.find? p = some a := by
  obtain ⟨b, hb⟩ : ∃ b, t.values.find? p = some b :=
    Option.isSome_iff_exists.mp (List.find?_isSome.mpr ⟨a, ha, hp⟩)
  rw [hb, honly b (List.mem_of_find?_eq_some hb) (List.find?_some hb)]

/-- What no two records satisfy is satisfied by the same one in every order. -/
theorem Shuffled.find?_eq (h : t.Shuffled t')
    (honly : ∀ a ∈ t.values, ∀ b ∈ t.values, p a = true → p b = true → a = b) :
    t'.values.find? p = t.values.find? p := by
  cases hfind : t.values.find? p with
  | none =>
    refine List.find?_eq_none.mpr fun a ha ↦ List.find?_eq_none.mp hfind a (h.mem_values.mp ha)
  | some a =>
    have ha := List.mem_of_find?_eq_some hfind
    refine find?_of_only (h.mem_values.mpr ha) (List.find?_some hfind) fun b hb hp ↦ ?_
    exact honly b (h.mem_values.mp hb) a ha hp (List.find?_some hfind)

theorem exists_shuffled_find? (ha : a ∈ t.values) (hp : p a = true) :
    ∃ t', t.Shuffled t' ∧ t'.values.find? p = some a := by
  obtain ⟨e, he, rfl⟩ := List.mem_map.mp ha
  obtain ⟨before, rest, hsplit⟩ := List.append_of_mem he
  refine ⟨⟨e :: (before ++ rest)⟩, ?_, ?_⟩
  · rw [Shuffled, hsplit]
    exact List.perm_middle
  · rw [values, List.map_cons, List.find?_cons_of_pos hp]

end Table

namespace Tables

variable {t t' : Tables} {k : Kind} {reference : String} {u : User} {c : Circle}

/-- The same records and rows, with the maps visited in another order. -/
structure Rearranged (t t' : Tables) : Prop where
  users : t.users.Shuffled t'.users
  circles : ∀ k, (t.of k).circles.Shuffled (t'.of k).circles
  memberships : ∀ k, (t'.of k).memberships = (t.of k).memberships

namespace Rearranged

theorem refl (t : Tables) : t.Rearranged t :=
  ⟨.refl _, fun _ ↦ .refl _, fun _ ↦ rfl⟩

theorem users_sound (h : t.Rearranged t') (ht : t.Integrity) :
    t'.users.Sound (·.id.text) User.get :=
  h.users.sound ht.users_sound

theorem integrity (h : t.Rearranged t') (ht : t.Integrity) : t'.Integrity where
  users_sound := h.users_sound ht
  kinds_sound k := by
    have hk := ht.kinds_sound k
    refine ⟨(h.circles k).sound hk.circles_sound, ?_, ?_⟩
    · rw [h.memberships]
      exact hk.pairs_nodup
    · intro m hm
      rw [h.memberships] at hm
      simp only [Table.contains, h.users.get?_eq ht.users_sound.keys_nodup,
        (h.circles k).get?_eq hk.circles_sound.keys_nodup]
      exact hk.joins_stored m hm

theorem member?_eq (h : t.Rearranged t') (ht : t.Integrity) (k : Kind) :
    t'.member? k = t.member? k := by
  funext m
  rw [member?, h.users.get?_eq ht.users_sound.keys_nodup,
    (h.circles k).get?_eq (ht.kinds_sound k).circles_sound.keys_nodup]
  rfl

theorem ofUsers {users : Table User} (h : t.users.Shuffled users) :
    t.Rearranged { t with users := users } :=
  ⟨h, fun k ↦ by rw [of_with_users]; exact .refl _, fun k ↦ by rw [of_with_users]⟩

theorem ofCircles {circles : Table Circle} (h : (t.of k).circles.Shuffled circles) :
    t.Rearranged (t.set k { t.of k with circles := circles }) where
  users := by
    rw [set_users]
    exact .refl _
  circles k' := by
    rw [of_set]
    split
    · next hk =>
      subst hk
      exact h
    · exact .refl _
  memberships k' := by
    rw [of_set]
    split
    · next hk => rw [hk]
    · rfl

end Rearranged

def NamesUser (t : Tables) (reference : String) (u : User) : Prop :=
  ∀ t', t.Rearranged t' → t'.findUser reference = some u

def NamesCircle (t : Tables) (k : Kind) (reference : String) (c : Circle) : Prop :=
  ∀ t', t.Rearranged t' → t'.findCircle k reference = some c

theorem findUser_of_get? (h : t.users.get? reference = some u) : t.findUser reference = some u := by
  rw [findUser, h]

/-- The id of a user names this user, whatever slugs and names others have. -/
theorem namesUser_of_get? (ht : t.Integrity) (h : t.users.get? reference = some u) :
    t.NamesUser reference u := by
  intro t' ht'
  apply findUser_of_get?
  rw [ht'.users.get?_eq ht.users_sound.keys_nodup, h]

theorem namesUser_of_only (ht : t.Integrity) (hu : u ∈ t.users.values)
    (href : u.isReferencedBy reference = true)
    (honly : ∀ v ∈ t.users.values, v.isReferencedBy reference = true → v = u) :
    t.NamesUser reference u := by
  intro t' ht'
  unfold findUser
  split
  · next v hv =>
    have hid := (ht'.users_sound ht).key_eq_id hv
    have hstored := ht'.users.mem_values.mp (Table.mem_values_of_get? hv)
    rw [honly v hstored (by simp [User.isReferencedBy, hid])]
  · refine Table.find?_of_only (ht'.users.mem_values.mpr hu) href fun v hv ↦ ?_
    exact honly v (ht'.users.mem_values.mp hv)

theorem exists_rearranged_findUser (ht : t.Integrity) (hnone : t.users.get? reference = none)
    (hu : u ∈ t.users.values) (href : u.isReferencedBy reference = true) :
    ∃ t', t.Rearranged t' ∧ t'.findUser reference = some u := by
  obtain ⟨users, hshuffled, hfind⟩ :=
    Table.exists_shuffled_find? (p := (·.isReferencedBy reference)) hu href
  refine ⟨{ t with users := users }, .ofUsers hshuffled, ?_⟩
  rw [findUser, hshuffled.get?_eq ht.users_sound.keys_nodup, hnone]
  exact hfind

/-- A reference names a circle if and only if it references this one and no other. -/
theorem namesCircle_iff : t.NamesCircle k reference c ↔
    c ∈ (t.of k).circles.values ∧ c.isReferencedBy reference = true ∧
      ∀ d ∈ (t.of k).circles.values, d.isReferencedBy reference = true → d = c := by
  constructor
  · intro h
    have hfind := h t (.refl t)
    have href := List.find?_some (p := fun d : Circle ↦ d.isReferencedBy reference) hfind
    refine ⟨List.mem_of_find?_eq_some hfind, href, fun d hd href ↦ ?_⟩
    obtain ⟨circles, hshuffled, hd⟩ :=
      Table.exists_shuffled_find? (p := (·.isReferencedBy reference)) hd href
    have hother := h _ (.ofCircles hshuffled)
    rw [findCircle, of_set_self] at hother
    exact Option.some.inj (hd.symm.trans hother)
  · rintro ⟨hc, href, honly⟩ t' ht'
    refine Table.find?_of_only ((ht'.circles k).mem_values.mpr hc) href fun d hd ↦ ?_
    exact honly d ((ht'.circles k).mem_values.mp hd)

end Tables

end Roster.Store
