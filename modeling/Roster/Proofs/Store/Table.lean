import Roster.Store.Memory
import Mathlib.Data.List.Nodup

namespace Roster.Store.Table

variable {α κ : Type} {t : Table α} {key key' : String} {a : α}

def keys (t : Table α) : List String :=
  t.entries.map (·.1)

@[simp] theorem get?_empty (key : String) : (empty : Table α).get? key = none := rfl

theorem contains_iff : t.contains key = true ↔ ∃ a, t.get? key = some a := by
  rw [contains, Option.isSome_iff_exists]

theorem contains_eq_false : t.contains key = false ↔ t.get? key = none := by
  rw [contains, Option.isSome_eq_false_iff, Option.isNone_iff_eq_none]

theorem contains_iff_mem_keys : t.contains key = true ↔ key ∈ t.keys := by
  simp only [contains, get?, List.lookup_isSome_iff, keys, List.mem_map, beq_iff_eq]
  constructor
  · rintro ⟨e, he, rfl⟩
    exact ⟨e, he, rfl⟩
  · rintro ⟨e, he, rfl⟩
    exact ⟨e, he, rfl⟩

theorem mem_of_get? (h : t.get? key = some a) : (key, a) ∈ t.entries := by
  obtain ⟨l₁, l₂, he, -⟩ := List.lookup_eq_some_iff.mp h
  simp [he]

theorem get?_of_mem (ht : t.keys.Nodup) (h : (key, a) ∈ t.entries) : t.get? key = some a := by
  obtain ⟨b, hb⟩ : ∃ b, t.get? key = some b :=
    contains_iff.mp (contains_iff_mem_keys.mpr (List.mem_map_of_mem h))
  have he := List.inj_on_of_nodup_map ht (mem_of_get? hb) h rfl
  rw [hb, (Prod.mk.inj he).2]

theorem mem_values_of_get? (h : t.get? key = some a) : a ∈ t.values :=
  List.mem_map_of_mem (mem_of_get? h)

theorem mem_values_iff (ht : t.keys.Nodup) : a ∈ t.values ↔ ∃ key, t.get? key = some a := by
  constructor
  · intro h
    obtain ⟨⟨key, b⟩, he, rfl⟩ := List.mem_map.mp h
    exact ⟨key, get?_of_mem ht he⟩
  · rintro ⟨key, h⟩
    exact mem_values_of_get? h

theorem lookup_cons_eq [BEq κ] [LawfulBEq κ] [DecidableEq κ] (k key : κ) (b : α) (l : List (κ × α)) :
    ((k, b) :: l).lookup key = if key = k then some b else l.lookup key := by
  by_cases h : key = k
  · simp [h]
  · simp [List.lookup_cons, h, beq_false_of_ne h]

theorem lookup_map_put (key key' : String) (a : α) (l : List (String × α)) :
    (l.map fun e ↦ if e.1 == key then (key, a) else e).lookup key' =
      if key' = key then (l.lookup key).map fun _ ↦ a else l.lookup key' := by
  induction l with
  | nil => simp
  | cons e l ih =>
    obtain ⟨k, b⟩ := e
    rw [List.map_cons, lookup_cons_eq, lookup_cons_eq]
    by_cases hk : k = key
    · subst hk
      simp only [beq_self_eq_true, if_true, lookup_cons_eq, ih]
      split <;> rfl
    · have hb : (k == key) = false := beq_false_of_ne hk
      simp only [hb, Bool.false_eq_true, if_false, lookup_cons_eq, ih, if_neg (Ne.symm hk)]
      by_cases hk' : key' = key
      · subst hk'
        simp only [if_true, if_neg (Ne.symm hk)]
      · simp only [if_neg hk']

theorem get?_insert (t : Table α) (key key' : String) (a : α) :
    (t.insert key a).get? key' = if key' = key then some a else t.get? key' := by
  unfold insert
  split
  · next h =>
    obtain ⟨b, hb⟩ := contains_iff.mp h
    rw [get?] at hb
    simp only [get?, lookup_map_put, hb, Option.map_some]
  · next h =>
    have hb := contains_eq_false.mp (Bool.eq_false_iff.mpr h)
    rw [get?] at hb
    simp only [get?, List.lookup_append, lookup_cons_eq, List.lookup_nil]
    split
    · next hk => rw [hk, hb, Option.none_or]
    · rw [Option.or_none]

theorem insert_of_absent (h : t.contains key = false) :
    t.insert key a = ⟨t.entries ++ [(key, a)]⟩ :=
  if_neg (Bool.eq_false_iff.mp h)

theorem insert_of_get? (ht : t.keys.Nodup) (h : t.get? key = some a) : t.insert key a = t := by
  have hcontains : t.contains key = true := contains_iff.mpr ⟨a, h⟩
  have hmap : t.entries.map (fun e ↦ if e.1 == key then (key, a) else e) = t.entries := by
    refine (List.map_congr_left fun e he ↦ ?_).trans t.entries.map_id
    rw [id]
    split
    · next hkey =>
      have hkey : e.1 = key := eq_of_beq hkey
      exact (List.inj_on_of_nodup_map ht he (mem_of_get? h) hkey).symm
    · rfl
  rw [insert, if_pos hcontains, hmap]

theorem get?_erase (t : Table α) (key key' : String) :
    (t.erase key).get? key' = if key' = key then none else t.get? key' := by
  obtain ⟨l⟩ := t
  simp only [erase, get?]
  induction l with
  | nil => simp
  | cons e l ih =>
    obtain ⟨k, b⟩ := e
    rw [List.filter_cons, lookup_cons_eq]
    by_cases hk : k = key
    · rw [if_neg (by simp [hk]), ih]
      split
      · rfl
      · next h => rw [if_neg (fun h' ↦ h (h'.trans hk))]
    · rw [if_pos (by simpa using hk), lookup_cons_eq, ih]
      split
      · next h => rw [if_neg (fun h' ↦ hk (h.symm.trans h'))]
      · rfl

theorem erase_of_absent (h : t.contains key = false) : t.erase key = t := by
  have hkeys : key ∉ t.keys := by
    rw [← contains_iff_mem_keys, h]
    exact Bool.false_ne_true
  obtain ⟨l⟩ := t
  rw [erase, Table.mk.injEq, List.filter_eq_self]
  intro e he
  have hne : e.1 ≠ key := by
    rintro rfl
    exact hkeys (List.mem_map_of_mem he)
  exact bne_iff_ne.mpr hne

theorem contains_insert :
    (t.insert key a).contains key' = true ↔ key' = key ∨ t.contains key' = true := by
  simp only [contains_iff, get?_insert]
  split
  · next h => simp [h]
  · next h => simp [h]

theorem contains_erase :
    (t.erase key).contains key' = true ↔ key' ≠ key ∧ t.contains key' = true := by
  simp only [contains_iff, get?_erase]
  split
  · next h => simp [h]
  · next h => simp [h]

theorem keys_insert (t : Table α) (key : String) (a : α) :
    (t.insert key a).keys = if t.contains key then t.keys else t.keys ++ [key] := by
  unfold insert
  split
  · simp only [keys, List.map_map]
    apply List.map_congr_left
    intro e he
    by_cases h : e.1 = key <;> simp [h]
  · simp [keys]

theorem keys_insert_nodup (ht : t.keys.Nodup) (key : String) (a : α) :
    (t.insert key a).keys.Nodup := by
  rw [keys_insert]
  split
  · exact ht
  · next h =>
    rw [contains_iff_mem_keys] at h
    rw [← List.concat_eq_append]
    exact ht.concat h

theorem keys_erase_nodup (ht : t.keys.Nodup) (key : String) : (t.erase key).keys.Nodup :=
  ht.sublist (List.filter_sublist.map _)

structure Sound (id : α → String) (get : α → κ → String) (t : Table α) : Prop where
  keys_nodup : t.keys.Nodup
  key_eq_id : ∀ {key a}, t.get? key = some a → key = id a
  apart : ∀ {key key' a b} (field : κ), t.get? key = some a → t.get? key' = some b →
    get a field = get b field → key = key'

variable {id : α → String} {get : α → κ → String}

theorem Sound.empty : (empty : Table α).Sound id get where
  keys_nodup := List.nodup_nil
  key_eq_id := by simp
  apart := by simp

theorem Sound.mem_values (ht : t.Sound id get) : a ∈ t.values ↔ t.get? (id a) = some a := by
  rw [mem_values_iff ht.keys_nodup]
  constructor
  · rintro ⟨key, h⟩
    rwa [← ht.key_eq_id h]
  · exact fun h ↦ ⟨_, h⟩

theorem Sound.eq_of_get_eq {b : α} (ht : t.Sound id get) (ha : a ∈ t.values) (hb : b ∈ t.values)
    (field : κ) (h : get a field = get b field) : a = b := by
  have ha := ht.mem_values.mp ha
  have hb := ht.mem_values.mp hb
  rw [ht.apart field ha hb h, hb] at ha
  exact (Option.some.inj ha).symm

theorem Sound.map_id_values (ht : t.Sound id get) : t.values.map id = t.keys := by
  rw [values, List.map_map, keys]
  refine List.map_congr_left fun e he ↦ ?_
  exact (ht.key_eq_id (get?_of_mem ht.keys_nodup he)).symm

theorem Sound.values_nodup (ht : t.Sound id get) : t.values.Nodup := by
  refine List.Nodup.of_map id ?_
  rw [ht.map_id_values]
  exact ht.keys_nodup

theorem Sound.insert (ht : t.Sound id get)
    (hfree : ∀ b ∈ t.values, id b ≠ id a → ∀ field, get b field ≠ get a field) :
    (t.insert (id a) a).Sound id get where
  keys_nodup := keys_insert_nodup ht.keys_nodup _ _
  key_eq_id := by
    intro key b hb
    rw [get?_insert] at hb
    split at hb
    · cases hb
      assumption
    · exact ht.key_eq_id hb
  apart := by
    intro key key' b c field hb hc he
    rw [get?_insert] at hb hc
    split at hb <;> split at hc
    · next h h' => rw [h, h']
    · next h h' =>
      cases hb
      have hid := ht.key_eq_id hc
      exact absurd he.symm (hfree c (mem_values_of_get? hc) (fun h ↦ h' (hid.trans h)) field)
    · next h h' =>
      cases hc
      have hid := ht.key_eq_id hb
      exact absurd he (hfree b (mem_values_of_get? hb) (fun h' ↦ h (hid.trans h')) field)
    · exact ht.apart field hb hc he

theorem Sound.erase (ht : t.Sound id get) (key : String) : (t.erase key).Sound id get where
  keys_nodup := keys_erase_nodup ht.keys_nodup key
  key_eq_id := by
    intro key' a h
    rw [get?_erase] at h
    split at h
    · cases h
    · exact ht.key_eq_id h
  apart := by
    intro k k' a b field ha hb he
    rw [get?_erase] at ha hb
    split at ha <;> split at hb
    · cases ha
    · cases ha
    · cases hb
    · exact ht.apart field ha hb he

end Roster.Store.Table
