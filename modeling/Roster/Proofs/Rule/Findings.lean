import Roster.Proofs.Rule.Lengths
import Roster.Proofs.Store.Performing

namespace Roster

open Store (Tables)

namespace FieldErrors

variable {errors errors' : FieldErrors} {field : String}

def fields (errors : FieldErrors) : List String :=
  errors.map (·.field)

theorem hasField_iff : errors.hasField field = true ↔ field ∈ errors.fields := by
  simp only [hasField, fields, List.any_eq_true, List.mem_map, beq_iff_eq]

theorem hasField_add (errors : FieldErrors) (name message field : String) :
    (errors.add name message).hasField field = (errors.hasField field || name == field) := by
  simp [hasField, add]

end FieldErrors

namespace Rule

variable {κ : Type} {name : κ → String} {isTaken : κ → Bool} {keys : List κ}
variable {errors : FieldErrors} {field : String}

theorem collect_append (checks checks' : List (String × Option Breach)) :
    collect (checks ++ checks') = collect checks ++ collect checks' := by
  simp only [collect_eq, List.filterMap_append]

theorem mem_fields_collect {checks : List (String × Option Breach)} :
    field ∈ (collect checks).fields ↔ ∃ b, (field, some b) ∈ checks := by
  simp only [FieldErrors.fields, collect_eq, List.mem_map, List.mem_filterMap, Option.map_eq_some_iff]
  constructor
  · rintro ⟨-, ⟨⟨name, found⟩, hmem, b, rfl, rfl⟩, rfl⟩
    exact ⟨b, hmem⟩
  · rintro ⟨b, hmem⟩
    exact ⟨_, ⟨_, hmem, b, rfl, rfl⟩, rfl⟩

theorem hasField_collect (checks : List (String × Option Breach)) (field : String) :
    (collect checks).hasField field = checks.any fun c ↦ c.1 == field && c.2.isSome := by
  rw [Bool.eq_iff_iff, FieldErrors.hasField_iff, mem_fields_collect, List.any_eq_true]
  simp only [Prod.exists, Bool.and_eq_true, beq_iff_eq, Option.isSome_iff_exists]
  constructor
  · rintro ⟨b, hmem⟩
    exact ⟨field, some b, hmem, rfl, b, rfl⟩
  · rintro ⟨_, _, hmem, rfl, b, rfl⟩
    exact ⟨b, hmem⟩

theorem fields_collect_nodup {checks : List (String × Option Breach)}
    (hchecks : (checks.map (·.1)).Nodup) : (collect checks).fields.Nodup := by
  rw [FieldErrors.fields, collect_eq, List.map_filterMap]
  induction checks with
  | nil => exact List.nodup_nil
  | cons c rest ih =>
    obtain ⟨hc, hrest⟩ := List.nodup_cons.mp hchecks
    obtain ⟨field, found⟩ := c
    cases found with
    | none => exact ih hrest
    | some b =>
      refine List.nodup_cons.mpr ⟨fun hmem ↦ hc ?_, ih hrest⟩
      obtain ⟨⟨field', found'⟩, hmem', hfield⟩ := List.mem_filterMap.mp hmem
      cases found' with
      | none => cases hfield
      | some b' =>
        cases hfield
        exact List.mem_map.mpr ⟨_, hmem', rfl⟩

def probed (name : κ → String) (isTaken : κ → Bool) (errors : FieldErrors) (keys : List κ) :
    List (String × Option Breach) :=
  keys.map fun key ↦
    (name key, if !errors.hasField (name key) && isTaken key then some .taken else none)

theorem probed_add (hname : Function.Injective name) {key : κ} (hkey : key ∉ keys)
    (message : String) :
    probed name isTaken (errors.add (name key) message) keys = probed name isTaken errors keys := by
  refine List.map_congr_left fun key' hkey' ↦ ?_
  have hne : name key ≠ name key' := by
    intro h
    exact hkey (hname h ▸ hkey')
  rw [FieldErrors.hasField_add, beq_false_of_ne hne, Bool.or_false]

theorem collect_probed_of_free (hfree : ∀ key ∈ keys, isTaken key = false) (errors : FieldErrors) :
    collect (probed name isTaken errors keys) = [] := by
  rw [collect_eq_nil_iff, probed, List.forall_mem_map]
  intro key hkey
  rw [hfree key hkey, Bool.and_false, if_neg Bool.false_ne_true]

theorem collect_probed_eq_nil_iff :
    collect (probed name isTaken [] keys) = [] ↔ ∀ key ∈ keys, isTaken key = false := by
  simp [collect_eq_nil_iff, probed, FieldErrors.hasField]

theorem fields_probed_nodup (hname : Function.Injective name) (hkeys : keys.Nodup)
    (herrors : errors.fields.Nodup) :
    (FieldErrors.fields (errors ++ collect (probed name isTaken errors keys))).Nodup := by
  rw [FieldErrors.fields, List.map_append]
  have hprobed : (collect (probed name isTaken errors keys)).fields.Nodup := by
    apply fields_collect_nodup
    rw [probed, List.map_map]
    exact hkeys.map hname
  refine herrors.append hprobed fun field hfield hfound ↦ ?_
  obtain ⟨b, hmem⟩ := mem_fields_collect.mp hfound
  obtain ⟨key, -, heq⟩ := List.mem_map.mp hmem
  obtain ⟨rfl, hb⟩ := Prod.mk.inj heq
  rw [FieldErrors.hasField_iff.mpr hfield] at hb
  cases hb

theorem perform_probing {check : List κ → FieldErrors → Errand FieldErrors}
    {probe : κ → Errand Bool} {t : Tables} (hname : Function.Injective name)
    (hnil : ∀ errors, check [] errors = pure errors)
    (hcons : ∀ key rest errors, check (key :: rest) errors =
      if errors.hasField (name key) then check rest errors
      else do
        if ← probe key then check rest (errors.add (name key) Breach.taken.message)
        else check rest errors)
    (hprobe : ∀ key, perform (probe key) t = (.ok (isTaken key), t)) (hkeys : keys.Nodup)
    (errors : FieldErrors) : perform (check keys errors) t =
      (.ok (errors ++ collect (probed name isTaken errors keys)), t) := by
  induction keys generalizing errors with
  | nil =>
    rw [hnil]
    exact congrArg (fun found ↦ (Except.ok found, t)) (List.append_nil errors).symm
  | cons key rest ih =>
    obtain ⟨hkey, hrest⟩ := List.nodup_cons.mp hkeys
    rw [hcons, probed, List.map_cons, ← probed]
    cases hfield : errors.hasField (name key) with
    | true =>
      rw [if_pos rfl, ih hrest]
      simp [collect_eq]
    | false =>
      rw [if_neg Bool.false_ne_true, perform_bind_ok (hprobe key)]
      cases isTaken key with
      | false =>
        rw [if_neg Bool.false_ne_true, ih hrest]
        simp [collect_eq]
      | true =>
        rw [if_pos rfl, ih hrest, probed_add hname hkey]
        simp [collect_eq, FieldErrors.add]

end Rule

end Roster
