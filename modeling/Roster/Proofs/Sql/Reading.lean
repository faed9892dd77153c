import Roster.Sql.Query

namespace Roster.Sql

variable {α β : Type}

def ColumnType.holds : ColumnType → Value → Bool
  | text, .text _ | varchar, .text _ | bool, .bool _ | int8, .int _ | timestamptz, .time _ => true
  | _, _ => false

namespace Row

def Bears (r : Row) (name : String) (v : Value) : Prop :=
  ∃ before column after, r.cells = before ++ (column, v) :: after ∧ column.name = name ∧
    column.type.holds v = true ∧ ∀ cell ∈ after, cell.1.name ≠ name

theorem Bears.mem_columns {r : Row} {name : String} {v : Value} (h : r.Bears name v) :
    name ∈ r.columns.map (·.name) := by
  obtain ⟨before, column, after, hcells, rfl, -⟩ := h
  have hmem : (column, v) ∈ r.cells := hcells ▸ List.mem_append_right before List.mem_cons_self
  exact List.mem_map_of_mem (List.of_mem_zip hmem).1

def BearsAll (r : Row) (cells : List (String × Value)) : Prop :=
  ∀ e ∈ cells, r.Bears e.1 e.2

end Row

def Cell.Reads (c : Cell α) (write : α → Value) : Prop :=
  ∀ type v a, c.accepts type v = true ∧ c.decode v = some a ↔ v = write a ∧ type.holds v = true

theorem Cell.text_reads : Cell.text.Reads .text := by
  intro type v a
  cases v <;> cases type <;> simp [text, ColumnType.holds]

theorem Cell.bool_reads : Cell.bool.Reads .bool := by
  intro type v a
  cases v <;> cases type <;> simp [bool, ColumnType.holds]

theorem Cell.time_reads : Cell.time.Reads .time := by
  intro type v a
  cases v <;> cases type <;> simp [time, ColumnType.holds]

variable {c : Cell α} {write : α → Value} {r : Row} {name action : String}

theorem Row.read_eq_ok_iff {cell : Column × Value} {a : α} : read c name cell = .ok a ↔
    c.accepts cell.1.type cell.2 = true ∧ c.decode cell.2 = some a := by
  rw [read]
  split
  · next b hb =>
    rw [Option.ite_none_right_eq_some] at hb
    simp [hb]
  · next hnone =>
    simp only [reduceCtorEq, false_iff]
    rintro ⟨haccepts, hdecode⟩
    rw [if_pos haccepts, hdecode] at hnone
    cases hnone

theorem Row.get_eq_ok_iff (hc : c.Reads write) {a : α} :
    r.get c name = .ok a ↔ r.Bears name (write a) := by
  rw [get]
  constructor
  · intro h
    split at h
    · next cell hcell =>
      obtain ⟨hname, before, after, hcells, hbefore⟩ := List.find?_eq_some_iff_append.mp hcell
      obtain ⟨hvalue, hholds⟩ := (hc _ _ _).mp (read_eq_ok_iff.mp h)
      refine ⟨after.reverse, cell.1, before.reverse, ?_, eq_of_beq hname, hvalue ▸ hholds, ?_⟩
      · rw [← hvalue, ← List.reverse_reverse r.cells, hcells]
        simp
      · intro other hother
        simpa using hbefore other (List.mem_reverse.mp hother)
    · cases h
  · rintro ⟨before, column, after, hcells, hname, hholds, hafter⟩
    have hfind : r.cells.reverse.find? (·.1.name == name) = some (column, write a) := by
      refine List.find?_eq_some_iff_append.mpr ⟨beq_iff_eq.mpr hname, after.reverse, before.reverse,
        by simp [hcells], fun cell hcell ↦ ?_⟩
      simpa using hafter cell (List.mem_reverse.mp hcell)
    rw [hfind]
    exact read_eq_ok_iff.mpr ((hc _ _ _).mpr ⟨rfl, hholds⟩)

namespace Query

/-- Nothing is sent. Either `P` holds of one value and the query gives it, or of none and the query
fails as the storage does. -/
inductive Finds (q : Query α) (P : α → Prop) : Prop
  | found (a : α) (hq : q = pure a) (hP : ∀ b, P b ↔ b = a)
  | failed (message : String) (hq : q = throw (.storage message)) (hP : ∀ b, ¬ P b)

variable {q : Query α} {f : α → Query β} {P P' : α → Prop} {Q : α → β → Prop}

theorem pure_inj {a b : α} : (pure a : Query α) = pure b ↔ a = b := by
  refine ⟨fun h ↦ ?_, fun h ↦ h ▸ rfl⟩
  cases (show Dialogue.done (I := interface) (Except.ok (ε := Fault) a) = .done (.ok b) from h)
  rfl

theorem throw_ne_pure (f : Fault) (a : α) : (throw f : Query α) ≠ pure a := by
  intro h
  cases (show Dialogue.done (I := interface) (Except.error (α := α) f) = .done (.ok a) from h)

namespace Finds

theorem eq_pure_iff (h : q.Finds P) {a : α} : q = pure a ↔ P a := by
  cases h with
  | found b hq hP => rw [hP, hq, pure_inj, eq_comm]
  | failed message hq hP =>
    rw [hq]
    exact iff_of_false (throw_ne_pure _ a) (hP a)

theorem refused (h : q.Finds P) (hP : ∀ a, ¬ P a) : ∃ message, q = throw (.storage message) := by
  cases h with
  | found a _ ha => exact absurd ((ha a).mpr rfl) (hP a)
  | failed message hq _ => exact ⟨message, hq⟩

theorem congr (h : q.Finds P) (hP : ∀ a, P a ↔ P' a) : q.Finds P' := by
  cases h with
  | found a hq ha => exact .found a hq fun b ↦ (hP b).symm.trans (ha b)
  | failed message hq ha => exact .failed message hq fun b ↦ mt (hP b).mpr (ha b)

theorem pure (a : α) : (Pure.pure a : Query α).Finds (· = a) :=
  .found a rfl fun _ ↦ Iff.rfl

theorem ofOption (o : Option α)
    (hnone : o = none → ∃ message, q = throw (.storage message))
    (hsome : ∀ a, o = some a → q = Pure.pure a) : q.Finds (o = some ·) := by
  cases o with
  | none =>
    obtain ⟨message, hq⟩ := hnone rfl
    exact .failed message hq (by simp)
  | some a => exact .found a (hsome a rfl) (by simp [eq_comm])

theorem bind (hq : q.Finds P) (hf : ∀ a, (f a).Finds (Q a)) :
    (q >>= f).Finds fun b ↦ ∃ a, P a ∧ Q a b := by
  cases hq with
  | found a hq ha =>
    have hfirst : (q >>= f) = f a := by
      rw [hq]
      rfl
    rw [hfirst]
    refine (hf a).congr fun b ↦ ?_
    simp only [ha, exists_eq_left]
  | failed message hq ha =>
    refine .failed message ?_ fun b ⟨a, hPa, _⟩ ↦ ha a hPa
    rw [hq]
    rfl

theorem get (hc : c.Reads write) :
    (ofTrouble action (r.get c name)).Finds fun a ↦ r.Bears name (write a) := by
  cases hget : r.get c name with
  | ok a =>
    refine .found a rfl fun b ↦ ?_
    rw [← Row.get_eq_ok_iff hc, hget, Except.ok.injEq, eq_comm]
  | error trouble =>
    refine .failed _ rfl fun b hb ↦ ?_
    rw [(Row.get_eq_ok_iff hc).mpr hb] at hget
    cases hget

end Finds

end Query

end Roster.Sql
