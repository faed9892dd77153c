import Mathlib.Logic.Function.Basic
import Roster.Proofs.Sql.Declared
import Roster.Proofs.Sql.Transaction
import Roster.Proofs.Sql.Written

namespace Roster.Sql

open Text (splitAll)

abbrev Rows := String → List Cells

inductive Write where
  | insertion (table : String)
  | change (table : String)

namespace Statement

variable (s : Statement)

def write? : Option Write :=
  match splitAll (· == ' ') s.sql.toList with
  | ['I', 'N', 'S', 'E', 'R', 'T'] :: ['I', 'N', 'T', 'O'] :: table :: _ =>
    some (.insertion (String.ofList table))
  | ['U', 'P', 'D', 'A', 'T', 'E'] :: table :: _ => some (.change (String.ofList table))
  | _ => none

def finds (row : Cells) : Bool :=
  s.compared.all fun e ↦ row.get e.1 == e.2

variable {s}

theorem write?_insertion {table : String} (h : (splitAll (· == ' ') s.sql.toList).take 3 =
    ["INSERT".toList, "INTO".toList, table.toList]) : s.write? = some (.insertion table) := by
  rw [String.toList_ofList, String.toList_ofList] at h
  match hwords : splitAll (· == ' ') s.sql.toList with
  | [] | [_] | [_, _] => rw [hwords] at h; cases h
  | first :: second :: third :: rest =>
    rw [hwords] at h
    cases h
    rw [write?, hwords]
    exact congrArg (some ∘ Write.insertion) String.ofList_toList

theorem write?_change {table : String} (h : (splitAll (· == ' ') s.sql.toList).take 2 =
    ["UPDATE".toList, table.toList]) : s.write? = some (.change table) := by
  rw [String.toList_ofList] at h
  match hwords : splitAll (· == ' ') s.sql.toList with
  | [] | [_] => rw [hwords] at h; cases h
  | first :: second :: rest =>
    rw [hwords] at h
    cases h
    rw [write?, hwords]
    exact congrArg (some ∘ Write.change) String.ofList_toList

theorem write?_of_word (h : (splitAll (· == ' ') s.sql.toList).length = 1) : s.write? = none := by
  obtain ⟨word, hword⟩ := List.length_eq_one_iff.mp h
  rw [write?, hword]
  split
  · next hwords => cases hwords
  · next hwords => cases hwords
  · rfl

theorem write?_begin : begin.write? = none := by
  apply write?_of_word
  rw [Statement.sql, String.toList_ofList]
  decide

theorem write?_commit : commit.write? = none := by
  apply write?_of_word
  rw [Statement.sql, String.toList_ofList]
  decide

end Statement

theorem Users.insert_write? (u : User) : (insert u).write? = some (.insertion "users") := by
  apply Statement.write?_insertion
  simp only [insert, columns, Statement.sql, toString, String.toList_append]
  repeat rw [String.toList_ofList]
  decide

theorem Users.replace_write? (u : User) : (replace u).write? = some (.change "users") := by
  apply Statement.write?_change
  simp only [replace, Statement.sql, String.toList_append]
  repeat rw [String.toList_ofList]
  decide

section Kinds

variable (k : Kind)

theorem Circles.insert_write? (c : Circle) : (insert k c).write? = some (.insertion k.plural) := by
  apply Statement.write?_insertion
  simp only [insert, columns, Statement.sql, toString, String.toList_append]
  cases k <;>
  · simp only [Kind.plural]
    repeat rw [String.toList_ofList]
    decide

theorem Circles.replace_write? (c : Circle) : (replace k c).write? = some (.change k.plural) := by
  apply Statement.write?_change
  simp only [replace, Statement.sql, toString, String.toList_append]
  cases k <;>
  · simp only [Kind.plural]
    repeat rw [String.toList_ofList]
    decide

theorem Circles.insertMembership_write? (m : Membership) :
    (insertMembership k m).write? = some (.insertion (Memberships.table k)) := by
  apply Statement.write?_insertion
  simp only [insertMembership, Memberships.table, Statement.sql, toString, String.toList_append]
  cases k <;>
  · simp only [Kind.plural, Kind.name]
    repeat rw [String.toList_ofList]
    decide

theorem Memberships.setPermission_write? (user : UserId) (circle : CircleId) (p : Permission) :
    (setPermission k user circle p).write? = some (.change (table k)) := by
  apply Statement.write?_change
  simp only [setPermission, table, column, Statement.sql, toString, String.toList_append]
  cases k <;>
  · simp only [Kind.plural, Kind.name]
    repeat rw [String.toList_ofList]
    decide

end Kinds

namespace Rows

/-- The rows after a statement that is carried out at some time, if it sets columns to arguments and
to the time and to nothing else. -/
def after (now : Timestamp) (rows : Rows) (s : Statement) : Rows :=
  match s.write? with
  | some (.insertion table) => Function.update rows table (rows table ++ [s.stored.kept])
  | some (.change table) =>
    Function.update rows table
      ((rows table).map fun row ↦ if s.finds row then row.writtenBy now s else row)
  | none => rows

def affected (rows : Rows) (s : Statement) : ℕ :=
  match s.write? with
  | some (.insertion _) => 1
  | some (.change table) => (rows table).countP s.finds
  | none => 0

def holds (rows : Rows) (κ : Constraint) : Bool :=
  match κ.form with
  | .unique columns | .primaryKey columns =>
    decide ((rows κ.table).map fun row ↦ columns.map row.get).Nodup
  | .reference column target =>
    (rows κ.table).all fun row ↦ (rows target).any fun row' ↦ row'.get "id" == row.get column

def violated (rows : Rows) : List Constraint :=
  Schema.constraints.filter fun κ ↦ !rows.holds κ

def refused (now : Timestamp) (rows : Rows) : List Statement → List Constraint
  | [] => []
  | s :: rest =>
    if (rows.after now s).violated = [] then refused now (rows.after now s) rest
    else (rows.after now s).violated

def stop? (now : Timestamp) (rows : Rows) : List Step → Option (Step × List Constraint)
  | [] => none
  | p :: rest =>
    if (rows.after now p.statement).violated = [] then stop? now (rows.after now p.statement) rest
    else some (p, (rows.after now p.statement).violated)

variable {now : Timestamp} {rows : Rows} {s : Statement} {κ : Constraint}

theorem after_of_insertion {table : String} (h : s.write? = some (.insertion table)) :
    rows.after now s = Function.update rows table (rows table ++ [s.stored.kept]) := by
  rw [after, h]

theorem after_of_change {table : String} (h : s.write? = some (.change table)) :
    rows.after now s = Function.update rows table
      ((rows table).map fun row ↦ if s.finds row then row.writtenBy now s else row) := by
  rw [after, h]

theorem affected_of_change {table : String} (h : s.write? = some (.change table)) :
    rows.affected s = (rows table).countP s.finds := by
  rw [affected, h]

theorem after_of_none (h : s.write? = none) : rows.after now s = rows := by
  rw [after, h]

theorem refused_cons (s : Statement) (rest : List Statement) : rows.refused now (s :: rest) =
    if (rows.after now s).violated = [] then (rows.after now s).refused now rest
    else (rows.after now s).violated := rfl

theorem refused_singleton : rows.refused now [s] = (rows.after now s).violated := by
  rw [refused_cons]
  split
  · next hkept => exact hkept.symm
  · rfl

theorem stop?_cons (p : Step) (rest : List Step) : rows.stop? now (p :: rest) =
    if (rows.after now p.statement).violated = [] then (rows.after now p.statement).stop? now rest
    else some (p, (rows.after now p.statement).violated) := rfl

theorem refused_eq_stop? (steps : List Step) :
    rows.refused now (steps.map (·.statement)) = (rows.stop? now steps).elim [] (·.2) := by
  induction steps generalizing rows with
  | nil => rfl
  | cons p rest ih =>
    by_cases h : (rows.after now p.statement).violated = []
    · rw [List.map_cons, refused_cons, stop?_cons, if_pos h, if_pos h, ih]
    · rw [List.map_cons, refused_cons, stop?_cons, if_neg h, if_neg h, Option.elim_some]

theorem mem_violated : κ ∈ rows.violated ↔ κ ∈ Schema.constraints ∧ rows.holds κ = false := by
  rw [violated, List.mem_filter, Bool.not_eq_true']

theorem violated_eq_singleton (h : ∀ κ', κ' ∈ rows.violated ↔ κ' = κ) : rows.violated = [κ] := by
  have hnodup : rows.violated.Nodup := Schema.constraints_nodup.filter _
  refine List.perm_singleton.mp ?_
  exact (List.perm_ext_iff_of_nodup hnodup (List.nodup_singleton κ)).mpr fun κ' ↦
    (h κ').trans List.mem_singleton.symm

end Rows

def Refusal.isBreach (r : Refusal) : Bool :=
  r.code == Violation.uniqueCode || r.code == Violation.referenceCode

def Constraint.message (κ : Constraint) : String :=
  match κ.form with
  | .unique _ | .primaryKey _ =>
    "duplicate key value violates unique constraint \"" ++ κ.name ++ "\""
  | .reference _ _ => "insert or update on table \"" ++ κ.table ++
    "\" violates foreign key constraint \"" ++ κ.name ++ "\""

theorem Constraint.refusal_isBreach (κ : Constraint) (message : String) :
    (κ.refusal message).isBreach = true := by
  have hcode : κ.code = Violation.uniqueCode ∨ κ.code = Violation.referenceCode := by
    rw [code]
    split <;> simp
  rcases hcode with hcode | hcode <;> simp [Refusal.isBreach, refusal, hcode]

/-- A database server that is in some state, and the rows that it shows then. -/
structure Engine (σ : Type) where
  answer : Statement → σ → Except Refusal Answer × σ
  rows : σ → Rows

namespace Engine

variable {σ α : Type}

/-- What holds of a statement in the state in which it comes: if it is carried out, no constraint is
broken, and if it is refused for one, that would be broken. It may be refused for other reasons. -/
structure Upholds (e : Engine σ) (now : Timestamp) (st : σ) (s : Statement) : Prop where
  carriedOut : ∀ a, (e.answer s st).1 = .ok a → ((e.rows st).after now s).violated = [] ∧
    a.affected = (e.rows st).affected s ∧ e.rows (e.answer s st).2 = (e.rows st).after now s
  refused : ∀ r, (e.answer s st).1 = .error r → r.isBreach = true →
    ∃ κ ∈ ((e.rows st).after now s).violated, ∃ message, r = κ.refusal message

/-- A statement is refused for constraints only. -/
def Heeds (e : Engine σ) (st : σ) (s : Statement) : Prop :=
  ∀ r, (e.answer s st).1 = .error r → r.isBreach = true

/-- Constraints are upheld, and nothing else is in the way, in the states that a server passes while
it is sent these statements, up to the first that is refused. -/
def Follows (e : Engine σ) (now : Timestamp) (st : σ) : List Statement → Prop
  | [] => True
  | s :: rest => e.Upholds now st s ∧ e.Heeds st s ∧
      ∀ a, (e.answer s st).1 = .ok a → Follows e now (e.answer s st).2 rest

def verdict (κs : List Constraint) (a : Answer) (after rows : Rows) :
    Except Refusal Answer × Rows :=
  match κs with
  | [] => (.ok a, after)
  | κ :: _ => (.error (κ.refusal κ.message), rows)

def strict (now : Timestamp) : Engine Rows where
  answer s rows := verdict (rows.after now s).violated ⟨[], rows.affected s⟩ (rows.after now s) rows
  rows := id

theorem verdict_ok {κs : List Constraint} {a b : Answer} {after rows : Rows}
    (h : (verdict κs a after rows).1 = .ok b) :
    κs = [] ∧ b = a ∧ (verdict κs a after rows).2 = after := by
  cases κs with
  | nil => cases h; exact ⟨rfl, rfl, rfl⟩
  | cons κ κs => cases h

theorem verdict_error {κs : List Constraint} {a : Answer} {after rows : Rows} {r : Refusal}
    (h : (verdict κs a after rows).1 = .error r) : ∃ κ ∈ κs, ∃ message, r = κ.refusal message := by
  cases κs with
  | nil => cases h
  | cons κ κs => cases h; exact ⟨κ, List.mem_cons_self, _, rfl⟩

variable {now : Timestamp}

theorem strict_answer (s : Statement) (rows : Rows) : (strict now).answer s rows =
    verdict (rows.after now s).violated ⟨[], rows.affected s⟩ (rows.after now s) rows := rfl

theorem strict_rows (rows : Rows) : (strict now).rows rows = rows := rfl

theorem strict_upholds (rows : Rows) (s : Statement) : (strict now).Upholds now rows s where
  carriedOut a h := by
    rw [strict_answer] at h ⊢
    obtain ⟨hkept, ha, hafter⟩ := verdict_ok h
    rw [strict_rows, strict_rows, ha]
    exact ⟨hkept, rfl, hafter⟩
  refused r h _ := by
    rw [strict_answer] at h
    exact verdict_error h

theorem strict_heeds (rows : Rows) (s : Statement) : (strict now).Heeds rows s := by
  intro r h
  rw [strict_answer] at h
  obtain ⟨κ, -, message, rfl⟩ := verdict_error h
  exact κ.refusal_isBreach message

theorem strict_follows (rows : Rows) (statements : List Statement) :
    (strict now).Follows now rows statements := by
  induction statements generalizing rows with
  | nil => trivial
  | cons s rest ih => exact ⟨strict_upholds rows s, strict_heeds rows s, fun a _ ↦ ih _⟩

variable {e : Engine σ} {s : Statement} {st : σ} {rest : List Statement}
variable {next : Except Refusal Answer → Dialogue interface α}

theorem Follows.run_ask (he : e.Follows now st (s :: rest))
    (hkept : ((e.rows st).after now s).violated = []) :
    ∃ a st', a.affected = (e.rows st).affected s ∧ e.rows st' = (e.rows st).after now s ∧
      e.Follows now st' rest ∧
      (Dialogue.ask (I := interface) s next).run e.answer st = (next (.ok a)).run e.answer st' := by
  obtain ⟨hupholds, hheeds, hrest⟩ := he
  cases hanswer : (e.answer s st).1 with
  | ok a =>
    obtain ⟨-, haffected, hrows⟩ := hupholds.carriedOut a hanswer
    refine ⟨a, (e.answer s st).2, haffected, hrows, hrest a hanswer, ?_⟩
    rw [Dialogue.run, ← hanswer]
  | error r =>
    obtain ⟨κ, hκ, -⟩ := hupholds.refused r hanswer (hheeds r hanswer)
    rw [hkept] at hκ
    cases hκ

theorem Follows.run_ask_refused (he : e.Follows now st (s :: rest))
    (hbroken : ((e.rows st).after now s).violated ≠ []) :
    ∃ κ ∈ ((e.rows st).after now s).violated, ∃ message st',
      (Dialogue.ask (I := interface) s next).run e.answer st =
        (next (.error (κ.refusal message))).run e.answer st' := by
  obtain ⟨hupholds, hheeds, -⟩ := he
  cases hanswer : (e.answer s st).1 with
  | ok a => exact absurd (hupholds.carriedOut a hanswer).1 hbroken
  | error r =>
    obtain ⟨κ, hκ, message, rfl⟩ := hupholds.refused r hanswer (hheeds r hanswer)
    refine ⟨κ, hκ, message, (e.answer s st).2, ?_⟩
    rw [Dialogue.run, ← hanswer]

/-- A query that begins with a statement goes on after it if nothing is broken. -/
theorem Follows.run_sendOr (he : e.Follows now st (s :: rest))
    (hkept : ((e.rows st).after now s).violated = []) (explain : Refusal → Fault)
    (q : Answer → Query α) :
    ∃ a st', a.affected = (e.rows st).affected s ∧
      (Query.sendOr explain s >>= q).run.run e.answer st = (q a).run.run e.answer st' := by
  obtain ⟨a, st', haffected, -, -, hrun⟩ := he.run_ask hkept
  exact ⟨a, st', haffected, hrun⟩

theorem Follows.run_sendOr_refused (he : e.Follows now st (s :: rest))
    (hbroken : ((e.rows st).after now s).violated ≠ []) (explain : Refusal → Fault)
    (q : Answer → Query α) :
    ∃ κ ∈ ((e.rows st).after now s).violated, ∃ message,
      ((Query.sendOr explain s >>= q).run.run e.answer st).1 =
        .error (explain (κ.refusal message)) := by
  obtain ⟨κ, hκ, message, st', hrun⟩ := he.run_ask_refused hbroken
  exact ⟨κ, hκ, message, congrArg Prod.fst hrun⟩

theorem run_failAfter (f : Fault) (undo : List Statement) :
    ((failAfter (α := α) f undo).run e.answer st).1 = .error f := by
  induction undo generalizing st with
  | nil => rfl
  | cons s rest ih => exact ih

/-- A sequence stops at the first step that would break something, and is refused for that. -/
theorem Follows.run_inTurn (a : α) {steps : List Step}
    (he : e.Follows now st (steps.map (·.statement))) :
    ((e.rows st).stop? now steps = none → ((inTurn a steps).run e.answer st).1 = .ok a) ∧
      ∀ p κs, (e.rows st).stop? now steps = some (p, κs) → ∃ κ ∈ κs, ∃ message,
        ((inTurn a steps).run e.answer st).1 = .error (p.explain (κ.refusal message)) := by
  induction steps generalizing st with
  | nil => exact ⟨fun _ ↦ rfl, fun p κs h ↦ nomatch h⟩
  | cons p rest ih =>
    by_cases hkept : ((e.rows st).after now p.statement).violated = []
    · obtain ⟨_, st', -, hrows, hrest, hrun⟩ := he.run_ask hkept
      have hrun : (inTurn a (p :: rest)).run e.answer st = (inTurn a rest).run e.answer st' := hrun
      rw [Rows.stop?_cons, if_pos hkept, hrun, ← hrows]
      exact ih hrest
    · rw [Rows.stop?_cons, if_neg hkept]
      refine ⟨fun h ↦ (nomatch h), fun p' κs h ↦ ?_⟩
      cases h
      obtain ⟨κ, hκ, message, st', hrun⟩ := he.run_ask_refused hkept
      exact ⟨κ, hκ, message, (congrArg Prod.fst hrun).trans (run_failAfter _ _)⟩

end Engine

end Roster.Sql
