import Roster.Proofs.Sql.Statements
import Roster.Proofs.Text.Pieces
import Roster.Sql.Memberships

namespace Roster.Sql

open Text (splitAll splitAll_eq_splitOnP)

def storedCell? : Place × Option Value → Option (String × Value)
  | (.stored column, some v) => some (column, v)
  | _ => none

def comparedCell? : Place × Option Value → Option (String × Value)
  | (.compared column, some v) => some (column, v)
  | _ => none

namespace Statement

def parameters (s : Statement) : List (Place × Option Value) :=
  (places s.sql).map fun p ↦ (p.1, s.args[p.2 - 1]?)

def stored (s : Statement) : Cells :=
  s.parameters.filterMap storedCell?

def compared (s : Statement) : Cells :=
  s.parameters.filterMap comparedCell?

theorem Binds.stored_eq {s : Statement} {slots : List (Place × Value)} (h : s.Binds slots) :
    s.stored = slots.filterMap fun p ↦ storedCell? (p.1, some p.2) := by
  rw [stored, parameters, h.values, List.filterMap_map]
  rfl

theorem Binds.compared_eq {s : Statement} {slots : List (Place × Value)} (h : s.Binds slots) :
    s.compared = slots.filterMap fun p ↦ comparedCell? (p.1, some p.2) := by
  rw [compared, parameters, h.values, List.filterMap_map]
  rfl

end Statement

def clockedColumns : List (List Char) → List String
  | [] => []
  | column :: rest =>
    match rest with
    | ['='] :: value :: _ =>
      if value.takeWhile (· != ',') = ['N', 'O', 'W', '(', ')'] then
        String.ofList column :: clockedColumns rest
      else clockedColumns rest
    | _ => clockedColumns rest

def Statement.clocked (s : Statement) : List String :=
  clockedColumns (splitAll (· == ' ') s.sql.toList)

/-- What the arguments of a statement do to a row. A column that is set without an argument, as to the
time, is left as it is here. -/
def Cells.updatedBy (cells : Cells) (s : Statement) : Cells :=
  cells.map fun e ↦ (e.1, (s.stored.lookup e.1).getD e.2)

/-- A value as a column keeps it, which has times in whole microseconds. -/
def Value.kept : Value → Value
  | .time t => .time t.toMicros
  | v => v

def Cells.kept (cells : Cells) : Cells :=
  cells.map fun e ↦ (e.1, e.2.kept)

/-- A row after an update at some time: the columns that are set have an argument or the time. -/
def Cells.writtenBy (cells : Cells) (now : Timestamp) (s : Statement) : Cells :=
  let assigned := s.stored ++ s.clocked.map fun column ↦ (column, Value.time now)
  cells.map fun e ↦ (e.1, (assigned.kept.lookup e.1).getD e.2)

def Cells.under (lead : String) (cells : Cells) : Cells :=
  cells.map fun e ↦ (lead ++ e.1, e.2)

/-- The columns of a selection out of its words, each with the name that it is shown under: the one
after `AS`, or else its own without the table. -/
def shownColumns : List (List Char) → List (String × String)
  | [] => []
  | column :: ['A', 'S'] :: name :: rest =>
    (String.ofList column, String.ofList (name.takeWhile (· != ','))) :: shownColumns rest
  | column :: rest =>
    let column := column.takeWhile (· != ',')
    (String.ofList column, String.ofList ((splitAll (· == '.') column).getLastD [])) ::
      shownColumns rest

def outputs (sql : String) : List (String × String) :=
  shownColumns (((splitAll (· == ' ') sql.toList).drop 1).takeWhile (· != ['F', 'R', 'O', 'M']))

theorem splitAll_append (before after : List Char) :
    splitAll (· == ' ') (before ++ ' ' :: after) =
      splitAll (· == ' ') before ++ splitAll (· == ' ') after := by
  simp only [splitAll_eq_splitOnP]
  exact List.splitOnP_append_cons before after (by decide)

theorem outputs_select {columns : String}
    (hcolumns : ['F', 'R', 'O', 'M'] ∉ splitAll (· == ' ') columns.toList) (rest : String) :
    outputs ("SELECT " ++ (columns ++ (" FROM " ++ rest))) =
      shownColumns (splitAll (· == ' ') columns.toList) := by
  have htext : ("SELECT " ++ (columns ++ (" FROM " ++ rest))).toList =
      ['S', 'E', 'L', 'E', 'C', 'T'] ++ ' ' :: (columns.toList ++ ' ' ::
        (['F', 'R', 'O', 'M'] ++ ' ' :: rest.toList)) := by
    simp only [String.toList_append]
    repeat rw [String.toList_ofList]
    rfl
  have hwords : ∀ word ∈ splitAll (· == ' ') columns.toList,
      (word != ['F', 'R', 'O', 'M']) = true := by
    intro word hword
    exact bne_iff_ne.mpr fun h ↦ hcolumns (h ▸ hword)
  rw [outputs, htext, splitAll_append, splitAll_append, splitAll_append]
  have hselect : splitAll (· == ' ') ['S', 'E', 'L', 'E', 'C', 'T'] =
    [['S', 'E', 'L', 'E', 'C', 'T']] := by decide
  have hfrom : splitAll (· == ' ') ['F', 'R', 'O', 'M'] = [['F', 'R', 'O', 'M']] := by decide
  rw [hselect, hfrom, List.singleton_append, List.drop_one, List.tail_cons,
    List.takeWhile_append_of_pos hwords, List.singleton_append,
    List.takeWhile_cons_of_neg (by decide), List.append_nil]

def Statement.shows (s : Statement) (cells : Cells) : Cells :=
  (outputs s.sql).map fun o ↦ (o.2, cells.get o.1)

namespace Users

theorem insert_stored (u : User) : (insert u).stored =
    [("id", .text u.id.text), ("slug", .text u.slug), ("username", .text u.username),
      ("email", .text u.email), ("fullname", .text u.fullname),
      ("password_hash", .text u.passwordHash), ("active", .bool u.active), ("admin", .bool u.admin),
      ("created_at", .time u.createdAt), ("updated_at", .time u.updatedAt)] :=
  (bound.insert u).stored_eq

/-- An update finds the user by the id and stores all but that and the time of the creation. -/
theorem stored_updatedBy (old u : User) : (insert old).stored.updatedBy (replace u) =
    (insert { u with id := old.id, createdAt := old.createdAt }).stored := by
  rw [Cells.updatedBy, (bound.replace u).stored_eq, insert_stored, insert_stored]
  rfl

theorem replace_clocked (u : User) : (replace u).clocked = [] := by
  simp only [replace, Statement.clocked, Statement.sql, String.toList_append]
  repeat rw [String.toList_ofList]
  decide

theorem stored_writtenBy (old u : User) (now : Timestamp) :
    (insert old).stored.kept.writtenBy now (replace u) =
      (insert { u with id := old.id, createdAt := old.createdAt }).stored.kept := by
  rw [Cells.writtenBy, replace_clocked, (bound.replace u).stored_eq, insert_stored, insert_stored]
  rfl

theorem replace_compared (u : User) : (replace u).compared = [("id", .text u.id.text)] :=
  (bound.replace u).compared_eq

theorem outputs_columns (rest : String) :
    outputs ("SELECT " ++ (columns ++ (" FROM " ++ rest))) = columnNames.map fun n ↦ (n, n) := by
  have hcolumns : columns.toList =
      "id, slug, username, email, fullname, password_hash, active, admin, created_at, updated_at".toList :=
    rfl
  rw [String.toList_ofList] at hcolumns
  rw [outputs_select (by rw [hcolumns]; decide), hcolumns]
  decide

theorem selectWhere_shows (u : User) (condition value : String) :
    (selectWhere condition value).shows (insert u).stored = (insert u).stored := by
  have hfrom : " FROM users WHERE " = " FROM " ++ "users WHERE " := by decide
  simp only [Statement.shows, selectWhere, Statement.sql, toString, hfrom, String.append_assoc,
    outputs_columns, insert_stored]
  rfl

theorem selectPage_shows (u : User) (l : Listing) :
    (selectPage l).shows (insert u).stored = (insert u).stored := by
  have hfrom : " FROM users WHERE " = " FROM " ++ "users WHERE " := by decide
  simp only [Statement.shows, selectPage, Statement.sql, toString, hfrom, String.append_assoc,
    outputs_columns, insert_stored]
  rfl

end Users

namespace Circles

variable (k : Kind)

theorem insert_stored (c : Circle) : (insert k c).stored =
    [("id", .text c.id.text), ("slug", .text c.slug), ("name", .text c.name),
      ("created_at", .time c.createdAt), ("updated_at", .time c.updatedAt)] :=
  ((bound k).insert c).stored_eq

/-- An update finds the circle by the id and stores all but that and the time of the creation. -/
theorem stored_updatedBy (old c : Circle) : (insert k old).stored.updatedBy (replace k c) =
    (insert k { c with id := old.id, createdAt := old.createdAt }).stored := by
  rw [Cells.updatedBy, ((bound k).replace c).stored_eq, insert_stored, insert_stored]
  rfl

theorem replace_clocked (c : Circle) : (replace k c).clocked = [] := by
  simp only [replace, Statement.clocked, Statement.sql, toString, String.toList_append]
  cases k <;>
  · simp only [Kind.plural]
    repeat rw [String.toList_ofList]
    decide

theorem stored_writtenBy (old c : Circle) (now : Timestamp) :
    (insert k old).stored.kept.writtenBy now (replace k c) =
      (insert k { c with id := old.id, createdAt := old.createdAt }).stored.kept := by
  rw [Cells.writtenBy, replace_clocked, ((bound k).replace c).stored_eq, insert_stored, insert_stored]
  rfl

theorem replace_compared (c : Circle) : (replace k c).compared = [("id", .text c.id.text)] :=
  ((bound k).replace c).compared_eq

theorem outputs_columns (rest : String) :
    outputs ("SELECT " ++ (columns ++ (" FROM " ++ rest))) = columnNames.map fun n ↦ (n, n) := by
  have hcolumns : columns.toList = "id, slug, name, created_at, updated_at".toList := rfl
  rw [String.toList_ofList] at hcolumns
  rw [outputs_select (by rw [hcolumns]; decide), hcolumns]
  decide

theorem selectWhere_shows (c : Circle) (condition value : String) :
    (selectWhere k condition value).shows (insert k c).stored = (insert k c).stored := by
  simp only [Statement.shows, selectWhere, Statement.sql, toString, String.append_assoc,
    outputs_columns, insert_stored]
  rfl

theorem selectPage_shows (c : Circle) (l : Listing) :
    (selectPage k l).shows (insert k c).stored = (insert k c).stored := by
  simp only [Statement.shows, selectPage, Statement.sql, toString, String.append_assoc,
    outputs_columns, insert_stored]
  rfl

end Circles

namespace Memberships

variable (k : Kind)

theorem insert_stored (m : Membership) : (Circles.insertMembership k m).stored =
    [("user_id", .text m.userId.text), (column k, .text m.circleId.text),
      ("perm", .text m.permission.name), ("created_at", .time m.createdAt),
      ("updated_at", .time m.updatedAt)] :=
  ((bound k).insert m).stored_eq

/-- An update finds the membership by its pair. The time of the change is none of the arguments. -/
theorem stored_updatedBy (m : Membership) (user : UserId) (circle : CircleId) (p : Permission) :
    (Circles.insertMembership k m).stored.updatedBy (setPermission k user circle p) =
      (Circles.insertMembership k { m with permission := p }).stored := by
  rw [Cells.updatedBy, ((bound k).setPermission user circle p).stored_eq, insert_stored,
    insert_stored]
  cases k <;> rfl

theorem setPermission_clocked (user : UserId) (circle : CircleId) (p : Permission) :
    (setPermission k user circle p).clocked = ["updated_at"] := by
  simp only [setPermission, table, column, Statement.clocked, Statement.sql, toString,
    String.toList_append]
  cases k <;>
  · simp only [Kind.plural, Kind.name]
    repeat rw [String.toList_ofList]
    decide

/-- The time of the change is the time at which the statement is carried out. -/
theorem stored_writtenBy (m : Membership) (user : UserId) (circle : CircleId) (p : Permission)
    (now : Timestamp) :
    (Circles.insertMembership k m).stored.kept.writtenBy now (setPermission k user circle p) =
      (Circles.insertMembership k { m with permission := p, updatedAt := now }).stored.kept := by
  rw [Cells.writtenBy, setPermission_clocked, ((bound k).setPermission user circle p).stored_eq, insert_stored,
    insert_stored]
  cases k <;> rfl

theorem setPermission_compared (user : UserId) (circle : CircleId) (p : Permission) :
    (setPermission k user circle p).compared =
      [("user_id", .text user.text), (column k, .text circle.text)] :=
  ((bound k).setPermission user circle p).compared_eq

def shownCells (m : Membership) : Cells :=
  [("user_id", .text m.userId.text), ("container_id", .text m.circleId.text),
    ("perm", .text m.permission.name), ("m_created_at", .time m.createdAt),
    ("m_updated_at", .time m.updatedAt)]

theorem selectPair_shows (m : Membership) (user : UserId) (circle : CircleId) :
    (selectPair k user circle).shows (Circles.insertMembership k m).stored = shownCells m := by
  have houtputs : outputs (selectPair k user circle).sql =
      [("user_id", "user_id"), (column k, "container_id"), ("perm", "perm"),
        ("created_at", "m_created_at"), ("updated_at", "m_updated_at")] := by
    simp only [selectPair, Statement.sql, toString, outputs, String.toList_append, column, table]
    cases k <;>
    · simp only [Kind.name, Kind.plural]
      repeat rw [String.toList_ofList]
      decide
  rw [Statement.shows, houtputs, insert_stored]
  cases k <;> rfl

def storedCells (m : Member) : Cells :=
  .of "m" (Circles.insertMembership k m.membership).stored ++ .of "u" (Users.insert m.user).stored ++
    .of "c" (Circles.insert k m.circle).stored

def memberCells (m : Member) : Cells :=
  shownCells m.membership ++ (Users.insert m.user).stored.under "u_" ++
    (Circles.insert k m.circle).stored.under "c_"

def joinedOutputs : List (String × String) :=
  [("m.user_id", "user_id"), ("m." ++ column k, "container_id"), ("m.perm", "perm"),
    ("m.created_at", "m_created_at"), ("m.updated_at", "m_updated_at")] ++
    Users.columnNames.map (fun n ↦ ("u." ++ n, "u_" ++ n)) ++
    Circles.columnNames.map (fun n ↦ ("c." ++ n, "c_" ++ n))

theorem outputs_joinedColumns (rest : String) :
    outputs ("SELECT " ++ (joinedColumns k ++ (" FROM " ++ rest))) = joinedOutputs k := by
  have houtputs : ['F', 'R', 'O', 'M'] ∉ splitAll (· == ' ') (joinedColumns k).toList ∧
      shownColumns (splitAll (· == ' ') (joinedColumns k).toList) = joinedOutputs k := by
    delta joinedColumns
    simp only [toString, String.toList_append, column]
    cases k <;>
    · simp only [Kind.name]
      repeat rw [String.toList_ofList]
      decide
  rw [outputs_select houtputs.1, houtputs.2]

theorem selectPage_shows (m : Member) (v : View) (id : String) (l : Listing) :
    (selectPage k v id l).shows (storedCells k m) = memberCells k m := by
  have hfrom (s : String) : " " ++ ("FROM " ++ s) = " FROM " ++ s := by
    rw [← String.append_assoc]
    rfl
  simp only [Statement.shows, selectPage, joined, Statement.sql, toString, String.append_assoc, hfrom,
    outputs_joinedColumns, storedCells, memberCells, insert_stored, Users.insert_stored,
    Circles.insert_stored]
  cases k <;> rfl

end Memberships

end Roster.Sql
