import Roster.Proofs.Sql.Constraint
import Roster.Proofs.Sql.Width
import Roster.Sql.Memberships

namespace Roster.Sql

open Text (splitAll)

inductive Constraint.Form where
  | unique (columns : List String)
  | primaryKey (columns : List String)
  | reference (column table : String)
  deriving DecidableEq, Repr

structure Constraint where
  name : String
  table : String
  form : Constraint.Form
  deriving DecidableEq, Repr

namespace Constraint

def bare (word : List Char) : String :=
  String.ofList (word.filter fun c ↦ c != '(' && c != ')' && c != ',')

def bracketed : List (List Char) → List String
  | [] => []
  | word :: rest => if word.contains ')' then [bare word] else bare word :: bracketed rest

def ofWords? (table : String) : List (List Char) → Option Constraint
  | name :: ['U', 'N', 'I', 'Q', 'U', 'E'] :: columns =>
    some ⟨String.ofList name, table, .unique (bracketed columns)⟩
  | name :: ['P', 'R', 'I', 'M', 'A', 'R', 'Y'] :: _ :: columns =>
    some ⟨String.ofList name, table, .primaryKey (bracketed columns)⟩
  | name :: ['F', 'O', 'R', 'E', 'I', 'G', 'N'] :: _ :: column :: _ :: target :: _ =>
    some ⟨String.ofList name, table, .reference (bare column) (String.ofList target)⟩
  | _ => none

def keyColumn? : List (List Char) → Option String
  | [] => none
  | column :: rest =>
    match rest with
    | _ :: ['P', 'R', 'I', 'M', 'A', 'R', 'Y'] :: _ => some (String.ofList column)
    | _ => keyColumn? rest

variable (κ : Constraint)

def code : String :=
  match κ.form with
  | .unique _ | .primaryKey _ => Violation.uniqueCode
  | .reference _ _ => Violation.referenceCode

def refusal (message : String) : Refusal :=
  ⟨κ.code, message, κ.name⟩

/-- What a violation has to be told as. A reference is to a user if it points at their table. -/
def violation? : Option Violation :=
  match κ.form with
  | .unique [column] => some (.unique column)
  | .unique _ => none
  | .primaryKey _ => some .primaryKey
  | .reference _ target => some (.reference (target == "users"))

end Constraint

namespace Migration

variable (m : Migration)

def table : String :=
  String.ofList (m.words.getD 5 [])

def chunks : List (List (List Char)) :=
  splitAll (· == "CONSTRAINT".toList) m.words

/-- The constraints of the table that a step creates. A primary key that is declared with its column
has no name there and gets one from the name of the table. -/
def constraints : List Constraint :=
  (Constraint.keyColumn? (m.chunks.headD [])).toList.map
      (⟨m.table ++ "_pkey", m.table, .primaryKey [·]⟩) ++
    m.chunks.tail.filterMap (Constraint.ofWords? m.table)

variable {m}

theorem table_eq {name : String} (h : m.words.getD 5 [] = name.toList) : m.table = name := by
  rw [table, h, String.ofList_toList]

end Migration

namespace Schema

def constraints : List Constraint :=
  migrations.flatMap Migration.constraints

def idKey (table : String) : Constraint :=
  ⟨table ++ "_pkey", table, .primaryKey ["id"]⟩

def fieldKey (table field : String) : Constraint :=
  ⟨table ++ "_" ++ field ++ "_key", table, .unique [field]⟩

def pairKey (k : Kind) : Constraint :=
  ⟨Memberships.table k ++ "_pkey", Memberships.table k,
    .primaryKey ["user_id", Memberships.column k]⟩

def joinKey (k : Kind) (column target : String) : Constraint :=
  ⟨Memberships.table k ++ "_" ++ column ++ "_fkey", Memberships.table k, .reference column target⟩

def userKeys : List Constraint :=
  idKey "users" :: [User.Key.slug, .username, .email].map (fieldKey "users" ·.name)

def circleKeys (k : Kind) : List Constraint :=
  idKey k.plural :: [Circle.Key.slug, .name].map (fieldKey k.plural ·.text)

def membershipKeys (k : Kind) : List Constraint :=
  [pairKey k, joinKey k "user_id" "users", joinKey k (Memberships.column k) k.plural]

theorem users_constraints : users.constraints = userKeys := by
  have htable : users.table = "users" := by
    apply Migration.table_eq
    simp only [Migration.words, users, recordColumns, toString, String.toList_append]
    repeat rw [String.toList_ofList]
    decide
  rw [Migration.constraints, htable]
  simp only [Migration.chunks, Migration.words, users, recordColumns, toString,
    String.toList_append]
  repeat rw [String.toList_ofList]
  decide

theorem circles_constraints (version : Int) (k : Kind) :
    (circles version k.plural).constraints = circleKeys k := by
  have htable : (circles version k.plural).table = k.plural := by
    apply Migration.table_eq
    simp only [Migration.words, circles, recordColumns, toString, String.toList_append]
    cases k <;>
    · simp only [Kind.plural]
      repeat rw [String.toList_ofList]
      decide
  rw [Migration.constraints, htable]
  simp only [Migration.chunks, Migration.words, circles, recordColumns, toString,
    String.toList_append]
  cases k <;>
  · simp only [Kind.plural]
    repeat rw [String.toList_ofList]
    decide

theorem memberships_constraints (version : Int) (k : Kind) :
    (memberships version k.name k.plural).constraints = membershipKeys k := by
  have htable : (memberships version k.name k.plural).table = Memberships.table k := by
    apply Migration.table_eq
    simp only [Migration.words, memberships, recordColumns, Memberships.table, toString,
      String.toList_append]
    cases k <;>
    · simp only [Kind.name, Kind.plural]
      repeat rw [String.toList_ofList]
      decide
  rw [Migration.constraints, htable]
  simp only [Migration.chunks, Migration.words, memberships, recordColumns, Memberships.table,
    toString, String.toList_append]
  cases k <;>
  · simp only [Kind.name, Kind.plural]
    repeat rw [String.toList_ofList]
    decide

theorem constraints_eq : constraints =
    userKeys ++ Kind.all.flatMap circleKeys ++ Kind.all.flatMap membershipKeys := by
  have hmigrations : migrations = users :: (circles 2 Kind.group.plural ::
      circles 3 Kind.team.plural :: memberships 4 Kind.group.name Kind.group.plural ::
      [memberships 5 Kind.team.name Kind.team.plural]) := rfl
  rw [constraints, hmigrations]
  simp only [List.flatMap_cons, List.flatMap_nil, users_constraints, circles_constraints,
    memberships_constraints, Kind.all, List.append_assoc, List.append_nil]

-- What the steps are read as is known from here on, and no unfolding should read them again.
attribute [irreducible] constraints

theorem mem_constraints {κ : Constraint} : κ ∈ constraints ↔
    κ ∈ userKeys ∨ (∃ k, κ ∈ circleKeys k) ∨ ∃ k, κ ∈ membershipKeys k := by
  have hall (k : Kind) : k ∈ Kind.all := by cases k <;> decide
  simp only [constraints_eq, List.mem_append, List.mem_flatMap, hall, true_and, or_assoc]

theorem constraints_nodup : constraints.Nodup := by
  refine .of_map (fun κ ↦ (κ.table, κ.form)) ?_
  rw [constraints_eq]
  decide

section Classified

variable (message : String)

theorem ofRefusal?_idKey (table : String) :
    Violation.ofRefusal? ((idKey table).refusal message) = some .primaryKey :=
  Violation.ofRefusal?_primaryKey table rfl rfl

theorem ofRefusal?_fieldKey (table : String) {field : String} (hfield : '_' ∉ field.toList) :
    Violation.ofRefusal? ((fieldKey table field).refusal message) = some (.unique field) := by
  refine Violation.ofRefusal?_unique table rfl (fun c hc ↦ ?_) rfl
  exact beq_false_of_ne fun h ↦ hfield (h ▸ hc)

theorem ofRefusal?_pairKey (k : Kind) :
    Violation.ofRefusal? ((pairKey k).refusal message) = some .primaryKey :=
  Violation.ofRefusal?_primaryKey _ rfl rfl

theorem ofRefusal?_userKey (k : Kind) :
    Violation.ofRefusal? ((joinKey k "user_id" "users").refusal message) =
      some (.reference true) := by
  rw [Violation.ofRefusal?_fkey (Memberships.table k) rfl rfl, Memberships.table]
  cases k <;> decide

theorem ofRefusal?_circleKey (k : Kind) :
    Violation.ofRefusal? ((joinKey k (Memberships.column k) k.plural).refusal message) =
      some (.reference false) := by
  rw [Violation.ofRefusal?_fkey (Memberships.table k) rfl rfl, Memberships.table,
    Memberships.column]
  cases k <;> decide

theorem ofRefusal?_refusal {κ : Constraint} (hκ : κ ∈ constraints) :
    Violation.ofRefusal? (κ.refusal message) = κ.violation? := by
  rcases mem_constraints.mp hκ with hκ | ⟨k, hκ⟩ | ⟨k, hκ⟩
  · rcases List.mem_cons.mp hκ with rfl | hκ
    · exact ofRefusal?_idKey message "users"
    · obtain ⟨key, -, rfl⟩ := List.mem_map.mp hκ
      exact ofRefusal?_fieldKey message "users" (by cases key <;> decide)
  · rcases List.mem_cons.mp hκ with rfl | hκ
    · exact ofRefusal?_idKey message k.plural
    · obtain ⟨key, -, rfl⟩ := List.mem_map.mp hκ
      exact ofRefusal?_fieldKey message k.plural (by cases key <;> decide)
  · simp only [membershipKeys, List.mem_cons, List.not_mem_nil, or_false] at hκ
    rcases hκ with rfl | rfl | rfl
    · exact ofRefusal?_pairKey message k
    · exact ofRefusal?_userKey message k
    · rw [ofRefusal?_circleKey]
      cases k <;> rfl

end Classified

end Schema

end Roster.Sql
