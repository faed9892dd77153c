namespace Roster

inductive Permission where
  | user
  | admin
  | owner
  deriving DecidableEq, Repr, Inhabited

namespace Permission

def all : List Permission := [user, admin, owner]

def rank : Permission → Nat
  | user => 0
  | admin => 1
  | owner => 2

def compare (a b : Permission) : Ordering :=
  Ord.compare a.rank b.rank

def isAtLeast (a b : Permission) : Bool :=
  b.rank ≤ a.rank

def name : Permission → String
  | user => "user"
  | admin => "admin"
  | owner => "owner"

def ofName? : String → Option Permission
  | "user" => some user
  | "admin" => some admin
  | "owner" => some owner
  | _ => none

theorem ofName?_name (p : Permission) : ofName? p.name = some p := by
  cases p <;> rfl

theorem ofName?_eq_some_iff {s : String} {p : Permission} : ofName? s = some p ↔ s = p.name := by
  constructor
  · intro h
    rw [ofName?.eq_def] at h
    split at h <;> cases h <;> rfl
  · rintro rfl
    exact ofName?_name p

def unknownMessage (s : String) : String :=
  s!"invalid permission '{s}', must be one of user, admin, owner"

end Permission

end Roster
