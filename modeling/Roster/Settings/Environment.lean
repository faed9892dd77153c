import Roster.Binary64.Reading
import Roster.Settings.Value
import Roster.Text.Lowercase

namespace Roster.Settings.Environment

open Text

def integer? (s : String) : Option Int := do
  let (isNegative, digits) := match s.toList with
    | '-' :: rest => (true, rest)
    | '+' :: rest => (false, rest)
    | cs => (false, cs)
  let n ← natOfDigits? digits
  let n : Int := if isNegative then -n else n
  if Int64.minValue.toInt ≤ n && n ≤ Int64.maxValue.toInt then some n else none

/-- The value of a variable: a truth value, an integer or another number if it reads as one. -/
def value (s : String) : Value :=
  match lowercase s with
  | "true" => .bool true
  | "false" => .bool false
  | _ =>
    match integer? s, Binary64.ofText? s with
    | some n, _ => .int n
    | none, some x => .float x
    | none, none => .text s

def pointed : List Char → List Char
  | '_' :: '_' :: rest => '.' :: pointed rest
  | c :: rest => c :: pointed rest
  | [] => []

def lead : String := "app__"

def setting? (name text : String) : Option (String × Value) := do
  let key ← afterPrefix? lead (lowercase name)
  return (String.ofList (pointed key.toList), value text)

def settings (environment : List (String × String)) : Table :=
  environment.filterMap fun v ↦ setting? v.1 v.2

end Roster.Settings.Environment
