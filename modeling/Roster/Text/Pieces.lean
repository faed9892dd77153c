namespace Roster.Text

def occursIn {α : Type} [BEq α] (needle : List α) : List α → Bool
  | [] => needle.isEmpty
  | c :: rest => needle.isPrefixOf (c :: rest) || occursIn needle rest

def splitFirst {α : Type} (p : α → Bool) : List α → Option (List α × List α)
  | [] => none
  | c :: rest => if p c then some ([], rest) else (splitFirst p rest).map fun r ↦ (c :: r.1, r.2)

def splitLast {α : Type} (p : α → Bool) (l : List α) : Option (List α × List α) :=
  (splitFirst p l.reverse).map fun r ↦ (r.2.reverse, r.1.reverse)

/-- The parts between the elements that satisfy `p`; there is always at least one. -/
def splitAll {α : Type} (p : α → Bool) : List α → List (List α)
  | [] => [[]]
  | c :: rest =>
    if p c then [] :: splitAll p rest
    else match splitAll p rest with
      | [] => [[c]]
      | part :: parts => (c :: part) :: parts

def dropPrefix? {α : Type} [BEq α] : List α → List α → Option (List α)
  | [], l => some l
  | _ :: _, [] => none
  | c :: p, d :: l => if c == d then dropPrefix? p l else none

def afterPrefix? (lead s : String) : Option String :=
  (dropPrefix? lead.toList s.toList).map String.ofList

def beforeSuffix? (tail s : String) : Option String :=
  (dropPrefix? tail.toList.reverse s.toList.reverse).map fun l ↦ String.ofList l.reverse

def isDigit (c : Char) : Bool :=
  '0' ≤ c && c ≤ '9'

def isLowerAlnum (c : Char) : Bool :=
  ('a' ≤ c && c ≤ 'z') || isDigit c

def digitValue (c : Char) : Nat :=
  c.toNat - '0'.toNat

def ofDigits (cs : List Char) : Nat :=
  cs.foldl (fun n c ↦ 10 * n + digitValue c) 0

def natOfDigits? (cs : List Char) : Option Nat :=
  if cs.isEmpty || !cs.all isDigit then none else some (ofDigits cs)

def natUpTo? (bound : Nat) (s : String) : Option Nat := do
  let digits := match s.toList with
    | '+' :: rest => rest
    | all => all
  let n ← natOfDigits? digits
  if n ≤ bound then some n else none

end Roster.Text
