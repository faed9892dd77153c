import Roster.Text.Pieces

namespace Roster.Text

abbrev Scan (α : Type) := StateT (List Char) Option α

namespace Scan

variable {α β : Type}

def ofFunction (f : List Char → Option (α × List Char)) : Scan α := f

def one (p : Char → Bool) : Scan Char :=
  ofFunction fun
    | [] => none
    | c :: rest => if p c then some (c, rest) else none

def char (c : Char) : Scan Unit :=
  discard (one (· == c))

def word (w : String) : Scan Unit :=
  ofFunction fun s ↦ (dropPrefix? w.toList s).map (() , ·)

def run (p : Char → Bool) : Scan (List Char) :=
  ofFunction fun s ↦ some (s.takeWhile p, s.dropWhile p)

def run₁ (p : Char → Bool) : Scan (List Char) := do
  return (← one p) :: (← run p)

def atEnd : Scan Unit :=
  ofFunction fun s ↦ if s.isEmpty then some ((), []) else none

def optional (p : Scan α) : Scan (Option α) :=
  some <$> p <|> pure none

def between (opening : Scan α) (p : Scan β) (closing : Scan α) : Scan β := do
  let _ ← opening
  let b ← p
  let _ ← closing
  return b

def times (p : Scan α) : Nat → Scan (List α)
  | 0 => pure []
  | n + 1 => do return (← p) :: (← times p n)

def upTo (p : Scan α) : Nat → Scan (List α)
  | 0 => pure []
  | n + 1 => (do return (← p) :: (← upTo p n)) <|> pure []

/-- As many as there are; each takes at least one character. -/
def many (p : Scan α) : Scan (List α) :=
  ofFunction fun s ↦ upTo p s.length s

def separated (p : Scan α) (separator : Scan β) : Scan (List α) := do
  return (← p) :: (← many (do let _ ← separator; p))

def all (p : Scan α) (s : List Char) : Option α :=
  match p s with
  | some (a, []) => some a
  | _ => none

end Scan

end Roster.Text
