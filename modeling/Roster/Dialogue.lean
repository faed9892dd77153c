namespace Roster

/-- What may be asked, and the kind of answer each call gets. -/
structure Interface where
  Call : Type
  Answer : Call → Type

/-- A computation that has ended or waits for the answer to a call. -/
inductive Dialogue (I : Interface) (α : Type) where
  | done (a : α)
  | ask (c : I.Call) (next : I.Answer c → Dialogue I α)

namespace Dialogue

variable {I J : Interface} {α β σ : Type}

def bind : Dialogue I α → (α → Dialogue I β) → Dialogue I β
  | done a, f => f a
  | ask c next, f => ask c fun answer ↦ (next answer).bind f

instance : Monad (Dialogue I) where
  pure := done
  bind := bind

def call (c : I.Call) : Dialogue I (I.Answer c) :=
  ask c done

/-- Answers every call out of a state. -/
def run (answer : (c : I.Call) → σ → I.Answer c × σ) : Dialogue I α → σ → α × σ
  | done a, s => (a, s)
  | ask c next, s =>
    let (r, s) := answer c s
    (next r).run answer s

/-- Turns every call into a dialogue with another party. -/
def relay (answer : (c : I.Call) → Dialogue J (I.Answer c)) : Dialogue I α → Dialogue J α
  | done a => .done a
  | ask c next => (answer c).bind fun r ↦ (next r).relay answer

end Dialogue

end Roster
