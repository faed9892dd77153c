import Roster.Dialogue

namespace Roster.Dialogue

variable {I : Interface} {α β σ : Type}

theorem bind_assoc {γ : Type} (d : Dialogue I α) (f : α → Dialogue I β) (g : β → Dialogue I γ) :
    (d.bind f).bind g = d.bind fun a ↦ (f a).bind g := by
  induction d with
  | done a => rfl
  | ask c next ih =>
    simp only [bind]
    congr 1
    funext r
    exact ih r

theorem bind_done (d : Dialogue I α) : d.bind done = d := by
  induction d with
  | done a => rfl
  | ask c next ih =>
    simp only [bind]
    congr 1
    funext r
    exact ih r

theorem exists_bind_done {f : α → Dialogue I β} {R : α → β → Prop}
    (h : ∀ a, ∃ b, f a = done b ∧ R a b) (d : Dialogue I α) :
    ∃ g : α → β, d.bind f = d.bind (fun a ↦ done (g a)) ∧ ∀ a, R a (g a) := by
  obtain ⟨g, hg⟩ := Classical.axiomOfChoice h
  exact ⟨g, congrArg d.bind (funext fun a ↦ (hg a).1), fun a ↦ (hg a).2⟩

instance : LawfulMonad (Dialogue I) :=
  LawfulMonad.mk' (Dialogue I) bind_done (fun _ _ ↦ rfl) bind_assoc

variable (answer : (c : I.Call) → σ → I.Answer c × σ)

@[simp] theorem run_done (a : α) (s : σ) : (done a : Dialogue I α).run answer s = (a, s) := rfl

@[simp] theorem run_ask (c : I.Call) (next : I.Answer c → Dialogue I α) (s : σ) :
    (ask c next).run answer s = (next (answer c s).1).run answer (answer c s).2 := rfl

theorem run_bind (d : Dialogue I α) (f : α → Dialogue I β) (s : σ) :
    (d.bind f).run answer s = (f (d.run answer s).1).run answer (d.run answer s).2 := by
  induction d generalizing s with
  | done a => rfl
  | ask c next ih => exact ih _ _

variable {J : Interface}

theorem relay_bind (answer : (c : I.Call) → Dialogue J (I.Answer c)) (d : Dialogue I α)
    (f : α → Dialogue I β) :
    (d.bind f).relay answer = (d.relay answer).bind fun a ↦ (f a).relay answer := by
  induction d with
  | done a => rfl
  | ask c next ih =>
    simp only [bind, relay, bind_assoc]
    congr 1
    funext r
    exact ih r

/-- Whatever the answers are, every call that is put satisfies `P`, and the value at the end `Q`. -/
def Asks (P : I.Call → Prop) (Q : α → Prop := fun _ ↦ True) : Dialogue I α → Prop
  | done a => Q a
  | ask c next => P c ∧ ∀ r, (next r).Asks P Q

variable {answer} {P P' : I.Call → Prop} {Q Q' : α → Prop} {R : β → Prop} {d : Dialogue I α}

theorem Asks.bind {f : α → Dialogue I β} (hd : d.Asks P Q) (hf : ∀ a, Q a → (f a).Asks P R) :
    (d.bind f).Asks P R := by
  induction d with
  | done a => exact hf a hd
  | ask c next ih => exact ⟨hd.1, fun r ↦ ih r (hd.2 r)⟩

theorem Asks.mono (hd : d.Asks P Q) (hP : ∀ c, P c → P' c) (hQ : ∀ a, Q a → Q' a) :
    d.Asks P' Q' := by
  induction d with
  | done a => exact hQ a hd
  | ask c next ih => exact ⟨hP c hd.1, fun r ↦ ih r (hd.2 r)⟩

theorem Asks.run_keeps {J : σ → Prop} (hkeep : ∀ c s, P c → J s → J (answer c s).2)
    (hd : d.Asks P Q) {s : σ} (hs : J s) : J (d.run answer s).2 := by
  induction d generalizing s with
  | done a => exact hs
  | ask c next ih => exact ih _ (hd.2 _) (hkeep c s hd.1 hs)

/-- Two states that no permitted call can tell apart lead to the same value, and cannot be told apart
afterwards. -/
theorem Asks.run_congr {R : σ → σ → Prop}
    (hsame : ∀ c s s', P c → R s s' →
      (answer c s').1 = (answer c s).1 ∧ R (answer c s).2 (answer c s').2)
    (hd : d.Asks P Q) {s s' : σ} (hs : R s s') :
    (d.run answer s').1 = (d.run answer s).1 ∧ R (d.run answer s).2 (d.run answer s').2 := by
  induction d generalizing s s' with
  | done a => exact ⟨rfl, hs⟩
  | ask c next ih =>
    obtain ⟨hvalue, hs'⟩ := hsame c s s' hd.1 hs
    rw [run_ask, run_ask, hvalue]
    exact ih _ (hd.2 _) hs'

theorem Asks.trivial (d : Dialogue I α) : d.Asks fun _ ↦ True := by
  induction d with
  | done a => exact True.intro
  | ask c next ih => exact ⟨True.intro, ih⟩

/-- Who answers makes no difference to what holds of the value whatever the answers are. -/
theorem Asks.relay (hd : d.Asks P Q) (answer : (c : I.Call) → Dialogue J (I.Answer c)) :
    (d.relay answer).Asks (fun _ ↦ True) Q := by
  induction d with
  | done a => exact hd
  | ask c next ih => exact (Asks.trivial (answer c)).bind fun r _ ↦ ih r (hd.2 r)

theorem Asks.run_value (hd : d.Asks P Q) (s : σ) : Q (d.run answer s).1 := by
  induction d generalizing s with
  | done a => exact hd
  | ask c next ih => exact ih _ (hd.2 _) _

end Roster.Dialogue
