import Roster.Proofs.Dialogue.Calls
import Mathlib.Logic.Function.Basic

namespace Roster

/-- Parties, each somewhere in its dialogue, and the state that answers all of them. -/
structure Assembly (I : Interface) (ι α σ : Type) where
  party : ι → Dialogue I α
  state : σ

namespace Dialogue

variable {I : Interface} {α σ : Type} (answer : (c : I.Call) → σ → I.Answer c × σ)

def advance : Dialogue I α → σ → Dialogue I α × σ
  | done a, s => (done a, s)
  | ask c next, s => (next (answer c s).1, (answer c s).2)

def isDone : Dialogue I α → Bool
  | done _ => true
  | ask .. => false

def value? : Dialogue I α → Option α
  | done a => some a
  | ask .. => none

theorem eq_done_of_value? {d : Dialogue I α} {a : α} (h : d.value? = some a) : d = done a := by
  cases d with
  | done b => exact congrArg done (Option.some.inj h)
  | ask c next => cases h

def isLast (d : Dialogue I α) (s : σ) : Bool :=
  !d.isDone && (d.advance answer s).1.isDone

def Within : Nat → Dialogue I α → Prop
  | _, done _ => True
  | 0, ask .. => False
  | n + 1, ask _ next => ∀ r, (next r).Within n

variable {answer} {P : I.Call → Prop} {Q : α → Prop} {d : Dialogue I α} {s : σ}

theorem Asks.advance (hd : d.Asks P Q) : (d.advance answer s).1.Asks P Q := by
  cases d with
  | done a => exact hd
  | ask c next => exact hd.2 _

theorem Asks.advance_keeps {J : σ → Prop} (hkeep : ∀ c s, P c → J s → J (answer c s).2)
    (hd : d.Asks P Q) (hs : J s) : J (d.advance answer s).2 := by
  cases d with
  | done a => exact hs
  | ask c next => exact hkeep c s hd.1 hs

theorem advance_of_isDone (hd : d.isDone = true) : d.advance answer s = (d, s) := by
  cases d with
  | done a => rfl
  | ask c next => cases hd

theorem isLast_of_isDone (hd : d.isDone = true) : d.isLast answer s = false := by
  rw [isLast, hd, Bool.not_true, Bool.false_and]

theorem Within.advance {n : Nat} (hd : d.Within (n + 1)) : (d.advance answer s).1.Within n := by
  cases d with
  | done a => cases n <;> trivial
  | ask c next => exact hd _

theorem Within.isDone (hd : d.Within 0) : d.isDone = true := by
  cases d with
  | done a => rfl
  | ask c next => exact hd.elim

end Dialogue

namespace Assembly

variable {I : Interface} {ι α σ : Type} [DecidableEq ι]
variable (answer : (c : I.Call) → σ → I.Answer c × σ)

def step (w : Assembly I ι α σ) (i : ι) : Assembly I ι α σ where
  party := Function.update w.party i ((w.party i).advance answer w.state).1
  state := ((w.party i).advance answer w.state).2

def run (w : Assembly I ι α σ) (schedule : List ι) : Assembly I ι α σ :=
  schedule.foldl (step answer) w

/-- The parties that put their last call, in the order in which they do. -/
def endings : Assembly I ι α σ → List ι → List ι
  | _, [] => []
  | w, i :: schedule =>
    if (w.party i).isLast answer w.state then i :: endings (w.step answer i) schedule
    else endings (w.step answer i) schedule

@[simp] theorem run_nil (w : Assembly I ι α σ) : w.run answer [] = w := rfl

@[simp] theorem run_cons (w : Assembly I ι α σ) (i : ι) (schedule : List ι) :
    w.run answer (i :: schedule) = (w.step answer i).run answer schedule := rfl

theorem run_append (w : Assembly I ι α σ) (before after : List ι) :
    w.run answer (before ++ after) = (w.run answer before).run answer after :=
  List.foldl_append ..

theorem step_party_self (w : Assembly I ι α σ) (i : ι) :
    (w.step answer i).party i = ((w.party i).advance answer w.state).1 :=
  Function.update_self ..

theorem step_party_of_ne (w : Assembly I ι α σ) {i j : ι} (h : j ≠ i) :
    (w.step answer i).party j = w.party j :=
  Function.update_of_ne h ..

variable {answer} {P : I.Call → Prop} {Q : α → Prop} {w : Assembly I ι α σ}

theorem step_asks (hw : ∀ i, (w.party i).Asks P Q) (i j : ι) :
    ((w.step answer i).party j).Asks P Q := by
  by_cases h : j = i
  · subst h
    rw [step_party_self]
    exact (hw j).advance
  · rw [step_party_of_ne answer w h]
    exact hw j

theorem step_of_isDone {i : ι} (hi : (w.party i).isDone = true) : w.step answer i = w := by
  rw [step, Dialogue.advance_of_isDone hi, Function.update_eq_self]

theorem run_party_of_isDone {i : ι} (hi : (w.party i).isDone = true) (schedule : List ι) :
    (w.run answer schedule).party i = w.party i := by
  induction schedule generalizing w with
  | nil => rfl
  | cons j schedule ih =>
    have hstep : (w.step answer j).party i = w.party i := by
      by_cases h : i = j
      · subst h
        rw [step_of_isDone hi]
      · exact step_party_of_ne answer w h
    rw [run_cons, ih (by rwa [hstep]), hstep]

/-- What every call keeps of a dialogue, every interleaving keeps of a party. -/
theorem run_party_keeps {K : Dialogue I α → Prop} (hkeep : ∀ d s, K d → K (d.advance answer s).1)
    {i : ι} (hi : K (w.party i)) (schedule : List ι) : K ((w.run answer schedule).party i) := by
  induction schedule generalizing w with
  | nil => exact hi
  | cons j schedule ih =>
    refine ih ?_
    by_cases h : i = j
    · subst h
      rw [step_party_self]
      exact hkeep _ _ hi
    · rwa [step_party_of_ne answer w h]

theorem run_party_of_not_mem {i : ι} {schedule : List ι} (hi : i ∉ schedule) :
    (w.run answer schedule).party i = w.party i := by
  induction schedule generalizing w with
  | nil => rfl
  | cons j schedule ih =>
    obtain ⟨hj, hi⟩ := List.ne_and_not_mem_of_not_mem_cons hi
    rw [run_cons, ih hi, step_party_of_ne answer w hj]

/-- A party that may put so many calls has ended when its turn has come as often. -/
theorem run_isDone_of_within {i : ι} {n : Nat} (hi : (w.party i).Within n) (schedule : List ι)
    (hcount : n ≤ schedule.count i) : ((w.run answer schedule).party i).isDone = true := by
  induction schedule generalizing w n with
  | nil =>
    rw [List.count_nil, Nat.le_zero] at hcount
    subst hcount
    exact hi.isDone
  | cons j schedule ih =>
    by_cases h : j = i
    · subst h
      rw [List.count_cons_self] at hcount
      cases n with
      | zero => rw [run_party_of_isDone hi.isDone, hi.isDone]
      | succ n =>
        refine ih ?_ (Nat.le_of_succ_le_succ hcount)
        rw [step_party_self]
        exact hi.advance
    · rw [List.count_cons_of_ne h] at hcount
      refine ih ?_ hcount
      rwa [step_party_of_ne answer w (Ne.symm h)]

/-- The parties in the list of endings are those that were open and have ended. -/
theorem mem_endings {i : ι} {schedule : List ι} :
    i ∈ endings answer w schedule ↔
      (w.party i).isDone = false ∧ ((w.run answer schedule).party i).isDone = true := by
  induction schedule generalizing w with
  | nil => simp [endings]
  | cons j schedule ih =>
    rw [endings, run_cons]
    by_cases h : i = j
    · subst h
      cases hopen : (w.party i).isDone with
      | true => simp [Dialogue.isLast_of_isDone hopen, ih, step_of_isDone hopen, hopen]
      | false =>
        cases hend : ((w.party i).advance answer w.state).1.isDone with
        | true =>
          have hstep : ((w.step answer i).party i).isDone = true := by rw [step_party_self, hend]
          simp [Dialogue.isLast, hopen, hend, run_party_of_isDone hstep, hstep]
        | false => simp [Dialogue.isLast, hopen, hend, ih, step_party_self]
    · split
      · simp [h, ih, step_party_of_ne answer w h]
      · simp [ih, step_party_of_ne answer w h]

theorem endings_append (w : Assembly I ι α σ) (before after : List ι) :
    endings answer w (before ++ after) =
      endings answer w before ++ endings answer (w.run answer before) after := by
  induction before generalizing w with
  | nil => rfl
  | cons i before ih =>
    rw [List.cons_append, endings, endings, run_cons]
    split
    · rw [ih, List.cons_append]
    · exact ih _

theorem endings_nodup (w : Assembly I ι α σ) (schedule : List ι) :
    (endings answer w schedule).Nodup := by
  induction schedule generalizing w with
  | nil => exact List.nodup_nil
  | cons i schedule ih =>
    rw [endings]
    split
    · next h =>
      refine List.nodup_cons.mpr ⟨fun hi ↦ ?_, ih _⟩
      have hopen := (mem_endings.mp hi).1
      rw [step_party_self, (Bool.and_eq_true_iff.mp h).2] at hopen
      cases hopen
    · exact ih _

theorem run_keeps {J : σ → Prop} (hkeep : ∀ c s, P c → J s → J (answer c s).2)
    (hw : ∀ i, (w.party i).Asks P Q) (hs : J w.state) (schedule : List ι) :
    J (w.run answer schedule).state := by
  induction schedule generalizing w with
  | nil => exact hs
  | cons i schedule ih => exact ih (step_asks hw i) ((hw i).advance_keeps hkeep hs)

end Assembly

end Roster
