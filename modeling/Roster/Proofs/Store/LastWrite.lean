import Roster.Proofs.Store.Integrity
import Roster.Proofs.Store.Performing

namespace Roster

open Store (Call Tables)

variable {ε α β : Type}

/-- Calls that only look, then at most one write, which satisfies `P`. The write ends the dialogue,
with a value that satisfies `Q` unless it has failed. -/
def WritesLast (P : Call → Prop) (Q : α → Prop) : Dialogue Store.interface α → Prop
  | .done _ => True
  | .ask c next =>
    (Looks c ∧ ∀ r, WritesLast P Q (next r)) ∨
      P c ∧ ∀ r, ∃ a, next r = .done a ∧ (c.Failed r ∨ Q a)

namespace WritesLast

variable {P P' : Call → Prop} {Q : α → Prop} {Q' : β → Prop} {R : α → Prop}
variable {d : Dialogue Store.interface α}

theorem of_looks (hd : d.Asks Looks R) : WritesLast P Q d := by
  induction d with
  | done a => trivial
  | ask c next ih => exact .inl ⟨hd.1, fun r ↦ ih r (hd.2 r)⟩

theorem bind_looks {f : α → Dialogue Store.interface β} (hd : d.Asks Looks R)
    (hf : ∀ a, R a → WritesLast P Q' (f a)) : WritesLast P Q' (d.bind f) := by
  induction d with
  | done a => exact hf a hd
  | ask c next ih => exact .inl ⟨hd.1, fun r ↦ ih r (hd.2 r)⟩

theorem bind_done {f : α → Dialogue Store.interface β} (hd : WritesLast P Q d)
    (hf : ∀ a, ∃ b, f a = .done b ∧ (Q a → Q' b)) : WritesLast P Q' (d.bind f) := by
  induction d with
  | done a =>
    obtain ⟨b, hb, -⟩ := hf a
    rw [Dialogue.bind, hb]
    trivial
  | ask c next ih =>
    rcases hd with ⟨hc, hnext⟩ | ⟨hc, hnext⟩
    · exact .inl ⟨hc, fun r ↦ ih r (hnext r)⟩
    · refine .inr ⟨hc, fun r ↦ ?_⟩
      obtain ⟨a, ha, hvalue⟩ := hnext r
      obtain ⟨b, hb, hQ'⟩ := hf a
      exact ⟨b, (congrArg (·.bind f) ha).trans hb, hvalue.imp_right hQ'⟩

theorem asks (hd : WritesLast P Q d) (hlook : ∀ c, Looks c → P' c) (hwrite : ∀ c, P c → P' c) :
    d.Asks P' := by
  induction d with
  | done a => trivial
  | ask c next ih =>
    rcases hd with ⟨hc, hnext⟩ | ⟨hc, hnext⟩
    · exact ⟨hlook c hc, fun r ↦ ih r (hnext r)⟩
    · refine ⟨hwrite c hc, fun r ↦ ?_⟩
      obtain ⟨a, ha, -⟩ := hnext r
      rw [ha]
      trivial

theorem run_unchanged (hd : WritesLast P Q d) {t : Tables} (ht : t.Integrity)
    (hQ : ¬ Q (d.run Tables.answer t).1) : (d.run Tables.answer t).2 = t := by
  induction d with
  | done a => rfl
  | ask c next ih =>
    rw [Dialogue.run_ask] at hQ ⊢
    rcases hd with ⟨hc, hnext⟩ | ⟨-, hnext⟩
    · rw [Tables.answer_of_not_isWrite t hc] at hQ ⊢
      exact ih _ (hnext _) hQ
    · obtain ⟨a, ha, hvalue⟩ := hnext (Tables.answer c t).1
      rw [ha, Dialogue.run_done] at hQ ⊢
      exact ht.answer_failed (hvalue.resolve_right hQ)

section Errands

variable {e : ExceptT ε (Dialogue Store.interface) α} {S : Except ε β → Prop}

theorem bind {f : α → ExceptT ε (Dialogue Store.interface) β} (he : Puts Looks e R)
    (hf : ∀ a, R a → WritesLast P S (f a).run) : WritesLast P S (e >>= f).run :=
  .bind_looks he.asks fun
    | .ok a => fun ha ↦ hf a ha
    | .error _ => fun _ ↦ trivial

theorem puts {T : Except ε α → Prop} (he : WritesLast P T e.run) (hlook : ∀ c, Looks c → P' c)
    (hwrite : ∀ c, P c → P' c) : Puts P' e :=
  ⟨(he.asks hlook hwrite).mono (fun _ ↦ id) fun r _ ↦ by cases r <;> trivial⟩

theorem ask {c : Call} (hc : P c) : WritesLast P (·.isOk = true) (Errand.ask c).run := by
  refine .inr ⟨hc, fun r ↦ ⟨r, rfl, ?_⟩⟩
  cases r with
  | error f => exact .inl (by cases c <;> trivial)
  | ok a => exact .inr rfl

/-- A write whose answer is looked at: what counts as its failure is passed on as one. -/
theorem ask_bind {c : Call} {f : c.Result → Errand β} (hc : P c)
    (hf : ∀ a, ∃ r, (f a).run = .done r ∧ (c.Failed (.ok a) ∨ r.isOk = true)) :
    WritesLast P (·.isOk = true) (Errand.ask c >>= f).run := by
  refine .inr ⟨hc, fun r ↦ ?_⟩
  cases r with
  | error x => exact ⟨.error x, rfl, .inl (by cases c <;> trivial)⟩
  | ok a => exact hf a

end Errands

theorem ownerFits {e : ExceptT ε (Dialogue Store.interface) α} {T : Except ε α → Prop}
    (he : WritesLast P T e.run) (hwrite : ∀ c, P c → c.OwnerFits) : Puts Call.OwnerFits e :=
  he.puts (fun _ ↦ Call.ownerFits_of_not_isWrite) hwrite

end WritesLast

end Roster
