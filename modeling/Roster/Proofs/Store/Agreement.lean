import Roster.Proofs.Store.Hashes
import Roster.Proofs.Store.Performing

namespace Roster

open Store (Call Tables)

variable {α β γ δ ε : Type}

/-- Two dialogues, run on two tables, agree on their values in a view and on what is stored but for
hashes. -/
structure Agree (view : α → γ) (d d' : Dialogue Store.interface α) (t t' : Tables) : Prop where
  value : view (d'.run Tables.answer t').1 = view (d.run Tables.answer t).1
  tables : (d'.run Tables.answer t').2.unhashed = (d.run Tables.answer t).2.unhashed

def Agrees (view : α → γ) (e e' : ExceptT ε (Dialogue Store.interface) α) : Prop :=
  ∀ t t' : Tables, t'.unhashed = t.unhashed → Agree (Except.map view) e.run e'.run t t'

def Store.Call.NamesNoUser (c : Call) : Prop :=
  c.putsUser = false ∧ c.unhash = id

theorem Store.Call.namesNoUser_of_isProbe {c : Call} (h : c.isProbe = true) : c.NamesNoUser := by
  cases c <;> first | exact ⟨rfl, rfl⟩ | cases h

variable {view : α → γ} {view' : β → δ} {t t' : Tables}

theorem Agree.bind {d d' : Dialogue Store.interface α} {f f' : α → Dialogue Store.interface β}
    (h : Agree view d d' t t')
    (hf : ∀ a a' t t', view a' = view a → t'.unhashed = t.unhashed →
      Agree view' (f a) (f' a') t t') : Agree view' (d.bind f) (d'.bind f') t t' := by
  have hrest := hf _ _ _ _ h.value h.tables
  constructor
  · rw [Dialogue.run_bind, Dialogue.run_bind]
    exact hrest.value
  · rw [Dialogue.run_bind, Dialogue.run_bind]
    exact hrest.tables

theorem Agree.done {a a' : α} (h : view a' = view a) (ht : t'.unhashed = t.unhashed) :
    Agree view (.done a) (.done a') t t' :=
  ⟨h, ht⟩

theorem result_cases {r r' : Except ε α} (h : r'.map view = r.map view) :
    (∃ x, r = .error x ∧ r' = .error x) ∨
      ∃ a a', r = .ok a ∧ r' = .ok a' ∧ view a' = view a := by
  rcases r with x | a
  · rcases r' with x' | a'
    · exact .inl ⟨x, rfl, congrArg Except.error (Except.error.inj h)⟩
    · cases h
  · rcases r' with x' | a'
    · cases h
    · exact .inr ⟨a, a', rfl, rfl, Except.ok.inj h⟩

/-- What follows a failure is the failure; what follows a value is told the value. -/
theorem Agree.andThen {e e' : ExceptT ε (Dialogue Store.interface) α}
    {f f' : α → ExceptT ε (Dialogue Store.interface) β} (h : Agree (Except.map view) e.run e'.run t t')
    (hf : ∀ a a', view a' = view a → Agrees view' (f a) (f' a')) :
    Agree (Except.map view') (e >>= f).run (e' >>= f').run t t' := by
  refine h.bind fun r r' t t' hr ht ↦ ?_
  obtain ⟨x, rfl, rfl⟩ | ⟨a, a', rfl, rfl, ha⟩ := result_cases hr
  · exact .done rfl ht
  · exact hf a a' ha t t' ht

namespace Agrees

variable {e e' : ExceptT ε (Dialogue Store.interface) α}

theorem bind {f f' : α → ExceptT ε (Dialogue Store.interface) β} (h : Agrees view e e')
    (hf : ∀ a a', view a' = view a → Agrees view' (f a) (f' a')) :
    Agrees view' (e >>= f) (e' >>= f') :=
  fun t t' ht ↦ (h t t' ht).andThen hf

theorem bind_same {f f' : α → ExceptT ε (Dialogue Store.interface) β} (h : Agrees id e e')
    (hf : ∀ a, Agrees view' (f a) (f' a)) : Agrees view' (e >>= f) (e' >>= f') := by
  refine h.bind fun a a' ha ↦ ?_
  obtain rfl : a' = a := ha
  exact hf a'

theorem pure {a a' : α} (h : view a' = view a) :
    Agrees view (pure a : ExceptT ε (Dialogue Store.interface) α) (Pure.pure a') :=
  fun _ _ ↦ .done (congrArg Except.ok h)

theorem throw (x : ε) : Agrees view (throw x : ExceptT ε (Dialogue Store.interface) α)
    (MonadExcept.throw x) :=
  fun _ _ ↦ .done rfl

/-- Errands agree if both of them come, but for hashes, to what the tables without hashes say. -/
theorem of_unhashed (g : Tables → Except ε γ × Tables)
    (h : ∀ t : Tables, g t.unhashed =
      ((e.run.run Tables.answer t).1.map view, (e.run.run Tables.answer t).2.unhashed))
    (h' : ∀ t : Tables, g t.unhashed =
      ((e'.run.run Tables.answer t).1.map view, (e'.run.run Tables.answer t).2.unhashed)) :
    Agrees view e e' := by
  intro t t' ht
  have hsame := h' t'
  rw [ht, h t] at hsame
  exact ⟨(congrArg Prod.fst hsame).symm, (congrArg Prod.snd hsame).symm⟩

theorem ask {c : Call} (hc : c.putsUser = false) : Agrees c.unhash (Errand.ask c) (Errand.ask c) :=
  .of_unhashed (Tables.answer c) (fun t ↦ t.answer_unhashed hc) fun t ↦ t.answer_unhashed hc

theorem ask_same {c : Call} (hc : c.NamesNoUser) : Agrees id (Errand.ask c) (Errand.ask c) := by
  have h := ask hc.1
  rwa [hc.2] at h

theorem createUser {u u' : User} (h : u'.unhashed = u.unhashed) :
    Agrees User.unhashed (Errand.ask (.createUser u)) (Errand.ask (.createUser u')) :=
  .of_unhashed (·.createUser u.unhashed) (·.createUser_unhashed u)
    fun t ↦ h ▸ t.createUser_unhashed u'

theorem updateUser {u u' : User} (h : u'.unhashed = u.unhashed) :
    Agrees User.unhashed (Errand.ask (.updateUser u)) (Errand.ask (.updateUser u')) :=
  .of_unhashed (·.updateUser u.unhashed) (·.updateUser_unhashed u)
    fun t ↦ h ▸ t.updateUser_unhashed u'

theorem orFail {x : Fault} {a a' : Option α} (h : a'.map view = a.map view) :
    Agrees view (Errand.orFail x a) (Errand.orFail x a') := by
  cases a with
  | none =>
    rw [Option.map_eq_none_iff.mp h]
    exact .throw x
  | some a =>
    obtain ⟨a', rfl, ha⟩ := Option.map_eq_some_iff.mp h
    exact .pure ha

theorem requireNone (errors : FieldErrors) :
    Agrees id (Errand.requireNone errors) (Errand.requireNone errors) := by
  unfold Errand.requireNone
  split
  · exact .pure rfl
  · exact .throw _

end Agrees

namespace Puts

variable {e : ExceptT ε (Dialogue Store.interface) α} {Q : α → Prop}

theorem agrees (he : Puts Call.NamesNoUser e Q) : Agrees id e e := by
  intro t t' ht
  have hcall (c : Call) (t t' : Tables) (hc : c.NamesNoUser) (ht : t'.unhashed = t.unhashed) :
      (Tables.answer c t').1 = (Tables.answer c t).1 ∧
        (Tables.answer c t').2.unhashed = (Tables.answer c t).2.unhashed := by
    obtain ⟨hvalue, htables⟩ := Agrees.ask hc.1 t t' ht
    rw [hc.2, Except.map_id] at hvalue
    exact ⟨hvalue, htables⟩
  obtain ⟨hvalue, htables⟩ :=
    he.asks.run_congr (R := fun t t' : Tables ↦ t'.unhashed = t.unhashed) hcall ht
  exact ⟨congrArg _ hvalue, htables⟩

theorem probes_agrees (he : Puts Probes e Q) : Agrees id e e :=
  (he.mono (fun _ ↦ Call.namesNoUser_of_isProbe) fun _ ↦ id).agrees

end Puts

end Roster
