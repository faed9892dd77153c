import Roster.Proofs.Accounts.Calls
import Roster.Proofs.Dialogue.Interleaving
import Roster.Proofs.Store.Runs

namespace Roster.Accounts

open Store (Call Table Tables)

inductive Field where
  | username
  | slug
  | email
  | fullname
  | password
  | active
  | admin
  deriving DecidableEq, Repr

def Change.Keeps (c : Change) : Field → Prop
  | .username => c.username = none
  | .slug => c.slug = none
  | .email => c.email = none
  | .fullname => c.fullname = none
  | .password => c.password? = none
  | .active => c.active = none
  | .admin => c.admin = none

def Field.get (u : User) : Field → String ⊕ Bool
  | .username => .inl u.username
  | .slug => .inl u.slug
  | .email => .inl u.email
  | .fullname => .inl u.fullname
  | .password => .inl u.passwordHash
  | .active => .inr u.active
  | .admin => .inr u.admin

variable {h : Hasher} {f : Fresh} {c : Change} {u v : User} {t : Tables}

theorem Applies.get_eq (hv : Applies h f c u v) {field : Field} (hfield : c.Keeps field) :
    field.get v = field.get u := by
  cases field with
  | username => rw [Field.get, hv.username, hfield, Option.getD_none, Field.get]
  | slug =>
    have hslug := hv.slug
    rw [hfield] at hslug
    exact congrArg Sum.inl hslug
  | email => rw [Field.get, hv.email, hfield, Option.getD_none, Field.get]
  | fullname => rw [Field.get, hv.fullname, hfield, Option.getD_none, Field.get]
  | password =>
    have hpassword := hv.password
    rw [hfield] at hpassword
    exact congrArg Sum.inl hpassword
  | active => rw [Field.get, hv.active, hfield, Option.getD_none, Field.get]
  | admin => rw [Field.get, hv.admin, hfield, Option.getD_none, Field.get]

def Change.Apart (c c' : Change) : Prop :=
  ∀ field, c.Keeps field ∨ c'.Keeps field

/-- A change of what another change has led to keeps what it does not set itself. -/
theorem Applies.kept_iff {c₁ c₂ : Change} {v₁ v₂ : User} (hv : Applies h f c₂ u v₂)
    (hapart : c₁.Apart c₂) :
    (∀ field, ¬ c₁.Keeps field → field.get v₂ = field.get v₁) ↔
      ∀ field, ¬ c₁.Keeps field → field.get v₁ = field.get u := by
  refine forall₂_congr fun field hfield ↦ ?_
  rw [hv.get_eq ((hapart field).resolve_left hfield)]
  exact eq_comm

structure Edit where
  fresh : Fresh
  reference : String
  change : Change

namespace Edit

def operation (h : Hasher) (x : Edit) : Dialogue Store.interface (Except Fault User) :=
  (update h x.fresh x.reference x.change).run

def revise (h : Hasher) (x : Edit) (u : User) : Dialogue Store.interface (Except Fault User) :=
  (revision h x.fresh x.change u >>= fun v ↦ Errand.ask (.updateUser v)).run

end Edit

/-- A dialogue that only reads until it writes one user, unless it fails. -/
inductive WritesOne (P : User → Prop) : Dialogue Store.interface (Except Fault User) → Prop
  | failed (x : Fault) : WritesOne P (.done (.error x))
  | reads {c : Call} {next} (hc : Reads c) (hnext : ∀ r, WritesOne P (next r)) :
    WritesOne P (.ask c next)
  | writes {v : User} (hv : P v) : WritesOne P (.ask (.updateUser v) .done)

inductive Progress (P : User → Prop) (d : Dialogue Store.interface (Except Fault User)) : Prop
  | underway (hd : WritesOne P d)
  | wrote {v : User} (hv : P v) (hd : d = .done (.ok v))

def written? (d : Dialogue Store.interface (Except Fault User)) : Option User :=
  d.value?.bind Except.toOption

def putting (t : Tables) (us : List User) : Tables :=
  { t with users := us.foldl (fun x v ↦ x.insert v.id.text v) t.users }

theorem get?_putting (t : Tables) (us : List User) (v : User) :
    (putting t (us ++ [v])).users.get? v.id.text = some v := by
  simp only [putting, List.foldl_append, List.foldl_cons, List.foldl_nil, Table.get?_insert,
    if_pos]

section

variable {α : Type} {P : User → Prop} {Q : α → Prop}
variable {d : Dialogue Store.interface (Except Fault User)}

namespace WritesOne

theorem of_reads {d : Dialogue Store.interface α} (hd : d.Asks Reads Q)
    {next : α → Dialogue Store.interface (Except Fault User)}
    (hnext : ∀ a, Q a → WritesOne P (next a)) : WritesOne P (d.bind next) := by
  induction d with
  | done a => exact hnext a hd
  | ask c next ih => exact .reads hd.1 fun r ↦ ih r (hd.2 r)

theorem of_puts {e : Errand User} (he : Puts Reads e P) :
    WritesOne P (e >>= fun v ↦ Errand.ask (.updateUser v)).run := by
  refine of_reads he.asks fun r hr ↦ ?_
  cases r with
  | error x => exact .failed x
  | ok v => exact .writes hr

theorem written?_eq_none (hd : WritesOne P d) : written? d = none := by
  cases hd <;> rfl

theorem advance (hd : WritesOne P d) (t : Tables) :
    WritesOne P (d.advance Tables.answer t).1 ∧ (d.advance Tables.answer t).2 = t ∨
      ∃ v, P v ∧ d.isLast Tables.answer t = true ∧
        d.advance Tables.answer t = (.done (.ok v), putting t [v]) := by
  cases hd with
  | failed x => exact .inl ⟨.failed x, rfl⟩
  | reads hc hnext =>
    exact .inl ⟨hnext _, Tables.answer_of_not_isWrite t (Call.isWrite_of_readsRecords hc)⟩
  | @writes v hv =>
    rcases t.updateUser_cases v with ⟨x, hx⟩ | ⟨-, -, hx⟩
    · simp only [Dialogue.advance, Tables.answer, hx]
      exact .inl ⟨.failed x, trivial⟩
    · simp only [Dialogue.isLast, Dialogue.advance, Tables.answer, hx]
      exact .inr ⟨v, hv, rfl, rfl⟩

end WritesOne

theorem Progress.advance (hd : Progress P d) (t : Tables) :
    Progress P (d.advance Tables.answer t).1 := by
  cases hd with
  | underway hd =>
    rcases hd.advance t with ⟨hd, -⟩ | ⟨v, hv, -, heq⟩
    · exact .underway hd
    · exact .wrote hv (by rw [heq])
  | wrote hv hd =>
    subst hd
    exact .wrote hv rfl

theorem Progress.written? (hd : Progress P d) (hv : written? d = some v) : P v := by
  cases hd with
  | underway hd =>
    rw [hd.written?_eq_none] at hv
    cases hv
  | wrote hu hd =>
    subst hd
    cases hv
    exact hu

end

section

variable {ι : Type} [DecidableEq ι] {P : User → Prop}

abbrev Edits (ι : Type) := Assembly Store.interface ι (Except Fault User) Tables

variable {w : Edits ι}

def writes (w : Edits ι) (schedule : List ι) : List User :=
  (w.endings Tables.answer schedule).filterMap fun i ↦
    written? ((w.run Tables.answer schedule).party i)

theorem writes_cons (w : Edits ι) (i : ι) (schedule : List ι) :
    writes w (i :: schedule) =
      if (w.party i).isLast Tables.answer w.state then
        (written? ((w.party i).advance Tables.answer w.state).1).toList ++
          writes (w.step Tables.answer i) schedule
      else writes (w.step Tables.answer i) schedule := by
  rw [writes, Assembly.endings]
  split
  · next hlast =>
    have hself := Assembly.step_party_self Tables.answer w i
    have hend : ((w.step Tables.answer i).party i).isDone = true := by
      rw [hself]
      exact (Bool.and_eq_true_iff.mp hlast).2
    rw [Assembly.run_cons, List.filterMap_cons, Assembly.run_party_of_isDone hend, hself, writes]
    cases written? ((w.party i).advance Tables.answer w.state).1 <;> rfl
  · rfl

/-- Updates leave the users that they write, each in the place of the one with its id. -/
theorem run_state (hw : ∀ i, Progress P (w.party i)) (schedule : List ι) :
    (w.run Tables.answer schedule).state = putting w.state (writes w schedule) := by
  induction schedule generalizing w with
  | nil => rfl
  | cons i schedule ih =>
    have hstep : ∀ j, Progress P ((w.step Tables.answer i).party j) := by
      intro j
      exact Assembly.run_party_keeps (fun _ t hd ↦ hd.advance t) (hw j) [i]
    have hstate : (w.step Tables.answer i).state =
        ((w.party i).advance Tables.answer w.state).2 := rfl
    rw [Assembly.run_cons, ih hstep, hstate, writes_cons]
    cases hw i with
    | wrote hv hd =>
      rw [hd]
      rfl
    | underway hd =>
      rcases hd.advance w.state with ⟨hnext, hsame⟩ | ⟨v, -, hlast, hput⟩
      · rw [hsame, hnext.written?_eq_none]
        split <;> rfl
      · rw [if_pos hlast, hput]
        rfl

end

section

variable {ι : Type} [DecidableEq ι]

namespace Edit

def start (h : Hasher) (edit : ι → Edit) (t : Tables) : Edits ι :=
  ⟨fun i ↦ (edit i).operation h, t⟩

theorem operation_eq (h : Hasher) (x : Edit) :
    x.operation h = .ask (.findUser x.reference) fun
      | .ok (some u) => x.revise h u
      | .ok none => .done (.error (.userNotFound x.reference))
      | .error e => .done (.error e) := by
  refine congrArg (Dialogue.ask (I := Store.interface) (.findUser x.reference)) (funext fun r ↦ ?_)
  rcases r with e | _ | u <;> rfl

theorem revise_writesOne (h : Hasher) (x : Edit) (u : User) :
    WritesOne (Applies h x.fresh x.change u) (x.revise h u) :=
  .of_puts (revision_applies h x.fresh x.change u).reads

theorem operation_writesOne (h : Hasher) (x : Edit) : WritesOne (fun _ ↦ True) (x.operation h) := by
  rw [operation_eq]
  refine .reads rfl fun r ↦ ?_
  rcases r with e | _ | u
  · exact .failed e
  · exact .failed _
  · exact .of_puts ((revision_applies h x.fresh x.change u).reads.mono (fun _ ↦ id) fun _ _ ↦ trivial)

end Edit

variable {h : Hasher} {edit : ι → Edit} {t : Tables} {schedule : List ι} {i : ι} {v : User}

omit [DecidableEq ι] in
theorem start_isOpen (i : ι) : ((Edit.start h edit t).party i).isDone = false := by
  have hstart : (Edit.start h edit t).party i = (edit i).operation h := rfl
  rw [hstart, Edit.operation_eq, Dialogue.isDone]

theorem mem_endings_start : i ∈ (Edit.start h edit t).endings Tables.answer schedule ↔
    (((Edit.start h edit t).run Tables.answer schedule).party i).isDone = true := by
  rw [Assembly.mem_endings, start_isOpen, and_iff_right rfl]

theorem isOpen_of_not_mem (hi : i ∉ schedule) :
    (((Edit.start h edit t).run Tables.answer schedule).party i).isDone = false := by
  rw [Assembly.run_party_of_not_mem hi, start_isOpen]

theorem start_state (schedule : List ι) :
    ((Edit.start h edit t).run Tables.answer schedule).state =
      putting t (writes (Edit.start h edit t) schedule) :=
  run_state (fun i ↦ .underway ((edit i).operation_writesOne h)) schedule

/-- An update that has succeeded wrote a change of the record that it found at its first call. -/
theorem exists_found
    (hv : ((Edit.start h edit t).run Tables.answer schedule).party i = .done (.ok v)) :
    ∃ before after u, schedule = before ++ i :: after ∧ i ∉ before ∧
      ((Edit.start h edit t).run Tables.answer before).state.findUser (edit i).reference = some u ∧
      Applies h (edit i).fresh (edit i).change u v := by
  have hstart : (Edit.start h edit t).party i = (edit i).operation h := rfl
  have hmem : i ∈ schedule := by
    by_contra hi
    rw [Assembly.run_party_of_not_mem hi, hstart, Edit.operation_eq] at hv
    cases hv
  obtain ⟨before, after, rfl, hi⟩ := List.eq_append_cons_of_mem hmem
  refine ⟨before, after, ?_⟩
  rw [Assembly.run_append, Assembly.run_cons] at hv
  generalize hw : (Edit.start h edit t).run Tables.answer before = w at hv ⊢
  have hparty : w.party i = (edit i).operation h := by
    rw [← hw, Assembly.run_party_of_not_mem hi, hstart]
  have hself := Assembly.step_party_self Tables.answer w i
  rw [hparty, Edit.operation_eq] at hself
  cases hfind : w.state.findUser (edit i).reference with
  | none =>
    have hself : (w.step Tables.answer i).party i =
        .done (.error (.userNotFound (edit i).reference)) := by
      rw [hself, Dialogue.advance, Tables.answer, hfind]
    rw [Assembly.run_party_of_isDone (by rw [hself]; rfl), hself] at hv
    cases hv
  | some u =>
    have hself : (w.step Tables.answer i).party i = (edit i).revise h u := by
      rw [hself, Dialogue.advance, Tables.answer, hfind]
    have hrest : Progress (Applies h (edit i).fresh (edit i).change u)
        ((w.step Tables.answer i).party i) := by
      rw [hself]
      exact .underway ((edit i).revise_writesOne h u)
    have hend := Assembly.run_party_keeps (fun _ t hd ↦ hd.advance t) hrest after
    exact ⟨u, rfl, hi, rfl, hend.written? (by rw [hv]; rfl)⟩

theorem found_stored (ht : t.Reachable) {before : List ι} {reference : String}
    (hu : ((Edit.start h edit t).run Tables.answer before).state.findUser reference = some u) :
    (putting t (writes (Edit.start h edit t) before)).users.get? u.id.text = some u := by
  have hreach : ((Edit.start h edit t).run Tables.answer before).state.Reachable :=
    ht.interleave (fun i ↦ (update_ownerFits ..).asks.mono (fun _ ↦ id) fun _ _ ↦ trivial) before
  rw [← start_state]
  exact Tables.findUser_stored hreach.integrity.users_sound hu

end

theorem eq_nil_or_singleton {order : List Bool} (hnodup : order.Nodup) {i : Bool}
    (hi : i ∉ order) : order = [] ∨ order = [!i] := by
  rcases order with _ | ⟨a, _ | ⟨b, order⟩⟩
  · exact .inl rfl
  · cases a <;> cases i <;> simp at hi ⊢
  · cases a <;> cases b <;> cases i <;> simp at hi hnodup

theorem exists_last {order : List Bool} (hnodup : order.Nodup) (hall : ∀ i, i ∈ order) :
    ∃ last, order = [!last, last] := by
  obtain ⟨first, rest, rfl⟩ := List.exists_cons_of_ne_nil (List.ne_nil_of_mem (hall true))
  obtain ⟨hfirst, hrest⟩ := List.nodup_cons.mp hnodup
  have hother := (List.mem_cons.mp (hall !first)).resolve_left (by cases first <;> decide)
  rcases eq_nil_or_singleton hrest hfirst with rfl | rfl
  · cases hother
  · exact ⟨!first, by rw [Bool.not_not]⟩

section

variable {edit : Bool → Edit} {before after : List Bool} {last : Bool} {w : Bool → User}

/-- What has been written by the time an update begins: nothing, or what the other one wrote. -/
theorem writes_before (hw : ∀ i,
      ((Edit.start h edit t).run Tables.answer (before ++ after)).party i = .done (.ok (w i)))
    {i : Bool} (hi : i ∉ before) :
    writes (Edit.start h edit t) before =
      if (((Edit.start h edit t).run Tables.answer before).party !i).isDone then [w !i] else [] := by
  generalize hstart : Edit.start h edit t = start at hw ⊢
  have hopen : i ∉ start.endings Tables.answer before := by
    rw [← hstart, mem_endings_start, isOpen_of_not_mem hi]
    exact Bool.false_ne_true
  have hother : (!i) ∈ start.endings Tables.answer before ↔
      ((start.run Tables.answer before).party !i).isDone = true := by
    rw [← hstart, mem_endings_start]
  have hendings : start.endings Tables.answer before =
      if ((start.run Tables.answer before).party !i).isDone then [!i] else [] := by
    rcases eq_nil_or_singleton (Assembly.endings_nodup start before) hopen with hnil | hone
    · rw [hnil] at hother ⊢
      rw [if_neg fun h ↦ List.not_mem_nil (hother.mpr h)]
    · rw [hone] at hother ⊢
      rw [if_pos (hother.mp List.mem_cons_self)]
  rw [writes, hendings]
  split
  · next hdone =>
    have hend := hw !i
    rw [Assembly.run_append, Assembly.run_party_of_isDone hdone] at hend
    rw [List.filterMap_cons, hend]
    rfl
  · rfl

theorem isOpen_before
    (hlast : (Edit.start h edit t).endings Tables.answer (before ++ after) = [!last, last])
    (hfirst : (!last) ∉ before) :
    (((Edit.start h edit t).run Tables.answer before).party last).isDone = false := by
  by_contra hdone
  have hmem := mem_endings_start.mpr (Bool.not_eq_false _ ▸ hdone)
  have hfirst : (!last) ∉ (Edit.start h edit t).endings Tables.answer before := by
    rw [mem_endings_start, isOpen_of_not_mem hfirst]
    exact Bool.false_ne_true
  rw [Assembly.endings_append] at hlast
  cases hendings : (Edit.start h edit t).endings Tables.answer before with
  | nil =>
    rw [hendings] at hmem
    cases hmem
  | cons i rest =>
    rw [hendings, List.cons_append, List.cons.injEq] at hlast
    rw [hendings, hlast.1] at hfirst
    exact hfirst List.mem_cons_self

end

/-- Of two updates that both succeed, the record that is left is what the last one wrote. It changed
what the first had left if the first had ended before; otherwise it changed the same record as the
first did, and keeps nothing of the first but what made no difference. -/
theorem both_updates_kept_iff (ht : t.Reachable) (h : Hasher) (edit : Bool → Edit)
    (schedule : List Bool) (hu : u ∈ t.users.values) (v : Bool → User)
    (hv : ∀ i, ((Edit.start h edit t).run Tables.answer schedule).party i = .done (.ok (v i)))
    (hid : ∀ i, (v i).id = u.id) (hapart : (edit false).change.Apart (edit true).change) :
    let start := Edit.start h edit t
    ∃ last before, before ++ [last] <+: schedule ∧ last ∉ before ∧
      let hasEnded := ((start.run Tables.answer before).party !last).isDone
      (start.run Tables.answer schedule).state.users.get? u.id.text = some (v last) ∧
      Applies h (edit !last).fresh (edit !last).change u (v !last) ∧
      Applies h (edit last).fresh (edit last).change (if hasEnded then v !last else u) (v last) ∧
      ((∀ i field, ¬ (edit i).change.Keeps field → field.get (v last) = field.get (v i)) ↔
        hasEnded = true ∨
          ∀ field, ¬ (edit !last).change.Keeps field → field.get (v !last) = field.get u) := by
  intro start
  have hstart : Edit.start h edit t = start := rfl
  have hopen (i : Bool) : i ∈ start.endings Tables.answer schedule := by
    rw [← hstart, mem_endings_start, hv]
    rfl
  obtain ⟨last, hlast⟩ := exists_last (Assembly.endings_nodup start schedule) hopen
  have hstored : (start.run Tables.answer schedule).state.users.get? u.id.text = some (v last) := by
    rw [start_state, writes, hlast, List.filterMap_cons, List.filterMap_cons, hv, hv]
    rw [← hid last]
    exact get?_putting t [v !last] (v last)
  obtain ⟨before, after, u₂, hschedule, hbefore, hfind₂, hlater⟩ := exists_found (hv last)
  obtain ⟨before', after', u₁, hschedule', hbefore', hfind₁, hfirst⟩ := exists_found (hv !last)
  have hwrites := writes_before (fun i ↦ hschedule ▸ hv i) hbefore
  have hwrites' := writes_before (fun i ↦ hschedule' ▸ hv i) hbefore'
  rw [Bool.not_not, isOpen_before (hschedule' ▸ hlast) hbefore'] at hwrites'
  -- Both found the record under the id of `u`, each in what had been written before it.
  have hu := ht.integrity.users_sound.mem_values.mp hu
  have hu₁ : u₁ = u := by
    have hstored₁ := found_stored ht hfind₁
    rw [hwrites', ← hfirst.id, hid] at hstored₁
    exact Option.some.inj (hstored₁.symm.trans hu)
  have hu₂ : u₂ = if ((start.run Tables.answer before).party !last).isDone then v !last else u := by
    have hstored₂ := found_stored ht hfind₂
    rw [hwrites, ← hlater.id, hid] at hstored₂
    split
    · next hended =>
      rw [if_pos hended, ← hid !last] at hstored₂
      exact Option.some.inj (hstored₂.symm.trans (get?_putting t [] (v !last)))
    · next hopen =>
      rw [if_neg hopen] at hstored₂
      exact Option.some.inj (hstored₂.symm.trans hu)
  subst hu₁ hu₂
  refine ⟨last, before, ⟨after, by rw [hschedule, List.append_assoc]; rfl⟩, hbefore, hstored, hfirst,
    hlater, ?_⟩
  have hapart : (edit !last).change.Apart (edit last).change := by
    cases last with
    | true => exact hapart
    | false => exact fun field ↦ (hapart field).symm
  have hlast : (∀ i field, ¬ (edit i).change.Keeps field → field.get (v last) = field.get (v i)) ↔
      ∀ field, ¬ (edit !last).change.Keeps field → field.get (v last) = field.get (v !last) := by
    refine ⟨fun hall ↦ hall !last, fun hfirst i ↦ ?_⟩
    by_cases hi : i = last
    · subst hi
      exact fun _ _ ↦ rfl
    · rwa [Bool.eq_not.mpr hi]
  rw [hlast, hlater.kept_iff hapart]
  split
  · next hended => exact iff_of_true (fun _ _ ↦ rfl) (.inl hended)
  · next hopen => exact (or_iff_right hopen).symm

theorem both_updates_kept_in_sequence :
    let h : Hasher := ⟨.ok, (· == ·)⟩
    let u : User := .new ⟨"u", by decide⟩ ⟨0, 0⟩ "ada" "ada@example.org" ""
    let t := Tables.empty.after [.createUser u]
    let f : Fresh := ⟨⟨1, 0⟩, ⟨"v", by decide⟩, ⟨"g", by decide⟩, []⟩
    let edit (i : Bool) : Edit :=
      ⟨f, "ada", if i then { active := some false } else { fullname := some "Ada" }⟩
    let v (i : Bool) : User :=
      { u with active := false, fullname := if i then "" else "Ada", updatedAt := ⟨1, 0⟩ }
    let start := Edit.start h edit t
    let schedule := [true, true, true, true, true, false, false, false, false, false]
    t.Reachable ∧ (∀ i, ((start.run Tables.answer schedule).party i).value? = some (.ok (v i))) ∧
      ∃ last, (start.run Tables.answer schedule).state.users.get? "u" = some (v last) ∧
        Applies h f (edit !last).change u (v !last) := by
  intro h u t f edit v start schedule
  have ht : t.Reachable := ⟨[.createUser u], by simp [Call.OwnerFits], rfl⟩
  have hv (i : Bool) : ((start.run Tables.answer schedule).party i).value? = some (.ok (v i)) := by
    cases i <;> decide
  have hapart : (edit false).change.Apart (edit true).change := by
    intro field
    cases field with
    | fullname => exact .inr rfl
    | _ => exact .inl rfl
  have hu : u ∈ t.users.values := List.mem_cons_self
  obtain ⟨last, -, -, -, hstored, hfirst, -, -⟩ := both_updates_kept_iff ht h edit schedule hu v
    (fun i ↦ Dialogue.eq_done_of_value? (hv i)) (fun _ ↦ rfl) hapart
  exact ⟨ht, hv, last, hstored, hfirst⟩

theorem profile_update_reactivates :
    let h : Hasher := ⟨.ok, (· == ·)⟩
    let u : User := .new ⟨"u", by decide⟩ ⟨0, 0⟩ "ada" "ada@example.org" ""
    let t := Tables.empty.after [.createUser u]
    let f : Fresh := ⟨⟨1, 0⟩, ⟨"v", by decide⟩, ⟨"g", by decide⟩, []⟩
    let profile : Change := Change.forProfile { fullname := some "Ada", active := some true }
    let edit (i : Bool) : Edit := ⟨f, "ada", if i then { active := some false } else profile⟩
    let deactivated : User := { u with active := false, updatedAt := ⟨1, 0⟩ }
    let renamed : User := { u with fullname := "Ada", updatedAt := ⟨1, 0⟩ }
    let w := (Edit.start h edit t).run Tables.answer
      [false, true, true, true, true, true, false, false, false, false]
    t.Reachable ∧ profile.Apart { active := some false } ∧
      (w.party true).value? = some (.ok deactivated) ∧
      (w.party false).value? = some (.ok renamed) ∧
      w.state.users.get? "u" = some renamed ∧ renamed.active = true := by
  intro h u t f profile edit deactivated renamed w
  refine ⟨⟨[.createUser u], by simp [Call.OwnerFits], rfl⟩, ?_, ?_⟩
  · intro field
    cases field with
    | fullname => exact .inr rfl
    | _ => exact .inl rfl
  · decide

end Roster.Accounts
