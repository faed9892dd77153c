import Roster.Proofs.Enrolment.Stages
import Roster.Proofs.Store.Runs

namespace Roster.Enrolment

open Store (Call Tables)

variable {ι : Type}

abbrev Race (ι : Type) := Assembly Store.interface ι (Outcome (Option Member)) Tables

def resultOf? (w : Race ι) (i : ι) : Option (Except Fault (Option Member)) :=
  (w.party i).value?.map Outcome.result

structure Race.Underway (t : Tables) (task : ι → Task) (w : Race ι) : Prop where
  stage : ∀ i, (w.party i).isDone = false → Stage t (task i) (w.party i)
  records : t.SameRecords w.state
  integrity : w.state.Integrity

variable {t : Tables} {task : ι → Task} {w : Race ι}

theorem Race.Underway.start (task : ι → Task) (ht : t.Integrity) :
    Race.Underway t task ⟨fun i ↦ (task i).operation, t⟩ where
  stage _ _ := .start
  records := .refl t
  integrity := ht

/-- A call that is not the last one changes nothing; the last one is a step of the machine. -/
inductive Race.Steps (t : Tables) (task : ι → Task) (w w' : Race ι) (i : ι) : Prop
  | goesOn (hlast : (w.party i).isLast Tables.answer w.state = false) (hstate : w'.state = w.state)
  | ends {o : Outcome (Option Member)} (hlast : (w.party i).isLast Tables.answer w.state = true)
    (hparty : w'.party i = .done o)
    (ho : enrolling t w.state.roll (task i) = (o.result, w'.state.roll))

variable [DecidableEq ι]

theorem Race.Underway.step (hw : Underway t task w) (i : ι) :
    Underway t task (w.step Tables.answer i) ∧ Steps t task w (w.step Tables.answer i) i := by
  cases hopen : (w.party i).isDone with
  | true =>
    rw [Assembly.step_of_isDone hopen]
    exact ⟨hw, .goesOn (Dialogue.isLast_of_isDone hopen) rfl⟩
  | false =>
    have hnext := (hw.stage i hopen).advance hw.integrity hw.records
    have hself := Assembly.step_party_self Tables.answer w i
    have hlast : (w.party i).isLast Tables.answer w.state =
        ((w.party i).advance Tables.answer w.state).1.isDone := by
      rw [Dialogue.isLast, hopen, Bool.not_false, Bool.true_and]
    have hstate : (w.step Tables.answer i).state = ((w.party i).advance Tables.answer w.state).2 :=
      rfl
    have hothers : ∀ j, j ≠ i → ((w.step Tables.answer i).party j).isDone = false →
        Stage t (task j) ((w.step Tables.answer i).party j) := by
      intro j hj hdone
      rw [Assembly.step_party_of_ne Tables.answer w hj] at hdone ⊢
      exact hw.stage j hdone
    -- A variable in its place lets `hnext` be split into its cases.
    generalize (w.party i).advance Tables.answer w.state = z at hnext hself hlast hstate
    cases hnext with
    | goesOn hd hd' =>
      refine ⟨⟨fun j hj ↦ ?_, hstate ▸ hw.records, hstate ▸ hw.integrity⟩,
        .goesOn (hlast.trans hd') hstate⟩
      by_cases h : j = i
      · subst h
        rwa [hself]
      · exact hothers j h hj
    | ends hs ht ho =>
      refine ⟨⟨fun j hj ↦ ?_, hstate ▸ hw.records.trans hs, hstate ▸ ht⟩,
        .ends (hlast.trans rfl) hself (hstate ▸ ho)⟩
      by_cases h : j = i
      · subst h
        rw [hself] at hj
        cases hj
      · exact hothers j h hj

/-- Operations in step with one another are the machine that takes them one after the other, in the
order in which they end. -/
theorem Race.Underway.run (hw : Underway t task w) (schedule : List ι) :
    Underway t task (w.run Tables.answer schedule) ∧
    (w.endings Tables.answer schedule).map (resultOf? (w.run Tables.answer schedule)) =
      (transcript (enrolling t) w.state.roll
        ((w.endings Tables.answer schedule).map task)).1.map some ∧
    (w.run Tables.answer schedule).state.roll =
      (transcript (enrolling t) w.state.roll ((w.endings Tables.answer schedule).map task)).2 := by
  -- The machine moves at the endings only, so both sides stay as they are at every other call.
  induction schedule generalizing w with
  | nil => exact ⟨hw, rfl, rfl⟩
  | cons i schedule ih =>
    obtain ⟨hw', hstep⟩ := hw.step i
    obtain ⟨hrun, hresults, hroll⟩ := ih hw'
    rw [Assembly.run_cons, Assembly.endings]
    cases hstep with
    | goesOn hlast hstate =>
      rw [hstate] at hresults hroll
      simp only [hlast, Bool.false_eq_true, if_false]
      exact ⟨hrun, hresults, hroll⟩
    | ends hlast hparty ho =>
      have hdone : ((w.step Tables.answer i).party i).isDone = true := by
        rw [hparty]
        rfl
      simp only [hlast, if_true, List.map_cons, transcript, ho]
      refine ⟨hrun, ?_, hroll⟩
      rw [hresults, resultOf?, Assembly.run_party_of_isDone hdone, hparty]
      rfl

structure Contends (t : Tables) (k : Kind) (u : User) (c : Circle) (x : Task) : Prop where
  kind : x.kind = k
  action : x.action = .attach
  user : t.findUser x.userRef = some u
  circle : t.findCircle k x.circleRef = some c
  valid : ∃ p, x.asked = .ok p

namespace Contends

variable {k : Kind} {u : User} {c : Circle} {x : Task} {r : Roll}

theorem enrolling_attached {s : Standing} (hx : Contends t k u c x) (hr : r k u.id c.id = some s) :
    enrolling t r x = (.error (.alreadyAssigned k), r) := by
  simp only [enrolling, Roll.enrol, hx.kind, hx.action, hx.user, hx.circle, hr]

theorem enrolling_absent {p : Permission} (hx : Contends t k u c x) (hp : x.asked = .ok p)
    (hr : r k u.id c.id = none) : enrolling t r x =
      (.ok (some ⟨.new u.id c.id p x.now, u, c⟩), r.put k u.id c.id (some ⟨p, x.now, x.now⟩)) := by
  simp only [enrolling, Roll.enrol, hx.kind, hx.action, hx.user, hx.circle, hr, hp]

theorem transcript_attached {s : Standing} (hr : r k u.id c.id = some s) (rest : List Task)
    (hrest : ∀ x ∈ rest, Contends t k u c x) : transcript (enrolling t) r rest =
      (rest.map fun _ ↦ .error (.alreadyAssigned k), r) := by
  induction rest with
  | nil => rfl
  | cons x rest ih =>
    obtain ⟨hx, hrest⟩ := List.forall_mem_cons.mp hrest
    simp only [transcript, hx.enrolling_attached hr, ih hrest, List.map_cons]

theorem transcript_absent {p : Permission} (hx : Contends t k u c x) (hp : x.asked = .ok p)
    (hr : r k u.id c.id = none) (rest : List Task) (hrest : ∀ x ∈ rest, Contends t k u c x) :
    transcript (enrolling t) r (x :: rest) =
      (.ok (some ⟨.new u.id c.id p x.now, u, c⟩) ::
        rest.map fun _ ↦ .error (.alreadyAssigned k),
        r.put k u.id c.id (some ⟨p, x.now, x.now⟩)) := by
  have hattached := r.put_self k u.id c.id (some ⟨p, x.now, x.now⟩)
  simp only [transcript, hx.enrolling_absent hp hr, transcript_attached hattached rest hrest]

end Contends

/-- However operations put their calls, they return and leave what the machine does when it takes
them in the order of their last calls, and four calls see each of them through. Of those that
contend for a pair that is absent, one attaches it. -/
theorem race_is_sequential (ht : t.Reachable) (task : ι → Task) (schedule : List ι) :
    let start : Race ι := ⟨fun i ↦ (task i).operation, t⟩
    let w := start.run Tables.answer schedule
    let order := start.endings Tables.answer schedule
    let alone := transcript (enrolling t) t.roll (order.map task)
    order.Nodup ∧ (∀ i, i ∈ order ↔ (w.party i).isDone = true) ∧
    (∀ i, 4 ≤ schedule.count i → i ∈ order) ∧
    order.map (resultOf? w) = alone.1.map some ∧ w.state.roll = alone.2 ∧
    t.SameRecords w.state ∧
    (∀ k, ((w.state.of k).memberships.map Membership.pair).Nodup ∧
      ∀ m, m ∈ (w.state.of k).memberships ↔ alone.2 k m.userId m.circleId = some m.standing) ∧
    (∀ k u c, Nonempty ι → (∀ i, Contends t k u c (task i)) → t.roll k u.id c.id = none →
      (∀ i, i ∈ order) → ∃ winner p, (task winner).asked = .ok p ∧
        resultOf? w winner = some (.ok (some ⟨.new u.id c.id p (task winner).now, u, c⟩)) ∧
        (∀ i, i ≠ winner → resultOf? w i = some (.error (.alreadyAssigned k))) ∧
        (w.state.of k).memberships.filter (·.isPair u.id c.id) =
          [.new u.id c.id p (task winner).now]) := by
  intro start w order alone
  obtain ⟨hw, hresults, hroll⟩ := (Race.Underway.start task ht.integrity).run schedule
  have hopen (i : ι) : (start.party i).isDone = false := by
    simp only [start, (task i).operation_eq]
    rfl
  have hdone (i : ι) : i ∈ order ↔ (w.party i).isDone = true := by
    rw [Assembly.mem_endings, hopen, and_iff_right rfl]
  refine ⟨Assembly.endings_nodup _ _, hdone, ?_, hresults, hroll, hw.records, ?_, ?_⟩
  · intro i hi
    exact (hdone i).mpr (Assembly.run_isDone_of_within (task i).operation_within schedule hi)
  · intro k
    refine ⟨(hw.integrity.kinds_sound k).pairs_nodup, fun m ↦ ?_⟩
    rw [Tables.mem_memberships_iff hw.integrity, hroll]
  · -- The winner is whoever ends first.
    rintro k u c ⟨i₀⟩ hcontends habsent hall
    obtain ⟨winner, rest, horder⟩ := List.exists_cons_of_ne_nil (List.ne_nil_of_mem (hall i₀))
    obtain ⟨p, hp⟩ := (hcontends winner).valid
    have hrest : ∀ x ∈ rest.map task, Contends t k u c x := by
      intro x hx
      obtain ⟨i, -, rfl⟩ := List.mem_map.mp hx
      exact hcontends i
    have halone := (hcontends winner).transcript_absent hp habsent (rest.map task) hrest
    rw [← List.map_cons, ← horder] at halone
    have hresults : order.map (resultOf? w) = alone.1.map some := hresults
    have hroll : w.state.roll = alone.2 := hroll
    simp only [alone, halone] at hresults hroll
    rw [horder, List.map_cons, List.map_cons, List.cons.injEq] at hresults
    obtain ⟨hwinner, hlosers⟩ := hresults
    refine ⟨winner, p, hp, hwinner, ?_, ?_⟩
    · intro i hi
      have hmem : i ∈ rest := by
        have hi' := hall i
        rw [horder] at hi'
        exact (List.mem_cons.mp hi').resolve_left hi
      rw [List.map_map, List.map_map] at hlosers
      exact List.map_inj_left.mp hlosers i hmem
    · refine Tables.filter_isPair_eq_singleton hw.integrity
        (m := .new u.id c.id p (task winner).now) ?_
      rw [Tables.mem_memberships_iff hw.integrity, hroll]
      exact Roll.put_self ..

theorem race_is_sequential_of_two_attaches :
    let user : User := .new ⟨"u", by decide⟩ ⟨0, 0⟩ "ada" "ada@example.org" ""
    let circle : Circle := .new ⟨"g", by decide⟩ ⟨0, 0⟩ "Core"
    let calls : List Call := [.createUser user, .createCircle .group circle none]
    let t := Tables.empty.after calls
    let task (i : Bool) : Task :=
      ⟨.group, .attach, ⟨1, 0⟩, "u", "g", some (if i then "owner" else "admin")⟩
    let start : Race Bool := ⟨fun i ↦ (task i).operation, t⟩
    let w := start.run Tables.answer
      [true, false, true, false, true, false, true, false]
    (∀ c ∈ calls, c.OwnerFits) ∧ (∀ i, Contends t .group user circle (task i)) ∧
      t.roll .group user.id circle.id = none ∧
      ∃ winner p, (task winner).asked = .ok p ∧
        resultOf? w winner = some (.ok (some ⟨.new user.id circle.id p ⟨1, 0⟩, user, circle⟩)) ∧
        (∀ i, i ≠ winner → resultOf? w i = some (.error (.alreadyAssigned .group))) ∧
        (w.state.of .group).memberships.filter (·.isPair user.id circle.id) =
          [.new user.id circle.id p ⟨1, 0⟩] := by
  intro user circle calls t task start w
  have hcalls : ∀ c ∈ calls, c.OwnerFits := by simp [calls, Call.OwnerFits]
  have hcontends (i : Bool) : Contends t .group user circle (task i) :=
    ⟨rfl, rfl, rfl, rfl, by cases i <;> exact ⟨_, rfl⟩⟩
  have habsent : t.roll .group user.id circle.id = none := rfl
  obtain ⟨-, -, hends, -, -, -, -, hrace⟩ := race_is_sequential ⟨calls, hcalls, rfl⟩ task
    [true, false, true, false, true, false, true, false]
  refine ⟨hcalls, hcontends, habsent, hrace .group user circle ⟨true⟩ hcontends habsent ?_⟩
  intro i
  exact hends i (by cases i <;> decide)

end Roster.Enrolment
