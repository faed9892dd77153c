import Roster.Proofs.Sql.Transaction
import Roster.Sql.Migration

namespace Roster.Sql

variable {α β : Type}

namespace Migration

def checkText : String := "SELECT EXISTS(SELECT 1 FROM _migrations WHERE version = $1)"

def recordText : String := "INSERT INTO _migrations (version, description) VALUES ($1, $2)"

def eraseText : String := "DELETE FROM _migrations WHERE version = $1"

end Migration

structure Image where
  scripts : List String
  table : Option (List (Int × String))

namespace Image

def records (i : Image) : List (Int × String) :=
  i.table.getD []

def recorded (i : Image) (version : Int) : Bool :=
  i.records.any (·.1 == version)

def inTable (rows : List (Int × String)) (sql : String) :
    List Value → Option (Answer × List (Int × String))
  | [.int version] =>
    if sql = Migration.checkText then
      some (⟨[⟨[⟨"exists", .bool⟩], [.bool (rows.any (·.1 == version))]⟩], 1⟩, rows)
    else if sql = Migration.eraseText then
      some (⟨[], rows.countP (·.1 == version)⟩, rows.filter (·.1 != version))
    else none
  | [.int version, .text description] =>
    if sql = Migration.recordText && !rows.any (·.1 == version) then
      some (⟨[], 1⟩, rows ++ [(version, description)])
    else none
  | _ => none

def carryOut (i : Image) : Statement → Option (Answer × Image)
  | .script sql => some (⟨[], 0⟩, { i with scripts := i.scripts ++ [sql] })
  | .query sql args =>
    if sql = Migration.createTable.sql then some (⟨[], 0⟩, { i with table := some i.records })
    else i.table.bind fun rows ↦
      (inTable rows sql args).map fun r ↦ (r.1, { i with table := some r.2 })
  | _ => none

def carryAll (i : Image) (statements : List Statement) : Option Image :=
  statements.foldlM (fun i s ↦ (i.carryOut s).map (·.2)) i

theorem carryAll_cons (i : Image) (s : Statement) (rest : List Statement) :
    i.carryAll (s :: rest) = (i.carryOut s).bind fun r ↦ r.2.carryAll rest := by
  rw [carryAll, List.foldlM_cons]
  cases i.carryOut s <;> rfl

end Image

/-- Whether a transaction is going on, and with what in it. Nothing but its end is accepted once a
statement has failed in it. -/
inductive Transaction where
  | idle
  | pending (i : Image)
  | aborted

structure Entry where
  statement : Statement
  reply : Except Refusal Answer
  committed : Image

def Entry.sent (e : Entry) : Statement × Except Refusal Answer :=
  (e.statement, e.reply)

structure Database where
  committed : Image
  transaction : Transaction
  journal : List Entry

namespace Database

def perform (db : Database) : Statement → Option (Answer × Database)
  | .begin => match db.transaction with
    | .idle => some (⟨[], 0⟩, { db with transaction := .pending db.committed })
    | _ => some (⟨[], 0⟩, db)
  | .commit => match db.transaction with
    | .pending i => some (⟨[], 0⟩, { db with committed := i, transaction := .idle })
    | _ => some (⟨[], 0⟩, { db with transaction := .idle })
  | .rollback => some (⟨[], 0⟩, { db with transaction := .idle })
  | s => match db.transaction with
    | .idle => (db.committed.carryOut s).map fun r ↦ (r.1, { db with committed := r.2 })
    | .pending i => (i.carryOut s).map fun r ↦ (r.1, { db with transaction := .pending r.2 })
    | .aborted => none

def fail (db : Database) : Statement → Database
  | .rollback => { db with transaction := .idle }
  | _ => match db.transaction with
    | .idle => db
    | _ => { db with transaction := .aborted }

def note (db : Database) (s : Statement) (reply : Except Refusal Answer) : Database :=
  { db with journal := db.journal ++ [⟨s, reply, db.committed⟩] }

def misplaced : Refusal :=
  ⟨"", "statement cannot be carried out", ""⟩

/-- Answers a statement. The one with the number `n` fails if `trouble n` is something. -/
def answer (trouble : ℕ → Option Refusal) (s : Statement) (db : Database) :
    Except Refusal Answer × Database :=
  match trouble db.journal.length, db.perform s with
  | some r, _ => (.error r, (db.fail s).note s (.error r))
  | none, none => (.error misplaced, (db.fail s).note s (.error misplaced))
  | none, some (a, db') => (.ok a, db'.note s (.ok a))

variable {trouble : ℕ → Option Refusal} {db db' : Database} {s : Statement}

@[simp] theorem fail_committed (db : Database) (s : Statement) :
    (db.fail s).committed = db.committed := by
  unfold fail
  split
  · rfl
  · split <;> rfl

@[simp] theorem fail_journal (db : Database) (s : Statement) :
    (db.fail s).journal = db.journal := by
  unfold fail
  split
  · rfl
  · split <;> rfl

theorem fail_of_idle (h : db.transaction = .idle) (s : Statement) :
    (db.fail s).transaction = .idle := by
  unfold fail
  split
  · rfl
  · rw [h]
    exact h

/-- A statement that makes sense is carried out, or fails because it was to. -/
theorem answer_cases (trouble : ℕ → Option Refusal) {a : Answer}
    (h : db.perform s = some (a, db')) :
    answer trouble s db = (.ok a, db'.note s (.ok a)) ∨
      ∃ r, (∃ n, trouble n = some r) ∧
        answer trouble s db = (.error r, (db.fail s).note s (.error r)) := by
  unfold answer
  rw [h]
  cases htrouble : trouble db.journal.length with
  | none => exact .inl rfl
  | some r => exact .inr ⟨r, ⟨_, htrouble⟩, rfl⟩

theorem answer_rollback (trouble : ℕ → Option Refusal) (db : Database) :
    ∃ reply, answer trouble .rollback db =
      (reply, { db with transaction := .idle }.note .rollback reply) := by
  have hperform : db.perform .rollback = some (⟨[], 0⟩, { db with transaction := .idle }) := rfl
  rcases answer_cases trouble hperform with h | ⟨r, -, h⟩
  · exact ⟨_, h⟩
  · exact ⟨_, h⟩

theorem perform_of_idle (hidle : db.transaction = .idle) {a : Answer} {i : Image}
    (h : db.committed.carryOut s = some (a, i)) :
    db.perform s = some (a, { db with committed := i }) := by
  cases s <;> first | (cases h; done) | simp only [perform, hidle, h, Option.map_some]

theorem perform_of_pending {i j : Image} (hpending : db.transaction = .pending i) {a : Answer}
    (h : i.carryOut s = some (a, j)) :
    db.perform s = some (a, { db with transaction := .pending j }) := by
  cases s <;> first | (cases h; done) | simp only [perform, hpending, h, Option.map_some]

end Database

def imageAfter (i : Image) : List Entry → Image
  | [] => i
  | e :: rest => imageAfter e.committed rest

theorem imageAfter_append (i : Image) (entries later : List Entry) :
    imageAfter i (entries ++ later) = imageAfter (imageAfter i entries) later := by
  induction entries generalizing i with
  | nil => rfl
  | cons e entries ih => exact ih e.committed

def Statement.isCommit : Statement → Bool
  | .commit => true
  | _ => false

theorem Image.not_isCommit_of_carryOut {i : Image} {s : Statement} {r : Answer × Image}
    (h : i.carryOut s = some r) : s.isCommit = false := by
  cases s <;> first | rfl | cases h

def commits (entries : List Entry) : ℕ :=
  entries.countP fun e ↦ e.statement.isCommit && e.reply.isOk

/-- From a database on, steps were taken up to the first that was refused for a reason of its own. At
every moment `M` holds of what was committed and of how often something had been; `R` holds of it and
of the value at the end of all steps. -/
structure Passes (steps : List Step) (M : ℕ → Image → Prop) (R : α → Image → Prop)
    (trouble : ℕ → Option Refusal) (db : Database) (entries : List Entry)
    (out : Except Fault α × Database) : Prop where
  journal : out.2.journal = db.journal ++ entries
  idle : out.2.transaction = .idle
  committed : out.2.committed = imageAfter db.committed entries
  moments : ∀ sofar later, entries = sofar ++ later →
    M (commits sofar) (imageAfter db.committed sofar)
  outcome : match out.1 with
    | .ok a => CarriedOut (steps.map (·.statement)) (entries.map Entry.sent) ∧ R a out.2.committed
    | .error f => Broken steps (entries.map Entry.sent) f ∧ ∃ n r, trouble n = some r

namespace Passes

variable {steps steps' : List Step} {M : ℕ → Image → Prop} {R : α → Image → Prop}
variable {S : β → Image → Prop} {trouble : ℕ → Option Refusal} {db db' : Database}
variable {entries entries' : List Entry} {p : Step} {a : α} {f : Fault}

theorem nil (hidle : db.transaction = .idle) (hM : M 0 db.committed) (hR : R a db.committed) :
    Passes [] M R trouble db [] (.ok a, db) where
  journal := (List.append_nil _).symm
  idle := hidle
  committed := rfl
  moments sofar later h := by
    obtain ⟨rfl, -⟩ := List.append_eq_nil_iff.mp h.symm
    exact hM
  outcome := ⟨⟨rfl, by simp⟩, hR⟩

theorem cons {answer : Answer} {out : Except Fault α × Database} {c : ℕ}
    (hjournal : db'.journal = db.journal) (hM : M 0 db.committed)
    (hc : c = if p.statement.isCommit then 1 else 0)
    (h : Passes steps (fun n ↦ M (n + c)) R trouble (db'.note p.statement (.ok answer)) entries
      out) :
    Passes (p :: steps) M R trouble db (⟨p.statement, .ok answer, db'.committed⟩ :: entries)
      out where
  journal := by rw [h.journal, Database.note, hjournal, List.append_assoc, List.singleton_append]
  idle := h.idle
  committed := h.committed
  moments sofar later hsplit := by
    cases sofar with
    | nil => exact hM
    | cons e sofar =>
      obtain ⟨rfl, hrest⟩ := List.cons.inj hsplit
      have hmoment := h.moments sofar later hrest
      rw [commits, List.countP_cons]
      simpa [commits, imageAfter, Database.note, Except.isOk, Except.toBool, hc] using hmoment
  outcome := by
    have houtcome := h.outcome
    split
    · next b hb =>
      rw [hb] at houtcome
      exact ⟨houtcome.1.cons answer, houtcome.2⟩
    · next f hf =>
      rw [hf] at houtcome
      exact ⟨.later p answer houtcome.1, houtcome.2⟩

/-- Nothing is committed by statements that are refused or do not end a transaction. -/
theorem moments_of_still {i : Image} (hM : M 0 i)
    (h : ∀ e ∈ entries, e.committed = i ∧ (e.statement.isCommit && e.reply.isOk) = false)
    (sofar later : List Entry) (hsplit : entries = sofar ++ later) :
    M (commits sofar) (imageAfter i sofar) := by
  subst hsplit
  induction sofar with
  | nil => exact hM
  | cons e sofar ih =>
    obtain ⟨⟨hcommitted, hstill⟩, hrest⟩ := List.forall_mem_cons.mp h
    rw [commits, List.countP_cons, hstill, imageAfter, hcommitted]
    exact ih hrest

/-- A step that was refused, and undone by a rollback if it stood in a transaction. -/
theorem refused {r : Refusal} (htrouble : ∃ n, trouble n = some r) (hM : M 0 db.committed)
    (hundo : p.undo = [] ∧ db.transaction = .idle ∨ p.undo = [.rollback]) :
    ∃ entries, Passes (p :: steps) M R trouble db entries
      ((failAfter (p.explain r) p.undo).run (Database.answer trouble)
        ((db.fail p.statement).note p.statement (.error r))) := by
  rcases hundo with ⟨hundo, hidle⟩ | hundo
  · refine ⟨[⟨p.statement, .error r, db.committed⟩], ?_⟩
    rw [hundo, failAfter, Dialogue.run_done]
    refine ⟨?_, Database.fail_of_idle hidle _, ?_, moments_of_still hM ?_, ?_, htrouble.imp ?_⟩
    · simp [Database.note]
    · simp [Database.note, imageAfter]
    · simp [Except.isOk, Except.toBool]
    · exact .here p steps r hundo.symm
    · exact fun n hn ↦ ⟨r, hn⟩
  · obtain ⟨reply, hreply⟩ := Database.answer_rollback trouble
      ((db.fail p.statement).note p.statement (.error r))
    refine ⟨[⟨p.statement, .error r, db.committed⟩, ⟨.rollback, reply, db.committed⟩], ?_⟩
    rw [hundo, failAfter, failAfter, Dialogue.run_ask, hreply, Dialogue.run_done]
    refine ⟨?_, rfl, ?_, moments_of_still hM ?_, ?_, htrouble.imp ?_⟩
    · simp [Database.note]
    · simp [Database.note, imageAfter]
    · simp [Except.isOk, Except.toBool, Statement.isCommit]
    · exact .here p steps r hundo.symm
    · exact fun n hn ↦ ⟨r, hn⟩

/-- A step that makes sense, in front of what follows it if it is carried out. -/
theorem ask {next : Except Refusal Answer → Dialogue interface (Except Fault α)} {answer : Answer}
    {c : ℕ}
    (hnext : ∀ r, next (.error r) = failAfter (p.explain r) p.undo)
    (hperform : db.perform p.statement = some (answer, db')) (hjournal : db'.journal = db.journal)
    (hM : M 0 db.committed) (hundo : p.undo = [] ∧ db.transaction = .idle ∨ p.undo = [.rollback])
    (hc : c = if p.statement.isCommit then 1 else 0)
    (hrest : ∃ entries, Passes steps (fun n ↦ M (n + c)) R trouble
      (db'.note p.statement (.ok answer)) entries
      ((next (.ok answer)).run (Database.answer trouble) (db'.note p.statement (.ok answer)))) :
    ∃ entries, Passes (p :: steps) M R trouble db entries
      ((Dialogue.ask (I := interface) p.statement next).run (Database.answer trouble) db) := by
  rw [Dialogue.run_ask]
  rcases Database.answer_cases trouble hperform with h | ⟨r, htrouble, h⟩
  · obtain ⟨entries, hentries⟩ := hrest
    rw [h]
    exact ⟨_, .cons hjournal hM hc hentries⟩
  · rw [h, hnext]
    exact refused htrouble hM hundo

theorem mono {M' : ℕ → Image → Prop} {R' : α → Image → Prop} {out : Except Fault α × Database}
    (h : Passes steps M R trouble db entries out) (hM : ∀ n i, M n i → M' n i)
    (hR : ∀ a i, R a i → R' a i) : Passes steps M' R' trouble db entries out where
  journal := h.journal
  idle := h.idle
  committed := h.committed
  moments sofar later hsplit := hM _ _ (h.moments sofar later hsplit)
  outcome := by
    have houtcome := h.outcome
    split
    · next b hb =>
      rw [hb] at houtcome
      exact houtcome.imp_right (hR b _)
    · next f hf => rwa [hf] at houtcome

/-- When all steps have been carried out, so have all commitments among them. -/
theorem commits_of_carriedOut
    (h : CarriedOut (steps.map (·.statement)) (entries.map Entry.sent)) :
    commits entries = steps.countP (·.statement.isCommit) := by
  have hstatements : entries.map (·.statement) = steps.map (·.statement) := by
    rw [← h.statements, List.map_map]
    rfl
  have hreplies : ∀ e ∈ entries, (e.statement.isCommit && e.reply.isOk) = e.statement.isCommit := by
    intro e he
    have hreply : e.reply.isOk = true := h.replies e.sent (List.mem_map_of_mem he)
    rw [hreply, Bool.and_true]
  have hcommits : commits entries = (entries.map (·.statement)).countP Statement.isCommit := by
    rw [commits, List.countP_map]
    exact List.countP_congr fun e he ↦ by rw [hreplies e he]; rfl
  rw [hcommits, hstatements, List.countP_map]
  rfl

theorem append {out : Except Fault β × Database}
    (h : Passes steps M R trouble db entries (.ok a, db'))
    (h' : Passes steps' (fun n ↦ M (n + steps.countP (·.statement.isCommit))) S trouble db' entries'
      out) : Passes (steps ++ steps') M S trouble db (entries ++ entries') out where
  journal := by rw [h'.journal, h.journal, List.append_assoc]
  idle := h'.idle
  committed := by rw [h'.committed, imageAfter_append, ← h.committed]
  moments sofar later hsplit := by
    rcases List.append_eq_append_iff.mp hsplit with ⟨rest, rfl, hlater⟩ | ⟨rest, hentries, -⟩
    · have hmoment := h'.moments rest later hlater
      rw [imageAfter_append, ← h.committed, commits, List.countP_append, Nat.add_comm]
      rwa [← commits_of_carriedOut h.outcome.1] at hmoment
    · exact h.moments sofar rest hentries
  outcome := by
    have houtcome := h'.outcome
    rw [List.map_append, List.map_append]
    split
    · next b hb =>
      rw [hb] at houtcome
      exact ⟨h.outcome.1.append houtcome.1, houtcome.2⟩
    · next f hf =>
      rw [hf] at houtcome
      exact ⟨houtcome.1.prepend h.outcome.1, houtcome.2⟩

theorem append_of_error (h : Passes steps M R trouble db entries (.error f, db'))
    (steps' : List Step) :
    Passes (steps ++ steps') M S trouble db entries (.error f, db') where
  journal := h.journal
  idle := h.idle
  committed := h.committed
  moments := h.moments
  outcome := ⟨h.outcome.1.append steps', h.outcome.2⟩

end Passes

def Course (q : Query α) (i : Image) (steps : List Step) (M : ℕ → Image → Prop)
    (R : α → Image → Prop) : Prop :=
  ∀ (trouble : ℕ → Option Refusal) (db : Database), db.transaction = .idle → db.committed = i →
    ∃ entries, Passes steps M R trouble db entries (q.run.run (Database.answer trouble) db)

namespace Course

variable {q : Query α} {i j j' : Image} {steps steps' : List Step} {M : ℕ → Image → Prop}
variable {R : α → Image → Prop} {S : β → Image → Prop} {a : α}

theorem pure (hM : M 0 i) (hR : R a i) : Course (pure a) i [] M R := by
  rintro trouble db hidle rfl
  exact ⟨[], .nil hidle hM hR⟩

theorem mono {M' : ℕ → Image → Prop} {R' : α → Image → Prop} (hq : Course q i steps M R)
    (hM : ∀ n j, M n j → M' n j) (hR : ∀ a j, R a j → R' a j) : Course q i steps M' R' := by
  intro trouble db hidle hdb
  obtain ⟨entries, h⟩ := hq trouble db hidle hdb
  exact ⟨entries, h.mono hM hR⟩

theorem bind {f : α → Query β} (hq : Course q i steps M R)
    (hf : ∀ a j, R a j →
      Course (f a) j steps' (fun n ↦ M (n + steps.countP (·.statement.isCommit))) S) :
    Course (q >>= f) i (steps ++ steps') M S := by
  intro trouble db hidle hdb
  obtain ⟨entries, h⟩ := hq trouble db hidle hdb
  have hnext : ∀ out : Except Fault α × Database, Passes steps M R trouble db entries out →
      ∃ entries, Passes (steps ++ steps') M S trouble db entries
        ((ExceptT.bindCont f out.1).run (Database.answer trouble) out.2) := by
    rintro ⟨r, db'⟩ h
    cases r with
    | error f => exact ⟨entries, h.append_of_error steps'⟩
    | ok a =>
      obtain ⟨entries', h'⟩ := hf a _ h.outcome.2 trouble db' h.idle rfl
      exact ⟨entries ++ entries', h.append h'⟩
  have hrun : (q >>= f).run.run (Database.answer trouble) db =
      (ExceptT.bindCont f (q.run.run (Database.answer trouble) db).1).run (Database.answer trouble)
        (q.run.run (Database.answer trouble) db).2 :=
    Dialogue.run_bind (I := interface) (Database.answer trouble) q.run (ExceptT.bindCont f) db
  rw [hrun]
  exact hnext _ h

theorem single {s : Statement} {explain : Refusal → Fault} {answer : Answer}
    {next : Except Refusal Answer → Dialogue interface (Except Fault α)} (hq : q.run = .ask s next)
    (herror : ∀ r, next (.error r) = .done (.error (explain r)))
    (hok : next (.ok answer) = .done (.ok a)) (hs : i.carryOut s = some (answer, j)) (hi : M 0 i)
    (hj : M 0 j) (hR : R a j) : Course q i [⟨s, explain, []⟩] M R := by
  rintro trouble db hidle rfl
  rw [hq]
  refine Passes.ask (c := 0) (p := ⟨s, explain, []⟩) herror (Database.perform_of_idle hidle hs) rfl
    hi (.inl ⟨rfl, hidle⟩) (by rw [Image.not_isCommit_of_carryOut hs]; rfl) ⟨[], ?_⟩
  rw [hok]
  exact .nil hidle hj hR

theorem inside {commitment : Refusal → Fault} (hundo : ∀ p ∈ steps, p.undo = [])
    (hsteps : j.carryAll (steps.map (·.statement)) = some j') {trouble : ℕ → Option Refusal}
    {db : Database} (hpending : db.transaction = .pending j) (hM : M 0 db.committed) (hM' : M 1 j')
    (hR : R a j') :
    ∃ entries, Passes (steps.map (·.undoing [.rollback]) ++ [⟨.commit, commitment, [.rollback]⟩]) M
      R trouble db entries ((inTurn a (steps.map (·.undoing [.rollback]) ++
        [⟨.commit, commitment, [.rollback]⟩])).run (Database.answer trouble) db) := by
  induction steps generalizing j db with
  | nil =>
    obtain rfl := Option.some.inj hsteps
    have hperform : db.perform .commit =
        some (⟨[], 0⟩, { db with committed := j, transaction := .idle }) := by
      simp only [Database.perform, hpending]
    exact Passes.ask (c := 1) (p := ⟨.commit, commitment, [.rollback]⟩) (fun r ↦ rfl) hperform rfl
      hM (.inr rfl) rfl ⟨[], .nil rfl hM' hR⟩
  | cons p steps ih =>
    obtain ⟨hp, hundo⟩ := List.forall_mem_cons.mp hundo
    rw [List.map_cons, Image.carryAll_cons] at hsteps
    obtain ⟨⟨answer, _⟩, hanswer, hsteps⟩ := Option.bind_eq_some_iff.mp hsteps
    refine Passes.ask (c := 0) (p := p.undoing [.rollback]) (fun r ↦ rfl)
      (Database.perform_of_pending hpending hanswer) rfl hM (.inr ?_) ?_ (ih hundo hsteps rfl hM)
    · rw [Step.undoing, hp]
      rfl
    · rw [Step.undoing, Image.not_isCommit_of_carryOut hanswer]
      rfl

theorem transaction {beginning commitment : String} (steps : List Step)
    (hq : q.run = inTurn a steps) (hundo : ∀ p ∈ steps, p.undo = [])
    (hsteps : i.carryAll (steps.map (·.statement)) = some j) (hM : M 0 i) (hM' : M 1 j)
    (hR : R a j) :
    Course (Query.transaction beginning commitment q) i
      (⟨.begin, fun r ↦ (Trouble.refused r).toFault beginning, []⟩ ::
        (steps.map (·.undoing [.rollback]) ++
          [⟨.commit, fun r ↦ (Trouble.refused r).toFault commitment, [.rollback]⟩])) M R := by
  rintro trouble db hidle rfl
  have hperform : db.perform .begin =
      some (⟨[], 0⟩, { db with transaction := .pending db.committed }) := by
    simp only [Database.perform, hidle]
  rw [Query.run_transaction hq]
  exact Passes.ask (c := 0) (p := ⟨.begin, _, []⟩) (fun r ↦ rfl) hperform rfl hM
    (.inl ⟨rfl, hidle⟩) rfl (inside hundo hsteps rfl hM hM' hR)

end Course

end Roster.Sql
