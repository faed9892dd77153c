import Roster.Proofs.Sql.Database

namespace Roster.Sql

open Migration (createTable)

namespace Migration

def check (version : Int) : Statement :=
  .query checkText [.int version]

def record (m : Migration) : Statement :=
  .query recordText [.int m.version, .text m.description]

def erase (version : Int) : Statement :=
  .query eraseText [.int version]

def row (m : Migration) : Int × String :=
  (m.version, m.description)

def aside (action : String) (s : Statement) : Step :=
  ⟨s, fun r ↦ (Trouble.refused r).toFault action, []⟩

def within (action : String) (s : Statement) : Step :=
  ⟨s, fun r ↦ (Trouble.refused r).toFault action, [.rollback]⟩

def taking (m : Migration) : List Step :=
  [aside "begin migration" .begin, within s!"run migration {m.version}" (.script m.up),
    within s!"record migration {m.version}" m.record, within "commit migration" .commit]

end Migration

namespace Image

variable {i j j' : Image} {m : Migration} {ms taken taken' : List Migration}

/-- An image as steps have left it: the scripts and the records of the same steps are new. -/
structure Advanced (i : Image) (taken : List Migration) (j : Image) : Prop where
  scripts : j.scripts = i.scripts ++ taken.map (·.up)
  records : j.records = i.records ++ taken.map (·.row)

def pending (i : Image) (ms : List Migration) : List Migration :=
  ms.filter fun m ↦ !i.recorded m.version

def created (i : Image) : Image :=
  { i with table := some i.records }

theorem Advanced.refl (i : Image) : i.Advanced [] i :=
  ⟨by simp, by simp⟩

theorem Advanced.trans (h : i.Advanced taken j) (h' : j.Advanced taken' j') :
    i.Advanced (taken ++ taken') j' where
  scripts := by rw [h'.scripts, h.scripts, List.map_append, List.append_assoc]
  records := by rw [h'.records, h.records, List.map_append, List.append_assoc]

theorem Advanced.recorded (h : i.Advanced taken j) (version : Int) :
    j.recorded version = (i.recorded version || taken.any (·.version == version)) := by
  rw [Image.recorded, h.records, List.any_append, List.any_map]
  rfl

end Image

namespace Migration

variable (i : Image) (m : Migration)

variable {m} {ms : List Migration}

section Runs

variable {i} {db : Database} {entries : List Entry}

def migrate (ms : List Migration) (trouble : ℕ → Option Refusal) (db : Database) :
    Except Fault Unit × Database :=
  (applyAll ms).run.run (Database.answer trouble) db

end Runs

end Migration

end Roster.Sql
