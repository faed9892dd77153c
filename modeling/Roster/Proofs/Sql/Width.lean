import Roster.Proofs.Accounts.Validity
import Roster.Proofs.Circles.Validity
import Roster.Proofs.Rule.Lengths
import Roster.Proofs.Sql.Statements
import Roster.Sql.Schema

namespace Roster

namespace Sql

def wordAfter? (word : List Char) : List (List Char) → Option (List Char)
  | first :: second :: rest =>
    if first == word then some second else wordAfter? word (second :: rest)
  | _ => none

def varcharWidth? (type : List Char) : Option Nat := do
  let rest ← Text.dropPrefix? "VARCHAR(".toList type
  let (digits, _) ← Text.splitFirst (· == ')') rest
  Text.natOfDigits? digits

def Migration.words (m : Migration) : List (List Char) :=
  Text.splitAll (· == ' ') m.up.toList

namespace Schema

def width? (table column : String) : Option Nat := do
  let words ← (migrations.map Migration.words).find? fun words ↦
    wordAfter? "EXISTS".toList words == some table.toList
  varcharWidth? (← wordAfter? column.toList words)

def Takes (table column text : String) : Prop :=
  ∃ width ∈ width? table column, Text.length text ≤ width

theorem users_width : ∀ column ∈ ["slug", "username", "email", "fullname"],
    width? "users" column = some 255 := by
  simp only [width?, migrations, Migration.words, users, circles, memberships, recordColumns,
    toString, String.toList_append, List.map_cons, List.map_nil]
  repeat rw [String.toList_ofList]
  decide

theorem circles_width (k : Kind) : ∀ column ∈ ["slug", "name"],
    width? k.plural column = some 255 := by
  simp only [width?, migrations, Migration.words, users, circles, memberships, recordColumns,
    toString, String.toList_append, List.map_cons, List.map_nil]
  repeat rw [String.toList_ofList]
  cases k <;> decide

theorem takes_iff {table column : String} (h : width? table column = some 255) (text : String) :
    Takes table column text ↔ Text.length text ≤ 255 := by
  simp [Takes, h]

end Schema

def storedText? : Place × Option Value → Option (String × String)
  | (.stored column, some (.text s)) => some (column, s)
  | _ => none

def Statement.storedTexts (s : Statement) : List (String × String) :=
  ((places s.sql).map fun p ↦ (p.1, s.args[p.2 - 1]?)).filterMap storedText?

theorem Statement.Binds.storedTexts_eq {s : Statement} {slots : List (Place × Value)}
    (h : s.Binds slots) :
    s.storedTexts = slots.filterMap fun p ↦ storedText? (p.1, some p.2) := by
  rw [storedTexts, h.values, List.filterMap_map]
  rfl

theorem Users.insert_storedTexts (u : User) : (insert u).storedTexts =
    [("id", u.id.text), ("slug", u.slug), ("username", u.username), ("email", u.email),
      ("fullname", u.fullname), ("password_hash", u.passwordHash)] :=
  (bound.insert u).storedTexts_eq

theorem Users.replace_storedTexts (u : User) : (replace u).storedTexts =
    [("slug", u.slug), ("username", u.username), ("email", u.email), ("fullname", u.fullname),
      ("password_hash", u.passwordHash)] :=
  (bound.replace u).storedTexts_eq

theorem Circles.insert_storedTexts (k : Kind) (c : Circle) : (insert k c).storedTexts =
    [("id", c.id.text), ("slug", c.slug), ("name", c.name)] :=
  ((bound k).insert c).storedTexts_eq

theorem Circles.replace_storedTexts (k : Kind) (c : Circle) : (replace k c).storedTexts =
    [("slug", c.slug), ("name", c.name)] :=
  ((bound k).replace c).storedTexts_eq

end Sql

open Store (Call)
open Sql.Schema (Takes)

theorem User.takes_of_valid {u : User} (h : u.validate = []) :
    Takes "users" "slug" u.slug ∧ Takes "users" "username" u.username ∧
      Takes "users" "fullname" u.fullname ∧ Text.length u.email ≤ 320 ∧
      (Takes "users" "email" u.email ↔ Text.length u.email ≤ 255) := by
  have hwidth := Sql.Schema.users_width
  obtain ⟨husername, hslug, hemail, hfullname⟩ := User.validate_eq_nil_iff.mp h
  refine ⟨(Sql.Schema.takes_iff (hwidth _ (by simp)) _).mpr ?_,
    (Sql.Schema.takes_iff (hwidth _ (by simp)) _).mpr ?_,
    (Sql.Schema.takes_iff (hwidth _ (by simp)) _).mpr ?_,
    Rule.length_le_of_email hemail, Sql.Schema.takes_iff (hwidth _ (by simp)) _⟩
  · exact (Rule.slug_eq_none_iff.mp hslug).2.2
  · exact (Rule.name_eq_none_iff.mp husername).2.2
  · exact Rule.fullname_eq_none_iff.mp hfullname

theorem Circle.takes_of_valid {c : Circle} (h : c.validate = []) (k : Kind) :
    Takes k.plural "slug" c.slug ∧ Takes k.plural "name" c.name := by
  have hwidth := Sql.Schema.circles_width k
  obtain ⟨hslug, hname⟩ := Circle.validate_eq_nil_iff.mp h
  refine ⟨(Sql.Schema.takes_iff (hwidth _ (by simp)) _).mpr ?_,
    (Sql.Schema.takes_iff (hwidth _ (by simp)) _).mpr ?_⟩
  · exact (Rule.slug_eq_none_iff.mp hslug).2.2
  · exact (Rule.name_eq_none_iff.mp hname).2.2

def Store.Call.storedTexts : Call → List (String × String × String)
  | .createUser u => (Sql.Users.insert u).storedTexts.map ("users", ·)
  | .updateUser u => (Sql.Users.replace u).storedTexts.map ("users", ·)
  | .createCircle k c _ => (Sql.Circles.insert k c).storedTexts.map (k.plural, ·)
  | .updateCircle k c => (Sql.Circles.replace k c).storedTexts.map (k.plural, ·)
  | _ => []

/-- Of the texts that have a rule, only an email can be too long for its column. -/
def Store.Call.FitsColumns (c : Call) : Prop :=
  ∀ p ∈ c.storedTexts, p.2.1 ∈ ["slug", "username", "email", "fullname", "name"] →
    Takes p.1 p.2.1 p.2.2 ∨ p.2.1 = "email" ∧ Text.length p.2.2 ≤ 320

theorem Store.Call.PutsValid.fitsColumns {c : Call} (h : c.PutsValid) : c.FitsColumns := by
  cases c with
  | createUser u =>
    obtain ⟨hslug, husername, hfullname, hemail, -⟩ := User.takes_of_valid h
    simp [FitsColumns, storedTexts, Sql.Users.insert_storedTexts, hslug, husername, hfullname, hemail]
  | updateUser u =>
    obtain ⟨hslug, husername, hfullname, hemail, -⟩ := User.takes_of_valid h
    simp [FitsColumns, storedTexts, Sql.Users.replace_storedTexts, hslug, husername, hfullname,
      hemail]
  | createCircle k c owner =>
    obtain ⟨hslug, hname⟩ := Circle.takes_of_valid h k
    simp [FitsColumns, storedTexts, Sql.Circles.insert_storedTexts, hslug, hname]
  | updateCircle k c =>
    obtain ⟨hslug, hname⟩ := Circle.takes_of_valid h k
    simp [FitsColumns, storedTexts, Sql.Circles.replace_storedTexts, hslug, hname]
  | _ => exact fun p hp ↦ absurd hp List.not_mem_nil

/-- Slugs and names that obey their rules fit the columns for them, and all that the errands put into
the store obeys the rules. An email may have 320 characters, and its column holds 255. -/
theorem Rule.only_email_exceeds_column (u : User) (c : Circle) (k : Kind) (h : Hasher) (f : Fresh) :
    (u.validate = [] →
      Takes "users" "slug" u.slug ∧ Takes "users" "username" u.username ∧
        Takes "users" "fullname" u.fullname ∧ Text.length u.email ≤ 320 ∧
        (Takes "users" "email" u.email ↔ Text.length u.email ≤ 255)) ∧
    (c.validate = [] → Takes k.plural "slug" c.slug ∧ Takes k.plural "name" c.name) ∧
    (∀ r, Puts Call.FitsColumns (Accounts.create h f r)) ∧
    (∀ reference change, Puts Call.FitsColumns (Accounts.update h f reference change)) ∧
    (∀ username password email,
      Puts Call.FitsColumns (Accounts.ensureAdmin h f username password email)) ∧
    (∀ r owner, Puts Call.FitsColumns (Circles.create k f r owner)) ∧
    ∀ reference change, Puts Call.FitsColumns (Circles.update k f reference change) := by
  have hputs {α : Type} {e : Errand α} (he : Puts Call.PutsValid e) : Puts Call.FitsColumns e :=
    he.mono (fun _ ↦ Call.PutsValid.fitsColumns) fun _ h ↦ h
  refine ⟨User.takes_of_valid, fun hc ↦ Circle.takes_of_valid hc k, ?_⟩
  exact ⟨fun r ↦ hputs (Accounts.create_putsValid h f r),
    fun reference change ↦ hputs (Accounts.update_putsValid h f reference change),
    fun username password email ↦ hputs (Accounts.ensureAdmin_putsValid h f username password email),
    fun r owner ↦ hputs (Circles.create_putsValid k f r owner),
    fun reference change ↦ hputs (Circles.update_putsValid k f reference change)⟩

theorem Rule.only_email_exceeds_column_of_ada :
    let u : User := .new ⟨"u", by decide⟩ ⟨0, 0⟩ "ada" "ada@example.org" ""
    let c : Circle := .new ⟨"c", by decide⟩ ⟨0, 0⟩ "Engines"
    u.validate = [] ∧ c.validate = [] ∧ Takes "users" "email" u.email ∧ Takes "teams" "slug" c.slug := by
  intro u c
  obtain ⟨husers, hcircles, -⟩ := only_email_exceeds_column u c .team ⟨.ok, (· == ·)⟩
    ⟨⟨0, 0⟩, ⟨"v", by decide⟩, ⟨"g", by decide⟩, []⟩
  have hu : u.validate = [] := by decide +kernel
  have hc : c.validate = [] := by decide +kernel
  exact ⟨hu, hc, (husers hu).2.2.2.2.mpr (by decide), (hcircles hc).1⟩

theorem Rule.email_exceeds_column :
    let label := List.replicate 63 'b'
    let domain := label ++ '.' :: label ++ '.' :: label ++ '.' :: label
    let email := String.ofList (List.replicate 64 'a' ++ '@' :: domain)
    let u : User := .new ⟨"u", by decide⟩ ⟨0, 0⟩ "ada" email ""
    u.validate = [] ∧ ¬ Takes "users" "email" u.email := by
  intro label domain email u
  have hvalid : Email.isValid email = true := by
    rw [Email.isValid_ofList (by decide)]
    decide +kernel
  have hblank : Text.blank email = false := by
    rw [Text.blank, String.toList_ofList]
    decide
  have hlength : Text.length email = 320 := by
    rw [Text.length, String.toList_ofList]
    decide +kernel
  have hemail : Rule.email email = none := by
    rw [Rule.email, hblank, hvalid]
    rfl
  refine ⟨User.validate_eq_nil_iff.mpr ⟨by decide, by decide, hemail, rfl⟩, ?_⟩
  have htakes := Sql.Schema.takes_iff (Sql.Schema.users_width "email" (by simp)) email
  rw [hlength] at htakes
  exact htakes.not.mpr (by decide)

end Roster
