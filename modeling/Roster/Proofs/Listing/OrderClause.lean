import Roster.Proofs.Dialogue.Calls
import Roster.Proofs.Listing.Paging
import Roster.Store.Server

namespace Roster

open Std (OrientedCmp)
open Store (Tables)

namespace Sql

structure SortTerm where
  column : String
  order : SortOrder

def SortTerm.text (s : SortTerm) : String :=
  s.column ++ " " ++ s.order.keyword

def orderClause (terms : List SortTerm) : String :=
  " ORDER BY " ++ ", ".intercalate (terms.map SortTerm.text)

abbrev Cells := List (String × Value)

def Cells.get (cells : Cells) (column : String) : Value :=
  (cells.lookup column).getD .null

def Cells.of (table : String) (cells : Cells) : Cells :=
  cells.map fun e ↦ (table ++ "." ++ e.1, e.2)

/-- How values compare: texts by code points, and no comes before yes. -/
def Value.compare : Value → Value → Ordering
  | .text a, .text b => Ord.compare a b
  | .bool a, .bool b => Ord.compare a b
  | _, _ => .eq

def compareRows : List SortTerm → Cells → Cells → Ordering
  | [], _, _ => .eq
  | s :: rest, a, b =>
    (s.order.apply ((a.get s.column).compare (b.get s.column))).then (compareRows rest a b)

def InOrder (terms : List SortTerm) (rows : List Cells) : Prop :=
  rows.Pairwise fun a b ↦ (compareRows terms a b).isLE = true

instance (terms : List SortTerm) (rows : List Cells) : Decidable (InOrder terms rows) :=
  inferInstanceAs (Decidable (List.Pairwise _ _))

def Users.columnNames : List String :=
  ["id", "slug", "username", "email", "fullname", "password_hash", "active", "admin", "created_at",
    "updated_at"]

theorem Users.columns_eq : Users.columns = ", ".intercalate Users.columnNames := by
  decide

def Users.cells (u : User) : Cells :=
  Users.columnNames.zip (Users.insert u).args

def Circles.columnNames : List String :=
  ["id", "slug", "name", "created_at", "updated_at"]

theorem Circles.columns_eq : Circles.columns = ", ".intercalate Circles.columnNames := by
  decide

def Circles.cells (k : Kind) (c : Circle) : Cells :=
  Circles.columnNames.zip (Circles.insert k c).args

def Memberships.cells (k : Kind) (m : Member) : Cells :=
  .of "u" (Users.cells m.user) ++ .of "c" (Circles.cells k m.circle)

def numberAnswer (n : Int) : Answer :=
  ⟨[⟨[⟨"count", .int8⟩], [.int n]⟩], 1⟩

end Sql

open Sql (InOrder SortTerm compareRows orderClause)

namespace Collection

def call (l : Listing) : Collection → Store.Call
  | users => .listUsers l
  | circles k => .listCircles k l
  | membersOf k id => .listByCircle k id l
  | circlesOf k id => .listByUser k id l

def counting (l : Listing) : Collection → Sql.Statement
  | users => Sql.Users.countMatching l
  | circles k => Sql.Circles.countMatching k l
  | membersOf k id => Sql.Memberships.countMatching k (Sql.Memberships.ofCircle k l) id.text l
  | circlesOf k id => Sql.Memberships.countMatching k (Sql.Memberships.ofUser l) id.text l

def selecting (l : Listing) : Collection → Sql.Statement
  | users => Sql.Users.selectPage l
  | circles k => Sql.Circles.selectPage k l
  | membersOf k id => Sql.Memberships.selectPage k (Sql.Memberships.ofCircle k l) id.text l
  | circlesOf k id => Sql.Memberships.selectPage k (Sql.Memberships.ofUser l) id.text l

def selection (l : Listing) : Collection → String
  | users => s!"SELECT {Sql.Users.columns} FROM users WHERE {Sql.Users.filter l}"
  | circles k => s!"SELECT {Sql.Circles.columns} FROM {k.plural} WHERE {Sql.Circles.filter l}"
  | membersOf k _ => s!"SELECT {Sql.Memberships.joinedColumns k} {Sql.Memberships.joined k} WHERE " ++
      (Sql.Memberships.ofCircle k l).filter l
  | circlesOf k _ => s!"SELECT {Sql.Memberships.joinedColumns k} {Sql.Memberships.joined k} WHERE " ++
      (Sql.Memberships.ofUser l).filter l

def row : (c : Collection) → c.Record → Sql.Cells
  | users => Sql.Users.cells
  | circles k => Sql.Circles.cells k
  | membersOf k _ | circlesOf k _ => Sql.Memberships.cells k

def terms (l : Listing) (ids : SortOrder) : Collection → List SortTerm
  | users => [⟨l.userColumn.name, l.order⟩, ⟨"id", ids⟩]
  | circles _ => [⟨l.circleColumn.text, l.order⟩, ⟨"id", ids⟩]
  | membersOf .. => [⟨"u." ++ l.userColumn.name, l.order⟩, ⟨"u.id", ids⟩]
  | circlesOf .. => [⟨"c." ++ l.circleColumn.text, l.order⟩, ⟨"c.id", ids⟩]

variable (c : Collection) (t : Tables) (l : Listing)

theorem asks_selecting : ∃ next, Store.Server.answer (c.call l) = .ask (c.counting l) next ∧
    ∀ n, ∃ next', next (.ok (Sql.numberAnswer n)) = .ask (c.selecting l) next' := by
  cases c <;> exact ⟨_, rfl, fun n ↦ ⟨_, rfl⟩⟩

theorem orderClause_pair (column column' : String) (o o' : SortOrder) :
    orderClause [⟨column, o⟩, ⟨column', o'⟩] =
      " ORDER BY " ++ (column ++ " " ++ o.keyword ++ ", " ++ (column' ++ " " ++ o'.keyword)) := by
  rfl

def pageStart (l : Listing) : Collection → ℕ
  | users | circles _ => (Sql.searchArgs l).length
  | membersOf .. | circlesOf .. => 1 + (Sql.searchArgs l).length

theorem selecting_sql_eq : (c.selecting l).sql =
    c.selection l ++ orderClause (c.terms l .asc) ++ " " ++ Sql.pageClause (c.pageStart l) := by
  -- The statements have these words in one piece.
  have hid : ", id ASC " = ", " ++ ("id" ++ (" " ++ (SortOrder.asc.keyword ++ " "))) := by decide
  have huser : ", u.id ASC" = ", " ++ ("u.id" ++ (" " ++ SortOrder.asc.keyword)) := by decide
  have hcircle : ", c.id ASC" = ", " ++ ("c.id" ++ (" " ++ SortOrder.asc.keyword)) := by decide
  cases c with
  | users =>
    simp only [selecting, selection, terms, pageStart, orderClause_pair, Sql.Users.selectPage,
      Sql.Statement.sql, toString, String.append_assoc, hid]
  | circles k =>
    simp only [selecting, selection, terms, pageStart, orderClause_pair, Sql.Circles.selectPage,
      Sql.Statement.sql, toString, String.append_assoc, hid]
  | membersOf k id =>
    simp only [selecting, selection, terms, pageStart, orderClause_pair, Sql.Memberships.selectPage,
      Sql.Memberships.ofCircle, Sql.Statement.sql, toString, String.append_assoc, huser]
  | circlesOf k id =>
    simp only [selecting, selection, terms, pageStart, orderClause_pair, Sql.Memberships.selectPage,
      Sql.Memberships.ofUser, Sql.Statement.sql, toString, String.append_assoc, hcircle]

theorem selecting_sql : ∃ n, (c.selecting l).sql =
    c.selection l ++ orderClause (c.terms l .asc) ++ " " ++ Sql.pageClause n :=
  ⟨_, c.selecting_sql_eq l⟩

theorem compareRows_terms (ids : SortOrder) (a b : c.Record) :
    compareRows (c.terms l ids) (c.row a) (c.row b) =
      (l.order.apply (c.column l a b)).then (ids.apply (Ord.compare (c.key a) (c.key b))) := by
  have hpair (column column' : String) (o o' : SortOrder) (a b : Sql.Cells) :
      compareRows [⟨column, o⟩, ⟨column', o'⟩] a b =
        (o.apply ((a.get column).compare (b.get column))).then
          (o'.apply ((a.get column').compare (b.get column'))) := by
    simp only [compareRows, Ordering.then_eq]
  cases c with
  | users =>
    simp only [terms, hpair, column]
    cases l.userColumn <;> rfl
  | circles k =>
    simp only [terms, hpair, column]
    cases l.circleColumn <;> rfl
  | membersOf k id =>
    simp only [terms, hpair, column]
    cases l.userColumn <;> rfl
  | circlesOf k id =>
    simp only [terms, hpair, column]
    cases l.circleColumn <;> rfl

theorem inOrder_terms {ids : SortOrder} {records : List c.Record} :
    InOrder (c.terms l ids) (records.map c.row) ↔ records.Pairwise fun a b ↦
      ((l.order.apply (c.column l a b)).then
        (ids.apply (Ord.compare (c.key a) (c.key b)))).isLE = true := by
  simp only [InOrder, List.pairwise_map, compareRows_terms]

theorem arranged_inOrder : InOrder (c.terms l l.order) ((c.arranged t l).map c.row) := by
  rw [inOrder_terms]
  refine (arranged_pairwise c l t).imp fun h ↦ ?_
  rwa [← SortOrder.apply_then]

theorem eq_of_isLE_swap {a b : String} (h : (Ord.compare a b).isLE = true)
    (h' : (Ord.compare a b).swap.isLE = true) : a = b := by
  cases hab : Ord.compare a b with
  | eq => exact Std.LawfulEqOrd.eq_of_compare hab
  | lt => simp [hab] at h'
  | gt => simp [hab] at h

theorem arranged_inOrder_iff :
    InOrder (c.terms l .asc) ((c.arranged t l).map c.row) ↔ l.order = .asc ∨
      ∀ a ∈ c.arranged t l, ∀ b ∈ c.arranged t l, c.column l a b = .eq → c.key a = c.key b := by
  constructor
  · intro hrows
    cases horder : l.order with
    | asc => exact .inl rfl
    | desc =>
      have hkeys : (c.arranged t l).Pairwise fun a b ↦ c.column l a b = .eq → c.key a = c.key b := by
        refine ((c.inOrder_terms l).mp hrows).imp₂ ?_ (c.arranged_pairwise l t)
        intro a b hrising hfalling hcolumn
        rw [compare, hcolumn, horder] at hfalling
        rw [hcolumn, horder] at hrising
        exact eq_of_isLE_swap hrising hfalling
      refine .inr fun a ha b hb ↦ ?_
      refine hkeys.forall_of_forall_of_flip (fun _ _ _ ↦ rfl) (hkeys.imp fun h hcolumn ↦ ?_) ha hb
      exact (h (OrientedCmp.eq_symm hcolumn)).symm
  · rintro (horder | hkeys)
    · have := c.arranged_inOrder t l
      rwa [horder] at this
    · rw [inOrder_terms]
      refine (c.arranged_pairwise_column l t).imp_of_mem fun {a b} ha hb h ↦ ?_
      refine Ordering.isLE_then_iff_and.mpr ⟨h, ?_⟩
      refine (Ordering.isLE_iff_eq_lt_or_eq_eq.mp h).imp_right fun heq ↦ ?_
      have hself : (Ord.compare (c.key b) (c.key b)).isLE = true := Std.ReflCmp.isLE_rfl
      rw [hkeys a ha b hb (SortOrder.apply_eq_eq.mp heq)]
      exact hself

/-- A list is asked for by its column in the direction wanted, then by rising ids. The arrangement in
memory, which pages are cut from, has the same records in the order of the column, and ids in its
direction; so it is the one asked for in rising order, and in falling order exactly when no two
records are equal in the column. -/
theorem arranged_as_selected_iff (t : Tables) :
    (∃ next, Store.Server.answer (c.call l) = .ask (c.counting l) next ∧
      ∀ n, ∃ next', next (.ok (Sql.numberAnswer n)) = .ask (c.selecting l) next') ∧
    (∃ n, (c.selecting l).sql =
      c.selection l ++ orderClause (c.terms l .asc) ++ " " ++ Sql.pageClause n) ∧
    (∀ limit offset, c.page t (l.window limit offset) =
      .ok ⟨(c.arranged t l).extract offset (offset + limit), (c.arranged t l).length⟩) ∧
    (c.arranged t l).Perm ((c.contents t).filter (c.isMatch l)) ∧
    InOrder (c.terms l l.order) ((c.arranged t l).map c.row) ∧
    (InOrder (c.terms l .asc) ((c.arranged t l).map c.row) ↔ l.order = .asc ∨
      ∀ a ∈ c.arranged t l, ∀ b ∈ c.arranged t l, c.column l a b = .eq → c.key a = c.key b) :=
  ⟨c.asks_selecting l, c.selecting_sql l, c.page_window t l, Listing.arranged_perm,
    c.arranged_inOrder t l, c.arranged_inOrder_iff t l⟩

theorem equals_arranged_backwards :
    let ada : User := .new ⟨"a", by decide⟩ ⟨0, 0⟩ "ada" "ada@example.org" "h"
    let bob : User := .new ⟨"b", by decide⟩ ⟨0, 0⟩ "bob" "bob@example.org" "h"
    let t := Tables.empty.after [.createUser ada, .createUser bob]
    let l : Listing := ⟨"", some "active", .desc, 100, 0⟩
    let clause := orderClause (users.terms l .asc)
    clause = " ORDER BY active DESC, id ASC" ∧
      users.page t l = .ok ⟨[bob, ada], 2⟩ ∧
      ¬ InOrder (users.terms l .asc) ([bob, ada].map users.row) ∧
      InOrder (users.terms l .asc) ([ada, bob].map users.row) := by
  intro ada bob t l clause
  have hentries : t.users.entries = [("a", ada), ("b", bob)] := by decide
  have hvalues : t.users.values = [ada, bob] := by rw [Store.Table.values, hentries]; rfl
  have hgt : (l.compareUsers ada bob).isLE = false := by decide
  have hsorted : [ada, bob].mergeSort (fun a b ↦ (l.compareUsers a b).isLE) = [bob, ada] := by
    simp [List.mergeSort, hgt]
  refine ⟨by decide, ?_, by decide, by decide⟩
  calc users.page t l
    _ = .ok (l.page l.matchesUser l.compareUsers t.users.values) := rfl
    _ = .ok ⟨l.cut ([ada, bob].mergeSort fun a b ↦ (l.compareUsers a b).isLE), 2⟩ := by
      rw [hvalues]
      rfl
    _ = .ok ⟨[bob, ada], 2⟩ := by rw [hsorted]; rfl

end Collection

end Roster
