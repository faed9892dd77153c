import Roster.Proofs.Listing.OrderClause
import Roster.Proofs.Sql.Parameters

namespace Roster

open Sql (Place Value Reader)

def Listing.searchSlots (l : Listing) (columns : List String) : List (Place × Value) :=
  if l.search.isEmpty then []
  else columns.map fun c ↦ (.searched c, .text (Sql.likePattern l.search))

def Listing.pageSlots (l : Listing) : List (Place × Value) :=
  [(.limit, Sql.countValue l.limit), (.offset, Sql.countValue l.offset)]

namespace Sql

theorem length_searchArgs (l : Listing) :
    (searchArgs l).length = if l.search.isEmpty then 0 else 1 := by
  rw [searchArgs]
  split <;> rfl

def idSlots (id : String) : List (Place × Value) :=
  [(.compared "id", .text id)]

def takenSlots (column value : String) (except : Value) : List (Place × Value) :=
  [(.compared column, .text value), (.alone, except), (.apart "id", except)]

theorem begin_binds : Statement.begin.Binds [] :=
  .of_places 0 [] rfl rfl rfl (by decide)

theorem commit_binds : Statement.commit.Binds [] :=
  .of_places 0 [] rfl rfl rfl (by decide)

theorem rollback_binds : Statement.rollback.Binds [] :=
  .of_places 0 [] rfl rfl rfl (by decide)

namespace Users

def findSlots (reference : String) : List (Place × Value) :=
  [(.compared "id", .text reference), (.compared "slug", .text reference),
    (.compared "username", .text reference), (.compared "id", .text reference)]

def namedSlots (name : String) : List (Place × Value) :=
  [(.compared "username", .text name)]

def slots (u : User) : List (Place × Value) :=
  [(.stored "slug", .text u.slug), (.stored "username", .text u.username),
    (.stored "email", .text u.email), (.stored "fullname", .text u.fullname),
    (.stored "password_hash", .text u.passwordHash), (.stored "active", .bool u.active),
    (.stored "admin", .bool u.admin)]

def insertSlots (u : User) : List (Place × Value) :=
  (.stored "id", .text u.id.text) :: slots u ++
    [(.stored "created_at", .time u.createdAt), (.stored "updated_at", .time u.updatedAt)]

def replaceSlots (u : User) : List (Place × Value) :=
  slots u ++ [(.stored "updated_at", .time u.updatedAt), (.compared "id", .text u.id.text)]

structure Bound : Prop where
  get (id : String) : (selectWhere "id = $1" id).Binds (idSlots id)
  named (name : String) : (selectWhere "username = $1" name).Binds (namedSlots name)
  find (reference : String) :
    (selectWhere "id = $1 OR slug = $1 OR username = $1 ORDER BY (id = $1) DESC" reference).Binds
      (findSlots reference)
  insert (u : User) : (insert u).Binds (insertSlots u)
  replace (u : User) : (replace u).Binds (replaceSlots u)
  delete (id : String) :
    (Statement.query "DELETE FROM users WHERE id = $1" [.text id]).Binds (idSlots id)
  selectTaken (key : User.Key) (value : String) (except : Option UserId) :
    (selectTaken key value except).Binds
      (takenSlots key.name value (except.elim .null (.text ·.text)))
  count : (Statement.query "SELECT COUNT(*) FROM users" []).Binds []

theorem bound : Bound := by
  refine
    { get := fun id ↦ .of_places 1 [1] (by decide) rfl rfl ?_
      named := fun name ↦ .of_places 1 [1] (by decide) rfl rfl ?_
      find := fun reference ↦ .of_places 1 [1, 1, 1, 1] (by decide) rfl rfl ?_
      insert := fun u ↦ .of_places 10 [1, 2, 3, 4, 5, 6, 7, 8, 9, 10] (by decide) rfl rfl ?_
      replace := fun u ↦ .of_places 9 [2, 3, 4, 5, 6, 7, 8, 9, 1] (by decide) rfl rfl ?_
      delete := fun id ↦ .of_places 1 [1] (by decide) rfl rfl ?_
      selectTaken := fun key value except ↦ .of_places 2 [1, 2, 2] (by decide) rfl rfl ?taken
      count := .of_places 0 [] rfl rfl rfl ?_ }
  case taken =>
    simp only [selectTaken, takenSlots, Statement.sql, toString, List.map_cons, List.map_nil]
    cases key <;>
    · rw [places]
      simp only [User.Key.name, Reader.readAll_append]
      repeat rw [Reader.readAll_ofList]
      decide +kernel
  all_goals
    simp only [selectWhere, insert, replace, columns, idSlots, namedSlots, findSlots, insertSlots,
      replaceSlots, slots, Statement.sql, toString, List.map_cons, List.map_nil, List.cons_append,
      List.nil_append]
    rw [places]
    simp -failIfUnchanged only [Reader.readAll_append]
    repeat rw [Reader.readAll_ofList]
    decide +kernel

end Users

namespace Circles

def findSlots (reference : String) : List (Place × Value) :=
  [(.compared "id", .text reference), (.compared "slug", .text reference),
    (.compared "id", .text reference)]

def insertSlots (c : Circle) : List (Place × Value) :=
  [(.stored "id", .text c.id.text), (.stored "slug", .text c.slug), (.stored "name", .text c.name),
    (.stored "created_at", .time c.createdAt), (.stored "updated_at", .time c.updatedAt)]

def replaceSlots (c : Circle) : List (Place × Value) :=
  [(.stored "slug", .text c.slug), (.stored "name", .text c.name),
    (.stored "updated_at", .time c.updatedAt), (.compared "id", .text c.id.text)]

variable (k : Kind)

structure Bound : Prop where
  get (id : String) : (selectWhere k "id = $1" id).Binds (idSlots id)
  find (reference : String) :
    (selectWhere k "id = $1 OR slug = $1 ORDER BY (id = $1) DESC" reference).Binds
      (findSlots reference)
  insert (c : Circle) : (insert k c).Binds (insertSlots c)
  replace (c : Circle) : (replace k c).Binds (replaceSlots c)
  delete (id : String) :
    (Statement.query s!"DELETE FROM {k.plural} WHERE id = $1" [.text id]).Binds (idSlots id)
  selectTaken (key : Circle.Key) (value : String) (except : Option CircleId) :
    (selectTaken k key value except).Binds
      (takenSlots key.text value (except.elim .null (.text ·.text)))
  count : (Statement.query s!"SELECT COUNT(*) FROM {k.plural}" []).Binds []

theorem bound : Bound k := by
  refine
    { get := fun id ↦ .of_places 1 [1] (by decide) rfl rfl ?_
      find := fun reference ↦ .of_places 1 [1, 1, 1] (by decide) rfl rfl ?_
      insert := fun c ↦ .of_places 5 [1, 2, 3, 4, 5] (by decide) rfl rfl ?_
      replace := fun c ↦ .of_places 4 [2, 3, 4, 1] (by decide) rfl rfl ?_
      delete := fun id ↦ .of_places 1 [1] (by decide) rfl rfl ?_
      selectTaken := fun key value except ↦ .of_places 2 [1, 2, 2] (by decide) rfl rfl ?taken
      count := .of_places 0 [] rfl rfl rfl ?_ }
  case taken =>
    simp only [selectTaken, takenSlots, Statement.sql, toString, List.map_cons, List.map_nil]
    cases k <;> cases key <;>
    · rw [places]
      simp only [Kind.plural, Circle.Key.text, Reader.readAll_append]
      repeat rw [Reader.readAll_ofList]
      decide +kernel
  all_goals
    simp only [selectWhere, insert, replace, columns, idSlots, findSlots, insertSlots, replaceSlots,
      Statement.sql, toString, List.map_cons, List.map_nil]
    cases k <;>
    · rw [places]
      simp only [Kind.plural, Reader.readAll_append]
      repeat rw [Reader.readAll_ofList]
      decide +kernel

end Circles

namespace Memberships

variable (k : Kind)

def pairSlots (user : UserId) (circle : CircleId) : List (Place × Value) :=
  [(.compared "user_id", .text user.text), (.compared (column k), .text circle.text)]

def insertSlots (m : Membership) : List (Place × Value) :=
  [(.stored "user_id", .text m.userId.text), (.stored (column k), .text m.circleId.text),
    (.stored "perm", .text m.permission.name), (.stored "created_at", .time m.createdAt),
    (.stored "updated_at", .time m.updatedAt)]

structure Bound : Prop where
  insert (m : Membership) : (Circles.insertMembership k m).Binds (insertSlots k m)
  setPermission (user : UserId) (circle : CircleId) (p : Permission) :
    (setPermission k user circle p).Binds ((.stored "perm", .text p.name) :: pairSlots k user circle)
  delete (user : UserId) (circle : CircleId) :
    (Statement.query s!"DELETE FROM {table k} WHERE user_id = $1 AND {column k} = $2"
      [.text user.text, .text circle.text]).Binds (pairSlots k user circle)
  selectPair (user : UserId) (circle : CircleId) :
    (selectPair k user circle).Binds (pairSlots k user circle)

theorem bound : Bound k := by
  refine
    { insert := fun m ↦ .of_places 5 [1, 2, 3, 4, 5] (by decide) rfl rfl ?_
      setPermission := fun user circle p ↦ .of_places 3 [3, 1, 2] (by decide) rfl rfl ?_
      delete := fun user circle ↦ .of_places 2 [1, 2] (by decide) rfl rfl ?_
      selectPair := fun user circle ↦ .of_places 2 [1, 2] (by decide) rfl rfl ?_ }
  all_goals
    simp only [Circles.insertMembership, setPermission, selectPair, pairSlots, insertSlots, table,
      column, Statement.sql, toString, List.map_cons, List.map_nil]
    cases k <;>
    · rw [places]
      simp only [Kind.name, Kind.plural, Reader.readAll_append]
      repeat rw [Reader.readAll_ofList]
      decide +kernel

end Memberships

end Sql

namespace Collection

open Sql

variable (c : Collection) (l : Listing)

def slots (l : Listing) : Collection → List (Place × Value)
  | users => l.searchSlots ["username", "email", "fullname"]
  | circles _ => l.searchSlots ["name", "slug"]
  | membersOf k id => (.compared ("m." ++ Memberships.column k), .text id.text) ::
      l.searchSlots ["u.username", "u.email", "u.fullname"]
  | circlesOf _ id => (.compared "m.user_id", .text id.text) :: l.searchSlots ["c.name", "c.slug"]

def numbers (l : Listing) : Collection → List ℕ
  | users => if l.search.isEmpty then [] else [1, 1, 1]
  | circles _ => if l.search.isEmpty then [] else [1, 1]
  | membersOf .. => 1 :: if l.search.isEmpty then [] else [2, 2, 2]
  | circlesOf .. => 1 :: if l.search.isEmpty then [] else [2, 2]

def condition (l : Listing) : Collection → String
  | users => Users.filter l
  | circles _ => Circles.filter l
  | membersOf k _ => (Memberships.ofCircle k l).filter l
  | circlesOf _ _ => (Memberships.ofUser l).filter l

def heads : Collection → List String
  | users => ["SELECT COUNT(*) FROM users WHERE ", s!"SELECT {Users.columns} FROM users WHERE "]
  | circles k => [s!"SELECT COUNT(*) FROM {k.plural} WHERE ",
      s!"SELECT {Circles.columns} FROM {k.plural} WHERE "]
  | membersOf k _ | circlesOf k _ => [s!"SELECT COUNT(*) {Memberships.joined k} WHERE ",
      s!"SELECT {Memberships.joinedColumns k} {Memberships.joined k} WHERE "]

theorem readAll_heads : ∀ head ∈ c.heads, Reader.readAll {} head = { clause := .condition } := by
  have hjoined (k : Kind) : ∀ head ∈ [s!"SELECT COUNT(*) {Memberships.joined k} WHERE ",
      s!"SELECT {Memberships.joinedColumns k} {Memberships.joined k} WHERE "],
      Reader.readAll {} head = { clause := .condition } := by
    delta Memberships.joinedColumns
    simp only [List.forall_mem_cons, Memberships.joined, Memberships.table,
      Memberships.column, toString]
    cases k <;>
    · simp only [Kind.name, Kind.plural, Reader.readAll_append]
      repeat rw [Reader.readAll_ofList]
      decide +kernel
  cases c with
  | users =>
    simp only [heads, List.forall_mem_cons, Users.columns, toString,
      Reader.readAll_append]
    repeat rw [Reader.readAll_ofList]
    decide +kernel
  | circles k =>
    simp only [heads, List.forall_mem_cons, Circles.columns, toString]
    cases k <;>
    · simp only [Kind.plural, Reader.readAll_append]
      repeat rw [Reader.readAll_ofList]
      decide
  | membersOf k id => exact hjoined k
  | circlesOf k id => exact hjoined k

theorem heads_condition :
    [(c.counting l).sql, c.selection l] = c.heads.map (· ++ condition l c) := by
  cases c <;> rfl

theorem readAll_condition :
    ((Reader.readAll { clause := .condition } (condition l c)).readAll " ").found =
      ((slots l c).map Prod.fst).zip (numbers l c) := by
  cases c with
  | users =>
    simp only [condition, slots, numbers, Listing.searchSlots, Users.filter]
    cases l.search.isEmpty <;>
    · simp only [Bool.false_eq_true, if_true, if_false, List.map_cons, List.map_nil]
      repeat rw [Reader.readAll_ofList]
      decide
  | circles k =>
    simp only [condition, slots, numbers, Listing.searchSlots, Circles.filter]
    cases l.search.isEmpty <;>
    · simp only [Bool.false_eq_true, if_true, if_false, List.map_cons, List.map_nil]
      repeat rw [Reader.readAll_ofList]
      decide
  | membersOf k id =>
    simp only [condition, slots, numbers, Listing.searchSlots, Memberships.View.filter,
      Memberships.ofCircle, Memberships.column]
    cases k <;> cases l.search.isEmpty <;>
    · simp only [toString, Kind.name, Bool.false_eq_true, if_true, if_false, List.map_cons,
        List.map_nil, Reader.readAll_append]
      repeat rw [Reader.readAll_ofList]
      decide +kernel
  | circlesOf k id =>
    simp only [condition, slots, numbers, Listing.searchSlots, Memberships.View.filter,
      Memberships.ofUser]
    cases l.search.isEmpty <;>
    · simp only [toString, Bool.false_eq_true, if_true, if_false, List.map_cons, List.map_nil,
        Reader.readAll_append]
      repeat rw [Reader.readAll_ofList]
      decide

/-- The number of records and the page are asked for under the same condition. -/
theorem places_condition :
    ∀ s ∈ [(c.counting l).sql, c.selection l],
      places s = ((slots l c).map Prod.fst).zip (numbers l c) := by
  intro s hs
  rw [heads_condition] at hs
  obtain ⟨head, hhead, rfl⟩ := List.mem_map.mp hs
  rw [places_where (c.readAll_heads head hhead), readAll_condition]

theorem pageStart_le : c.pageStart l ≤ 2 := by
  cases c <;> simp only [pageStart, length_searchArgs] <;> split_ifs <;> decide

theorem numbers_toFinset : (numbers l c).toFinset = Finset.Icc 1 (c.pageStart l) := by
  cases c <;> simp only [numbers, pageStart, length_searchArgs] <;> split_ifs <;> decide

theorem counting_args : (c.counting l).args.length = c.pageStart l ∧
    (numbers l c).map ((c.counting l).args[· - 1]?) = (slots l c).map (some ·.2) := by
  cases hsearch : l.search.isEmpty <;> cases c <;>
    simp [counting, numbers, pageStart, slots, Listing.searchSlots, Users.countMatching,
      Circles.countMatching, Memberships.countMatching, Statement.args, searchArgs, hsearch]

theorem counting_binds : (c.counting l).Binds (slots l c) :=
  .of_places _ _ (c.numbers_toFinset l) (c.counting_args l).1 (c.counting_args l).2
    (c.places_condition l _ (by simp))

theorem selecting_args : (c.selecting l).args = (c.counting l).args ++ pageArgs l := by
  cases c <;> rfl

theorem orderClause_plain : '$' ∉ (orderClause (c.terms l .asc)).toList := by
  have hpair (column column' : String) (o o' : SortOrder) (hcolumn : '$' ∉ column.toList)
      (hcolumn' : '$' ∉ column'.toList) :
      '$' ∉ (orderClause [⟨column, o⟩, ⟨column', o'⟩]).toList := by
    have hkeyword (o : SortOrder) : '$' ∉ o.keyword.toList := by cases o <;> decide
    simp only [orderClause_pair, String.toList_append, List.mem_append, not_or]
    exact ⟨by decide, ⟨⟨⟨hcolumn, by decide⟩, hkeyword o⟩, by decide⟩,
      ⟨hcolumn', by decide⟩, hkeyword o'⟩
  cases c with
  | users => exact hpair _ _ _ _ (by cases l.userColumn <;> decide) (by decide)
  | circles k => exact hpair _ _ _ _ (by cases l.circleColumn <;> decide) (by decide)
  | membersOf k id => exact hpair _ _ _ _ (by cases l.userColumn <;> decide) (by decide)
  | circlesOf k id => exact hpair _ _ _ _ (by cases l.circleColumn <;> decide) (by decide)

theorem selecting_places : places (c.selecting l).sql =
    places (c.selection l) ++ [(.limit, c.pageStart l + 1), (.offset, c.pageStart l + 2)] := by
  obtain ⟨order, horder⟩ : ∃ order, orderClause (c.terms l .asc) = " " ++ order :=
    ⟨"ORDER BY " ++ ", ".intercalate ((c.terms l .asc).map SortTerm.text), by
      have hclause : " ORDER BY " = " " ++ "ORDER BY " := by decide
      rw [orderClause, hclause, String.append_assoc]⟩
  have hplain : '$' ∉ order.toList := by
    have h := c.orderClause_plain l
    rw [horder, String.toList_append] at h
    exact fun hmem ↦ h (List.mem_append_right _ hmem)
  rw [selecting_sql_eq, horder, ← String.append_assoc]
  exact places_page hplain (c.pageStart_le l)

theorem selecting_binds : (c.selecting l).Binds (slots l c ++ l.pageSlots) := by
  obtain ⟨hargs, hvalues⟩ := c.counting_args l
  have hnumbers := c.numbers_toFinset l
  let n := c.pageStart l
  have hmem {i : ℕ} (hi : i ∈ numbers l c) : 1 ≤ i ∧ i ≤ n := by
    rw [← List.mem_toFinset, hnumbers] at hi
    exact Finset.mem_Icc.mp hi
  refine .of_places (n + 2) (numbers l c ++ [n + 1, n + 2]) ?_ ?_ ?_ ?_
  · ext i
    rw [List.toFinset_append, hnumbers]
    simp only [Finset.mem_union, Finset.mem_Icc, List.mem_toFinset, List.mem_cons,
      List.not_mem_nil, or_false]
    omega
  · rw [selecting_args, List.length_append, hargs]
    rfl
  · rw [List.map_append, List.map_append, ← hvalues, selecting_args]
    congr 1
    · refine List.map_congr_left fun i hi ↦ List.getElem?_append_left ?_
      have := hmem hi
      omega
    · rw [List.map_cons, List.map_cons, List.getElem?_append_right (by simp [hargs, n]),
        List.getElem?_append_right (by simp [hargs, n]), hargs]
      simp [n, pageArgs, Listing.pageSlots]
  · rw [selecting_places, c.places_condition l _ (by simp), List.map_append, List.zip_append]
    · rfl
    · simpa using (congrArg List.length hvalues).symm

end Collection

end Roster
