import Roster.Sql.Search
import Roster.Text.Pieces
import Mathlib.Order.Interval.Finset.Nat

namespace Roster.Sql

inductive Place where
  | stored (column : String)
  | compared (column : String)
  | apart (column : String)
  | searched (column : String)
  | limit
  | offset
  | alone
  deriving DecidableEq, Repr

inductive Clause where
  | opening
  | columns
  | values
  | assignment
  | condition
  | limit
  | offset
  deriving DecidableEq, Repr

def Clause.ofWord? : List Char → Option Clause
  | ['I', 'N', 'T', 'O'] => some columns
  | ['V', 'A', 'L', 'U', 'E', 'S'] => some values
  | ['S', 'E', 'T'] => some assignment
  | ['W', 'H', 'E', 'R', 'E'] => some condition
  | ['L', 'I', 'M', 'I', 'T'] => some limit
  | ['O', 'F', 'F', 'S', 'E', 'T'] => some offset
  | _ => none

/-- A reader in the middle of a text: the word it is in (backwards), the clause and its last two
words, the columns of an insertion that have no value yet, and the parameter it is in. -/
structure Reader where
  word : List Char := []
  clause : Clause := .opening
  last : List Char := []
  before : List Char := []
  columns : List (List Char) := []
  parameter : Option (Place × Nat) := none
  found : List (Place × Nat) := []
  deriving DecidableEq, Repr

namespace Reader

def endWord (r : Reader) : Reader :=
  if r.word.isEmpty then r
  else match Clause.ofWord? r.word.reverse with
    | some .values => { clause := .values, columns := r.columns.tail, found := r.found }
    | some clause => { clause := clause, found := r.found }
    | none =>
      { r with
        word := []
        last := r.word.reverse
        before := r.last
        columns := if r.clause = .columns then r.columns ++ [r.word.reverse] else r.columns }

def place (r : Reader) : Place :=
  match r.clause, r.last with
  | .values, _ => .stored (String.ofList (r.columns.headD []))
  | .limit, _ => .limit
  | .offset, _ => .offset
  | .assignment, ['='] => .stored (String.ofList r.before)
  | _, ['='] => .compared (String.ofList r.before)
  | _, ['<', '>'] => .apart (String.ofList r.before)
  | _, ['I', 'L', 'I', 'K', 'E'] => .searched (String.ofList r.before)
  | _, _ => .alone

def endParameter (r : Reader) : Reader :=
  { r with parameter := none, found := r.found ++ r.parameter.toList }

def read (r : Reader) (c : Char) : Reader :=
  match r.parameter, Text.isDigit c with
  | some (place, n), true => { r with parameter := some (place, 10 * n + Text.digitValue c) }
  | _, _ =>
    let r := r.endParameter
    if c = '$' then
      let r := r.endWord
      { r with parameter := some (r.place, 0), columns := r.columns.tail }
    else if c = ' ' ∨ c = ',' ∨ c = '(' ∨ c = ')' then r.endWord
    else { r with word := c :: r.word }

def readAll (r : Reader) (s : String) : Reader :=
  s.toList.foldl read r

variable {r r' : Reader} {s s' : String}

theorem readAll_append : r.readAll (s ++ s') = (r.readAll s).readAll s' := by
  simp only [readAll, String.toList_append, List.foldl_append]

theorem readAll_ofList (cs : List Char) : r.readAll (String.ofList cs) = cs.foldl read r := by
  rw [readAll, String.toList_ofList]

theorem endWord_found : r.endWord.found = r.found := by
  rw [endWord]
  split
  · rfl
  · split <;> rfl

theorem endWord_parameter (hr : r.parameter = none) : r.endWord.parameter = none := by
  rw [endWord]
  split
  · exact hr
  · split <;> first | rfl | exact hr

theorem endWord_word : r.endWord.word = [] := by
  rw [endWord]
  split
  · next h => exact List.isEmpty_iff.mp h
  · split <;> rfl

theorem endParameter_eq (hr : r.parameter = none) : r.endParameter = r := by
  cases r
  subst hr
  simp [endParameter]

theorem readAll_plain (hr : r.parameter = none) (hs : '$' ∉ s.toList) :
    (r.readAll s).found = r.found ∧ (r.readAll s).parameter = none := by
  rw [readAll]
  generalize s.toList = cs at hs
  induction cs generalizing r with
  | nil => exact ⟨rfl, hr⟩
  | cons c cs ih =>
    obtain ⟨hc, hcs⟩ := not_or.mp (mt List.mem_cons.mpr hs)
    have hstep : (r.read c).found = r.found ∧ (r.read c).parameter = none := by
      simp only [read, hr, endParameter_eq hr, Ne.symm hc, if_false]
      split_ifs
      · exact ⟨endWord_found, endWord_parameter hr⟩
      · exact ⟨rfl, rfl⟩
    obtain ⟨hfound, hnone⟩ := ih hstep.2 hcs
    exact ⟨hfound.trans hstep.1, hnone⟩

theorem readAll_blank : (r.readAll " ").parameter = none ∧ (r.readAll " ").word = [] := by
  have hblank : r.readAll " " = r.endParameter.endWord := by
    simp [readAll, read, Text.isDigit]
  rw [hblank]
  exact ⟨endWord_parameter rfl, endWord_word⟩

def after (r : Reader) (ps : List (Place × Nat)) : Reader :=
  { r with found := ps ++ r.found }

variable {ps : List (Place × Nat)}

@[simp] theorem after_parameter : (r.after ps).parameter = r.parameter := rfl

theorem endWord_after : (r.after ps).endWord = r.endWord.after ps := by
  simp only [endWord, apply_ite (after · ps)]
  cases h : Clause.ofWord? r.word.reverse with
  | none => simp only [after, h]; rfl
  | some clause => cases clause <;> simp only [after, h]

theorem endParameter_after : (r.after ps).endParameter = r.endParameter.after ps := by
  simp only [endParameter, after, List.append_assoc]

theorem read_after (c : Char) : (r.after ps).read c = (r.read c).after ps := by
  simp only [read, after_parameter, endParameter_after]
  split
  · rfl
  · rw [endWord_after]
    split_ifs <;> rfl

theorem readAll_after : (r.after ps).readAll s = (r.readAll s).after ps := by
  simp only [readAll]
  induction s.toList generalizing r with
  | nil => rfl
  | cons c cs ih => rw [List.foldl_cons, List.foldl_cons, read_after, ih]

theorem readAll_limit (hr : r.parameter = none) (hword : r.word = []) :
    r.readAll "LIMIT " = ({ clause := .limit } : Reader).after r.found := by
  cases r
  subst hr hword
  rw [readAll_ofList]
  simp [read, endParameter, endWord, Clause.ofWord?, after]

end Reader

def places (s : String) : List (Place × Nat) :=
  ((Reader.readAll {} s).readAll " ").found

theorem places_where {head condition : String}
    (hhead : Reader.readAll {} head = { clause := .condition }) :
    places (head ++ condition) =
      ((Reader.readAll { clause := .condition } condition).readAll " ").found := by
  rw [places, Reader.readAll_append, hhead]

theorem found_pageClause {r : Reader} (hr : r.parameter = none) (hword : r.word = []) {n : ℕ}
    (hn : n ≤ 2) :
    ((r.readAll (pageClause n)).readAll " ").found =
      r.found ++ [(.limit, n + 1), (.offset, n + 2)] := by
  obtain ⟨rest, hrest, hfound⟩ : ∃ rest, pageClause n = "LIMIT " ++ rest ∧
      ((Reader.readAll { clause := .limit } rest).readAll " ").found =
        [(.limit, n + 1), (.offset, n + 2)] := by
    obtain rfl | rfl | rfl : n = 0 ∨ n = 1 ∨ n = 2 := by omega
    · exact ⟨"$1 OFFSET $2", by decide⟩
    · exact ⟨"$2 OFFSET $3", by decide⟩
    · exact ⟨"$3 OFFSET $4", by decide⟩
  rw [hrest, Reader.readAll_append, Reader.readAll_limit hr hword, Reader.readAll_after,
    Reader.readAll_after, Reader.after, hfound]

theorem places_page {opening order : String} (horder : '$' ∉ order.toList) {n : ℕ} (hn : n ≤ 2) :
    places (opening ++ " " ++ order ++ " " ++ pageClause n) =
      places opening ++ [(.limit, n + 1), (.offset, n + 2)] := by
  let r : Reader := (Reader.readAll {} opening).readAll " "
  obtain ⟨hfound, hnone⟩ := Reader.readAll_plain Reader.readAll_blank.1 horder (r := r)
  obtain ⟨hfound', -⟩ := Reader.readAll_plain hnone (s := " ") (by decide)
  calc places (opening ++ " " ++ order ++ " " ++ pageClause n)
    _ = ((((r.readAll order).readAll " ").readAll (pageClause n)).readAll " ").found := by
      simp only [places, r, Reader.readAll_append]
    _ = ((r.readAll order).readAll " ").found ++ [(.limit, n + 1), (.offset, n + 2)] :=
      found_pageClause Reader.readAll_blank.1 Reader.readAll_blank.2 hn
    _ = places opening ++ [(.limit, n + 1), (.offset, n + 2)] := by rw [hfound', hfound, places]

/-- The parameters are numbered by the arguments, all of which are used, and each of them takes the
value given for its place. -/
structure Statement.Binds (s : Statement) (slots : List (Place × Value)) : Prop where
  numbers : ((places s.sql).map Prod.snd).toFinset = Finset.Icc 1 s.args.length
  values : (places s.sql).map (fun p ↦ (p.1, s.args[p.2 - 1]?)) = slots.map fun p ↦ (p.1, some p.2)

theorem Statement.Binds.of_places {s : Statement} {slots : List (Place × Value)} (n : ℕ)
    (numbers : List ℕ) (hnumbers : numbers.toFinset = Finset.Icc 1 n) (hargs : s.args.length = n)
    (hvalues : numbers.map (s.args[· - 1]?) = slots.map (some ·.2))
    (hplaces : places s.sql = (slots.map Prod.fst).zip numbers) : s.Binds slots := by
  have hlength : numbers.length = slots.length := by simpa using congrArg List.length hvalues
  constructor
  · rw [hplaces, List.map_snd_zip (by simp [hlength]), hnumbers, hargs]
  · rw [hplaces]
    calc ((slots.map Prod.fst).zip numbers).map (fun p ↦ (p.1, s.args[p.2 - 1]?))
      _ = ((slots.map Prod.fst).zip (numbers.map (s.args[· - 1]?))) := by
        rw [List.zip_map_right]
        rfl
      _ = slots.map fun p ↦ (p.1, some p.2) := by
        rw [hvalues, List.zip_map']

end Roster.Sql
