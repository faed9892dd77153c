import Roster.Proofs.Sql.Constraint
import Roster.Proofs.Sql.Transaction
import Roster.Proofs.Store.Members
import Roster.Store.Server

namespace Roster

open Sql (CarriedOut Refusal Statement Step Trouble Violation hear inTurn)
open Store (Tables)

namespace Sql.Circles

variable (k : Kind) (c : Circle) (owner : Option Membership)

def creation : List Step :=
  [⟨.begin, fun r ↦ (Trouble.refused r).toFault "begin transaction", []⟩,
    ⟨insert k c, explain k c, [.rollback]⟩] ++
  owner.toList.map (fun m ↦ ⟨insertMembership k m, explainOwner k m, [.rollback]⟩) ++
  [⟨.commit, fun r ↦ (Trouble.refused r).toFault "commit transaction", [.rollback]⟩]

def creationStatements : List Statement :=
  [.begin, insert k c] ++ owner.toList.map (insertMembership k) ++ [.commit]

theorem run_create : (create k c owner).run = inTurn c (creation k c owner) := by
  have hend : (pure c : Query Circle).run = inTurn c [] := rfl
  cases owner with
  | none => exact Query.run_transaction (Query.run_sendOr_bind hend)
  | some m => exact Query.run_transaction (Query.run_sendOr_bind (Query.run_sendOr_bind hend))

theorem creation_statements :
    (creation k c owner).map (·.statement) = creationStatements k c owner := by
  simp [creation, creationStatements]

theorem insert_ne_insertMembership (m : Membership) : insert k c ≠ insertMembership k m := by
  intro h
  have htext := congrArg Statement.sql h
  simp only [insert, insertMembership, Statement.sql] at htext
  revert htext
  cases k <;> decide

variable {k c owner} {p : Step}

theorem mem_creation (hp : p ∈ creation k c owner) :
    p.statement = .begin ∧ p.undo = [] ∨
      p.undo = [.rollback] ∧ (p.statement = insert k c ∧ p.explain = explain k c ∨
        (∃ m ∈ owner, p.statement = insertMembership k m ∧ p.explain = explainOwner k m) ∨
        p.statement = .commit) := by
  simp only [creation, List.mem_append, List.mem_cons, List.not_mem_nil, or_false,
    List.mem_map] at hp
  rcases hp with ((rfl | rfl) | ⟨m, hm, rfl⟩) | rfl
  · exact .inl ⟨rfl, rfl⟩
  · exact .inr ⟨rfl, .inl ⟨rfl, rfl⟩⟩
  · exact .inr ⟨rfl, .inr (.inl ⟨m, Option.mem_toList.mp hm, rfl, rfl⟩)⟩
  · exact .inr ⟨rfl, .inr (.inr rfl)⟩

/-- Nothing is undone before the transaction has begun, and all of it afterwards. -/
theorem undo_of_mem_creation (hp : p ∈ creation k c owner) :
    p.undo = (if p.statement = .begin ∨ p.statement = .rollback then [] else [.rollback]) := by
  rcases mem_creation hp with ⟨hs, hundo⟩ | ⟨hundo, ⟨hs, -⟩ | ⟨m, -, hs, -⟩ | hs⟩ <;>
    simp [hs, hundo, insert, insertMembership]

theorem explain_of_mem_creation (hp : p ∈ creation k c owner) (hs : p.statement = insert k c) :
    p.explain = explain k c := by
  rcases mem_creation hp with ⟨hs', -⟩ | ⟨-, ⟨-, hexplain⟩ | ⟨m, -, hs', -⟩ | hs'⟩
  · cases hs'.symm.trans hs
  · exact hexplain
  · exact absurd (hs.symm.trans hs') (insert_ne_insertMembership k c m)
  · cases hs'.symm.trans hs

theorem explainOwner_of_mem_creation {m : Membership} (hm : m ∈ owner)
    (hp : p ∈ creation k c owner) (hs : p.statement = insertMembership k m) :
    p.explain = explainOwner k m := by
  rcases mem_creation hp with ⟨hs', -⟩ | ⟨-, ⟨hs', -⟩ | ⟨n, hn, -, hexplain⟩ | hs'⟩
  · cases hs'.symm.trans hs
  · exact absurd (hs'.symm.trans hs) (insert_ne_insertMembership k c m)
  · obtain rfl : n = m := Option.some.inj (hn.symm.trans hm)
    exact hexplain
  · cases hs'.symm.trans hs

end Sql.Circles

namespace Store

/-- What is heard when a circle is to be stored with its owner: the statements, each with its reply,
and the outcome. -/
structure Server.Founds (k : Kind) (c : Circle) (owner : Option Membership)
    (heard : List (Statement × Except Refusal Sql.Answer) × Except Fault Circle) : Prop where
  carriedOut : ∀ c', heard.2 = .ok c' →
    c' = c ∧ CarriedOut (Sql.Circles.creationStatements k c owner) heard.1
  succeeds : (∀ e ∈ heard.1, e.2.isOk = true) → heard.2 = .ok c
  rolledBack : ∀ before s r after, heard.1 = before ++ (s, .error r) :: after →
    after.map (·.1) = (if s = .begin ∨ s = .rollback then [] else [.rollback]) ∧
      ∃ f, heard.2 = .error f
  taken : ∀ r (key : Circle.Key), (Sql.Circles.insert k c, .error r) ∈ heard.1 →
    r.code = Violation.uniqueCode → r.constraint = k.plural ++ "_" ++ key.text ++ "_key" →
    heard.2 = .error (.field key.text "is already taken")
  alreadyThere : ∀ r, (Sql.Circles.insert k c, .error r) ∈ heard.1 →
    r.code = Violation.uniqueCode → r.constraint = k.plural ++ "_pkey" →
    heard.2 = .error (.conflict s!"{k.name} with ID '{c.id.text}' already exists")
  noUser : ∀ r, ∀ m ∈ owner, (Sql.Circles.insertMembership k m, .error r) ∈ heard.1 →
    r.code = Violation.referenceCode → r.constraint = "user_" ++ k.plural ++ "_user_id_fkey" →
    heard.2 = .error (.userNotFound m.userId.text)

theorem Server.founds (k : Kind) (c : Circle) (owner : Option Membership)
    (replies : ℕ → Except Refusal Sql.Answer) :
    Server.Founds k c owner (hear replies (Server.answer (.createCircle k c owner))) := by
  have hrun : Server.answer (.createCircle k c owner) = inTurn c (Sql.Circles.creation k c owner) :=
    Sql.Circles.run_create k c owner
  rw [hrun]
  have hnone {s : Statement} (hs : s ≠ .rollback) :
      ∀ p ∈ Sql.Circles.creation k c owner, s ∉ p.undo := by
    intro p hp
    rw [Sql.Circles.undo_of_mem_creation hp]
    split <;> simp [hs]
  have hinsert {r : Refusal} (h : (Sql.Circles.insert k c, .error r) ∈
      (hear replies (inTurn c (Sql.Circles.creation k c owner))).1) :=
    Sql.hear_inTurn_fault replies h (hnone (by simp [Sql.Circles.insert]))
      fun p hp hs ↦ congrFun (Sql.Circles.explain_of_mem_creation hp hs) r
  refine ⟨?_, Sql.hear_inTurn_of_ok replies, ?_, ?_, ?_, ?_⟩
  · intro c' hc'
    rw [← Sql.Circles.creation_statements]
    exact Sql.hear_inTurn_ok replies hc'
  · intro before s r after hsplit
    exact Sql.hear_inTurn_rolledBack replies (fun p ↦ Sql.Circles.undo_of_mem_creation) hsplit
  · intro r key hrefused hcode hname
    have hword : ∀ c ∈ key.text.toList, (c == '_') = false := by
      cases key <;> simp [Circle.Key.text]
    rw [hinsert hrefused, Sql.Circles.explain,
      Violation.ofRefusal?_unique k.plural hcode hword hname]
    rfl
  · intro r hrefused hcode hname
    rw [hinsert hrefused, Sql.Circles.explain, Violation.ofRefusal?_primaryKey k.plural hcode hname]
  · intro r m hm hrefused hcode hname
    have hother : Sql.Circles.insertMembership k m ≠ .rollback := by
      simp [Sql.Circles.insertMembership]
    have hvalue := Sql.hear_inTurn_fault replies hrefused (hnone hother)
      fun p hp hs ↦ congrFun (Sql.Circles.explainOwner_of_mem_creation hm hp hs) r
    rw [hvalue, Sql.Circles.explainOwner,
      Violation.ofRefusal?_reference ("user_" ++ k.plural) hcode hname]

namespace Tables

variable {t : Tables} {k : Kind} {c : Circle}

def withCircle (t : Tables) (k : Kind) (c : Circle) (rows : List Membership) : Tables :=
  t.set k ⟨⟨(t.of k).circles.entries ++ [(c.id.text, c)]⟩, (t.of k).memberships ++ rows⟩

theorem createCircle_whole (t : Tables) (k : Kind) (c : Circle) (owner : Option Membership) :
    (∃ f, t.createCircle k c owner = (.error f, t)) ∨
      (t.of k).circles.get? c.id.text = none ∧
        t.createCircle k c owner = (.ok c, t.withCircle k c owner.toList) := by
  rcases t.createCircle_cases k c owner with h | ⟨-, hnew, -, h⟩
  · exact .inl h
  · refine .inr ⟨hnew, ?_⟩
    rw [h, Table.insert, if_neg (by rw [Table.contains_eq_false.mpr hnew]; decide)]
    rfl

theorem get?_withCircle (hnew : (t.of k).circles.get? c.id.text = none) (rows : List Membership) :
    ((t.withCircle k c rows).of k).circles.get? c.id.text = some c := by
  rw [withCircle, of_set_self, Table.get?, List.lookup_append, ← Table.get?, hnew]
  simp

theorem Integrity.membersOfCircle_withCircle (ht : t.Integrity)
    (hnew : (t.of k).circles.get? c.id.text = none) {m : Membership} (hm : m.circleId = c.id)
    {u : User} (hu : t.users.get? m.userId.text = some u) :
    (t.withCircle k c [m]).membersOfCircle k c.id = [⟨m, u, c⟩] := by
  have hrows : ((t.withCircle k c [m]).of k).memberships.filter (·.circleId == c.id) = [m] := by
    have hold : (t.of k).memberships.filter (·.circleId == c.id) = [] := by
      rw [List.filter_eq_nil_iff]
      intro n hn hid
      have hstored := ((ht.kinds_sound k).joins_stored n hn).2
      rw [eq_of_beq hid, Table.contains_eq_false.mpr hnew] at hstored
      cases hstored
    rw [withCircle, of_set_self, List.filter_append, hold, List.nil_append,
      List.filter_singleton, hm, BEq.rfl]
    rfl
  have hmember : (t.withCircle k c [m]).member? k m = some ⟨m, u, c⟩ := by
    rw [member?_eq_some, hm]
    exact ⟨rfl, by rwa [withCircle, set_users], get?_withCircle hnew [m]⟩
  rw [membersOfCircle, hrows, List.filterMap_cons_some hmember, List.filterMap_nil]

end Tables

end Store

end Roster
