import Roster.Proofs.Sql.Conversation
import Roster.Proofs.Sql.Statements

namespace Roster

open Sql (InStep Place Query Refusal Answer Statement Value)

structure Listing.Alike {κ : Type} (column : Listing → κ) (l l' : Listing) : Prop where
  column : column l = column l'
  order : l.order = l'.order
  search : l.search.isEmpty = l'.search.isEmpty

namespace Store

/-- Two calls of one kind, which may carry different ids, references, records, searches, pages and
names of columns. -/
inductive Call.Alike : Call → Call → Prop
  | getUser (id id' : UserId) : Alike (.getUser id) (.getUser id')
  | findUser (r r' : String) : Alike (.findUser r) (.findUser r')
  | userNamed (n n' : String) : Alike (.userNamed n) (.userNamed n')
  | listUsers {l l' : Listing} (h : l.Alike Listing.userColumn l') :
    Alike (.listUsers l) (.listUsers l')
  | createUser (u u' : User) : Alike (.createUser u) (.createUser u')
  | updateUser (u u' : User) : Alike (.updateUser u) (.updateUser u')
  | deleteUser (id id' : UserId) : Alike (.deleteUser id) (.deleteUser id')
  | isUserTaken (key : User.Key) (v v' : String) (except except' : Option UserId) :
    Alike (.isUserTaken key v except) (.isUserTaken key v' except')
  | countUsers : Alike .countUsers .countUsers
  | getCircle (k : Kind) (id id' : CircleId) : Alike (.getCircle k id) (.getCircle k id')
  | findCircle (k : Kind) (r r' : String) : Alike (.findCircle k r) (.findCircle k r')
  | listCircles (k : Kind) {l l' : Listing} (h : l.Alike Listing.circleColumn l') :
    Alike (.listCircles k l) (.listCircles k l')
  | createCircle (k : Kind) (c c' : Circle) {owner owner' : Option Membership}
    (h : owner.isSome = owner'.isSome) : Alike (.createCircle k c owner) (.createCircle k c' owner')
  | updateCircle (k : Kind) (c c' : Circle) : Alike (.updateCircle k c) (.updateCircle k c')
  | deleteCircle (k : Kind) (id id' : CircleId) : Alike (.deleteCircle k id) (.deleteCircle k id')
  | isCircleTaken (k : Kind) (key : Circle.Key) (v v' : String) (except except' : Option CircleId) :
    Alike (.isCircleTaken k key v except) (.isCircleTaken k key v' except')
  | countCircles (k : Kind) : Alike (.countCircles k) (.countCircles k)
  | insertMembership (k : Kind) (m m' : Membership) :
    Alike (.insertMembership k m) (.insertMembership k m')
  | updatePermission (k : Kind) (u u' : UserId) (c c' : CircleId) (p p' : Permission)
    (now now' : Timestamp) : Alike (.updatePermission k u c p now) (.updatePermission k u' c' p' now')
  | deleteMembership (k : Kind) (u u' : UserId) (c c' : CircleId) :
    Alike (.deleteMembership k u c) (.deleteMembership k u' c')
  | findMembership (k : Kind) (u u' : UserId) (c c' : CircleId) :
    Alike (.findMembership k u c) (.findMembership k u' c')
  | listByCircle (k : Kind) (c c' : CircleId) {l l' : Listing} (h : l.Alike Listing.userColumn l') :
    Alike (.listByCircle k c l) (.listByCircle k c' l')
  | listByUser (k : Kind) (u u' : UserId) {l l' : Listing} (h : l.Alike Listing.circleColumn l') :
    Alike (.listByUser k u l) (.listByUser k u' l')

theorem Call.Alike.refl (c : Call) : c.Alike c := by
  cases c <;> constructor <;> first | exact ⟨rfl, rfl, rfl⟩ | rfl

end Store

def Collection.bindings (l : Listing) (c : Collection) : List (List (Place × Value)) :=
  [c.slots l, c.slots l ++ l.pageSlots]

namespace Store

def Call.bindings : Call → List (List (Place × Value))
  | .getUser id | .deleteUser id => [Sql.idSlots id.text]
  | .findUser r => [Sql.Users.findSlots r]
  | .userNamed n => [Sql.Users.namedSlots n]
  | .listUsers l => Collection.users.bindings l
  | .createUser u => [Sql.Users.insertSlots u]
  | .updateUser u => [Sql.Users.replaceSlots u]
  | .isUserTaken key v except => [Sql.takenSlots key.name v (except.elim .null (.text ·.text))]
  | .countUsers | .countCircles _ => [[]]
  | .getCircle _ id | .deleteCircle _ id => [Sql.idSlots id.text]
  | .findCircle _ r => [Sql.Circles.findSlots r]
  | .listCircles k l => (Collection.circles k).bindings l
  | .createCircle k c owner =>
    [] :: Sql.Circles.insertSlots c :: owner.toList.map (Sql.Memberships.insertSlots k)
  | .updateCircle _ c => [Sql.Circles.replaceSlots c]
  | .isCircleTaken _ key v except => [Sql.takenSlots key.text v (except.elim .null (.text ·.text))]
  | .insertMembership k m => [Sql.Memberships.insertSlots k m]
  | .updatePermission k u c p _ => [(.stored "perm", .text p.name) :: Sql.Memberships.pairSlots k u c]
  | .deleteMembership k u c | .findMembership k u c => [Sql.Memberships.pairSlots k u c]
  | .listByCircle k c l => (Collection.membersOf k c).bindings l
  | .listByUser k u l => (Collection.circlesOf k u).bindings l

def SameText (bindings : List (List (Place × Value))) (s s' : Statement) : Prop :=
  s.sql = s'.sql ∧ ∃ slots ∈ bindings, s.Binds slots

end Store

namespace Sql

open Store (SameText)
open Query (InStep Settled)

variable {B : List (List (Place × Value))}

namespace Users

theorem ofRow_settled (lead : String) (r : Row) : (ofRow lead r).Settled := by
  unfold ofRow
  iterate 10 refine .bind (.ofTrouble _ _) fun _ ↦ ?_
  split
  · exact .pure _
  · exact .throw _

theorem fetchWhere_inStep {condition v v' : String}
    (h : SameText B (selectWhere condition v) (selectWhere condition v')) :
    (fetchWhere condition v).InStep (SameText B) Eq (fetchWhere condition v') :=
  (InStep.fetchOptional h).andThen fun _ ↦ .ofSettled (.optionMapM (ofRow_settled "") _)

theorem list_inStep {l l' : Listing} (h : l.Alike Listing.userColumn l') :
    (list l).InStep (SameText (Collection.users.bindings l)) Eq (list l') := by
  have hcount : (countMatching l).sql = (countMatching l').sql := by
    simp only [countMatching, filter, Statement.sql, h.search]
  have hpage : (selectPage l).sql = (selectPage l').sql := by
    simp only [selectPage, filter, length_searchArgs, Statement.sql, h.search, h.column, h.order]
  refine (InStep.scalar ⟨hcount, _, List.mem_cons_self, Collection.users.counting_binds l⟩).andThen
    fun _ ↦ (InStep.send ⟨hpage, _, List.mem_cons_of_mem _ List.mem_cons_self,
      Collection.users.selecting_binds l⟩).andThen fun _ ↦ ?_
  exact (InStep.ofSettled (.mapM (ofRow_settled "") _)).andThen fun _ ↦ .pure rfl

end Users

namespace Circles

variable (k : Kind)

theorem ofRow_settled (lead : String) (r : Row) : (ofRow k lead r).Settled := by
  unfold ofRow
  iterate 5 refine .bind (.ofTrouble _ _) fun _ ↦ ?_
  split
  · exact .pure _
  · exact .throw _

theorem fetchWhere_inStep {condition v v' : String}
    (h : SameText B (selectWhere k condition v) (selectWhere k condition v')) :
    (fetchWhere k condition v).InStep (SameText B) Eq (fetchWhere k condition v') :=
  (InStep.fetchOptional h).andThen fun _ ↦ .ofSettled (.optionMapM (ofRow_settled k "") _)

theorem list_inStep {l l' : Listing} (h : l.Alike Listing.circleColumn l') :
    (list k l).InStep (SameText ((Collection.circles k).bindings l)) Eq (list k l') := by
  have hcount : (countMatching k l).sql = (countMatching k l').sql := by
    simp only [countMatching, filter, Statement.sql, h.search]
  have hpage : (selectPage k l).sql = (selectPage k l').sql := by
    simp only [selectPage, filter, length_searchArgs, Statement.sql, h.search, h.column, h.order]
  refine (InStep.scalar ⟨hcount, _, List.mem_cons_self,
      (Collection.circles k).counting_binds l⟩).andThen
    fun _ ↦ (InStep.send ⟨hpage, _, List.mem_cons_of_mem _ List.mem_cons_self,
      (Collection.circles k).selecting_binds l⟩).andThen fun _ ↦ ?_
  exact (InStep.ofSettled (.mapM (ofRow_settled k "") _)).andThen fun _ ↦ .pure rfl

theorem create_inStep (c c' : Circle) {owner owner' : Option Membership}
    (h : owner.isSome = owner'.isSome) :
    (create k c owner).InStep
      (SameText ([] :: insertSlots c :: owner.toList.map (Memberships.insertSlots k)))
      (fun _ _ ↦ True) (create k c' owner') := by
  refine InStep.transaction ⟨rfl, _, List.mem_cons_self, begin_binds⟩
    ⟨rfl, _, List.mem_cons_self, commit_binds⟩ ⟨rfl, _, List.mem_cons_self, rollback_binds⟩ ?_
  refine (InStep.sendOr ⟨rfl, _, List.mem_cons_of_mem _ List.mem_cons_self,
    (bound k).insert c⟩).andThen fun _ ↦ ?_
  cases owner with
  | none =>
    cases owner' with
    | none => exact .pure trivial
    | some m' => cases h
  | some m =>
    cases owner' with
    | none => cases h
    | some m' =>
      exact (InStep.sendOr ⟨rfl, _, by simp, (Memberships.bound k).insert m⟩).andThen
        fun _ ↦ .pure trivial

end Circles

namespace Memberships

variable (k : Kind)

theorem ofRow_settled (r : Row) : (ofRow k r).Settled := by
  unfold ofRow
  iterate 5 refine .bind (.ofTrouble _ _) fun _ ↦ ?_
  split
  · exact .pure _
  all_goals exact .throw _

theorem memberOfRow_settled (r : Row) : (memberOfRow k r).Settled :=
  (ofRow_settled k r).bind fun _ ↦ (Users.ofRow_settled "u_" r).bind fun _ ↦
    (Circles.ofRow_settled k "c_" r).bind fun _ ↦ .pure _

theorem list_inStep {v v' : View} {id id' : String} {l l' : Listing}
    (hcount : SameText B (countMatching k v id l) (countMatching k v' id' l'))
    (hpage : SameText B (selectPage k v id l) (selectPage k v' id' l')) :
    (list k v id l).InStep (SameText B) Eq (list k v' id' l') :=
  (InStep.scalar hcount).andThen fun _ ↦ (InStep.send hpage).andThen fun _ ↦
    (InStep.ofSettled (.mapM (memberOfRow_settled k) _)).andThen fun _ ↦ .pure rfl

theorem ofCircle_inStep (c c' : CircleId) {l l' : Listing} (h : l.Alike Listing.userColumn l') :
    (list k (ofCircle k l) c.text l).InStep (SameText ((Collection.membersOf k c).bindings l)) Eq
      (list k (ofCircle k l') c'.text l') := by
  refine list_inStep k
    ⟨?_, _, List.mem_cons_self, (Collection.membersOf k c).counting_binds l⟩
    ⟨?_, _, List.mem_cons_of_mem _ List.mem_cons_self, (Collection.membersOf k c).selecting_binds l⟩
  · simp only [countMatching, View.filter, ofCircle, Statement.sql, h.search]
  · simp only [selectPage, View.filter, ofCircle, length_searchArgs, Statement.sql, h.search,
      h.column, h.order]

theorem ofUser_inStep (u u' : UserId) {l l' : Listing} (h : l.Alike Listing.circleColumn l') :
    (list k (ofUser l) u.text l).InStep (SameText ((Collection.circlesOf k u).bindings l)) Eq
      (list k (ofUser l') u'.text l') := by
  refine list_inStep k
    ⟨?_, _, List.mem_cons_self, (Collection.circlesOf k u).counting_binds l⟩
    ⟨?_, _, List.mem_cons_of_mem _ List.mem_cons_self, (Collection.circlesOf k u).selecting_binds l⟩
  · simp only [countMatching, View.filter, ofUser, Statement.sql, h.search]
  · simp only [selectPage, View.filter, ofUser, length_searchArgs, Statement.sql, h.search,
      h.column, h.order]

end Memberships

end Sql

namespace Store

open Sql

theorem SameText.only {s s' : Statement} {slots : List (Place × Value)} (h : s.sql = s'.sql)
    (hs : s.Binds slots) : SameText [slots] s s' :=
  ⟨h, slots, List.mem_singleton_self slots, hs⟩

/-- Whatever the server replies, two alike calls send the same texts, and the arguments stand for
what they are meant for. -/
theorem Call.Alike.inStep {c c' : Call} (h : c.Alike c') :
    Sql.InStep (SameText c.bindings) (Query.Outcome fun _ _ ↦ True) (Server.answer c)
      (Server.answer c') := by
  cases h with
  | getUser id id' => exact (Users.fetchWhere_inStep (.only rfl (Users.bound.get _))).weaken
  | findUser r r' => exact (Users.fetchWhere_inStep (.only rfl (Users.bound.find r))).weaken
  | userNamed n n' => exact (Users.fetchWhere_inStep (.only rfl (Users.bound.named n))).weaken
  | listUsers h => exact (Users.list_inStep h).weaken
  | createUser u u' =>
    exact (Query.InStep.sendOr (.only rfl (Users.bound.insert u))).andThen fun _ ↦ .pure trivial
  | updateUser u u' =>
    refine (Query.InStep.sendOr (.only rfl (Users.bound.replace u))).andThen fun answer ↦ ?_
    split
    · exact .throw
    · exact .pure trivial
  | deleteUser id id' =>
    exact (Query.InStep.send (.only rfl (Users.bound.delete _))).andThen fun _ ↦ .pure trivial
  | isUserTaken key v v' except except' =>
    exact (Query.InStep.scalar (.only rfl (Users.bound.selectTaken key v except))).weaken
  | countUsers =>
    exact (Query.InStep.scalar (.only rfl Users.bound.count)).andThen fun _ ↦ .pure trivial
  | getCircle k id id' =>
    exact (Circles.fetchWhere_inStep k (.only rfl ((Circles.bound k).get _))).weaken
  | findCircle k r r' =>
    exact (Circles.fetchWhere_inStep k (.only rfl ((Circles.bound k).find r))).weaken
  | listCircles k h => exact (Circles.list_inStep k h).weaken
  | createCircle k c c' h => exact Circles.create_inStep k c c' h
  | updateCircle k c c' =>
    refine (Query.InStep.sendOr (.only rfl ((Circles.bound k).replace c))).andThen fun answer ↦ ?_
    split
    · exact .throw
    · exact .pure trivial
  | deleteCircle k id id' =>
    exact (Query.InStep.send (.only rfl ((Circles.bound k).delete _))).andThen fun _ ↦ .pure trivial
  | isCircleTaken k key v v' except except' =>
    exact (Query.InStep.scalar (.only rfl ((Circles.bound k).selectTaken key v except))).weaken
  | countCircles k =>
    exact (Query.InStep.scalar (.only rfl (Circles.bound k).count)).andThen fun _ ↦ .pure trivial
  | insertMembership k m m' =>
    exact (Query.InStep.sendOr (.only rfl ((Memberships.bound k).insert m))).andThen
      fun _ ↦ .pure trivial
  | updatePermission k u u' c c' p p' now now' =>
    refine (Query.InStep.fetchOptional
      (.only rfl ((Memberships.bound k).setPermission u c p))).andThen fun row ↦ ?_
    cases row with
    | none => exact .throw
    | some row =>
      exact (Query.InStep.ofSettled (.ofTrouble _ _)).andThen fun _ ↦
        (Query.InStep.ofSettled (.ofTrouble _ _)).andThen fun _ ↦ .pure trivial
  | deleteMembership k u u' c c' =>
    refine (Query.InStep.send (.only rfl ((Memberships.bound k).delete u c))).andThen fun answer ↦ ?_
    split
    · exact .throw
    · exact .pure trivial
  | findMembership k u u' c c' =>
    exact ((Query.InStep.fetchOptional
      (.only rfl ((Memberships.bound k).selectPair u c))).andThen fun _ ↦
        .ofSettled (.optionMapM (Memberships.ofRow_settled k) _)).weaken
  | listByCircle k c c' h => exact (Memberships.ofCircle_inStep k c c' h).weaken
  | listByUser k u u' h => exact (Memberships.ofUser_inStep k u u' h).weaken

def Server.sent (replies : ℕ → Except Refusal Answer) (c : Call) : List Statement :=
  (hear replies (answer c)).1.map Prod.fst

theorem Call.Alike.sent {c c' : Call} (h : c.Alike c') (replies : ℕ → Except Refusal Answer) :
    List.Forall₂ (SameText c.bindings) (Server.sent replies c) (Server.sent replies c') := by
  rw [Server.sent, Server.sent, List.forall₂_map_left_iff, List.forall₂_map_right_iff]
  exact h.inStep.hear replies

/-- The texts that a call sends under some replies are those of every call like it, whatever ids,
references, names, searches, columns and pages they carry; and in each statement the parameters are
`$1` to `$n` for its `n` arguments, each argument standing where it is meant to. -/
theorem Server.statements_free_of_data (c : Call) (replies : ℕ → Except Refusal Answer) :
    (∀ c', c.Alike c' → (sent replies c').map Statement.sql = (sent replies c).map Statement.sql) ∧
    ∀ s ∈ sent replies c, ∃ slots ∈ c.bindings, s.Binds slots := by
  constructor
  · intro c' h
    have htexts := (h.sent replies).imp fun _ _ h ↦ h.1
    rw [← List.forall₂_eq_eq_eq, List.forall₂_map_left_iff, List.forall₂_map_right_iff]
    exact htexts.flip.imp fun _ _ h ↦ h.symm
  · intro s hs
    exact (List.forall₂_same.mp ((Call.Alike.refl c).sent replies) s hs).2

theorem Server.statements_free_of_data_of_searches :
    let l : Listing := ⟨"ada", some "Email", .desc, 10, 0⟩
    let l' : Listing := ⟨"'; DROP TABLE users; --", some "EMAIL", .desc, 5, 20⟩
    let c := Call.listByCircle .group ⟨"a", by decide⟩ l
    let c' := Call.listByCircle .group ⟨"b", by decide⟩ l'
    let replies : ℕ → Except Refusal Answer := fun _ ↦ .ok (numberAnswer 1)
    c.Alike c' ∧ (sent replies c).length = 2 ∧
      (sent replies c').map Statement.sql = (sent replies c).map Statement.sql ∧
      ∀ s ∈ sent replies c', ∃ slots ∈ c'.bindings, s.Binds slots := by
  intro l l' c c' replies
  have h : c.Alike c' := .listByCircle _ _ _ ⟨by decide, rfl, by decide⟩
  exact ⟨h, rfl, (statements_free_of_data c replies).1 c' h, (statements_free_of_data c' replies).2⟩

end Store

end Roster
