import Roster.Proofs.Listing.Paging
import Roster.Proofs.Text.Lowercase

namespace Roster

open Store (Tables)
open Text (SigmasAgree)

variable {l : Listing} {field : String} {before m after : List Char}

/-- A field contains the search text after `before` and in front of `after`, up to the case of ASCII
letters. -/
structure Listing.OccursIn (l : Listing) (field : String) (before m after : List Char) : Prop where
  place : field.toList = before ++ m ++ after
  letters : m.map Char.toLower = l.search.toList.map Char.toLower

namespace Listing.OccursIn

/-- Lower-casing keeps the occurrence if and only if the sigmas in it agree. -/
theorem lowercase_iff (h : l.OccursIn field before m after) :
    Text.lowerBetween before.reverse m after = (Text.lowercase l.search).toList ↔
      SigmasAgree before.reverse m after := by
  rw [Text.lowercase_toList, ← Text.lowerBetween_congr h.letters, Text.lowerBetween_eq_iff]

theorem sigmasAgree (h : l.OccursIn field before m after) (hsearch : 'Σ' ∉ l.search.toList) :
    SigmasAgree before.reverse m after := by
  refine .of_not_mem fun hm ↦ hsearch ?_
  have hlower : 'Σ'.toLower ∈ m.map Char.toLower := List.mem_map_of_mem hm
  rw [h.letters] at hlower
  obtain ⟨d, hd, hsame⟩ := List.mem_map.mp hlower
  have hsigma : (d == 'Σ') = true := by
    rw [← Text.toLower_beq_sigma, hsame]
    decide
  exact eq_of_beq hsigma ▸ hd

theorem isMatch (h : l.OccursIn field before m after) {fields : List String}
    (hfield : field ∈ fields) (hagree : SigmasAgree before.reverse m after) :
    l.isMatch fields = true := by
  rw [Listing.isMatch, Bool.or_eq_true, List.any_eq_true]
  refine .inr ⟨field, hfield, Text.occursIn_iff.mpr ?_⟩
  rw [← h.lowercase_iff.mpr hagree, Text.lowercase, String.toList_ofList, h.place]
  exact Text.lowerBetween_isInfix before m after

end Listing.OccursIn

namespace Listing

variable {α : Type} {a : α} {records : List α} {i : Nat}

theorem mem_extract_iff (hrecords : records.Nodup) (hi : records[i]? = some a) (start stop : Nat) :
    a ∈ records.extract start stop ↔ start ≤ i ∧ i < stop := by
  obtain ⟨hlt, -⟩ := List.getElem?_eq_some_iff.mp hi
  rw [List.extract_eq_take_drop, List.mem_iff_getElem?]
  constructor
  · rintro ⟨j, hj⟩
    rw [List.getElem?_take, Option.ite_none_right_eq_some, List.getElem?_drop] at hj
    obtain ⟨hstop, hj⟩ := hj
    have hij : i = start + j := (List.getElem?_inj hlt hrecords).mp (hi.trans hj.symm)
    omega
  · rintro ⟨hstart, hstop⟩
    refine ⟨i - start, ?_⟩
    rw [List.getElem?_take_of_lt (by omega), List.getElem?_drop, Nat.add_sub_cancel' hstart, hi]

end Listing

namespace Collection

def fields : (c : Collection) → c.Record → List String
  | users, u => [u.username, u.email, u.fullname]
  | circles _, c => [c.name, c.slug]
  | membersOf .., m => [m.user.username, m.user.email, m.user.fullname]
  | circlesOf .., m => [m.circle.name, m.circle.slug]

variable {c : Collection} {t : Tables} {a : c.Record}

theorem isMatch_eq (c : Collection) (l : Listing) (a : c.Record) :
    c.isMatch l a = l.isMatch (c.fields a) := by
  cases c <;> rfl

/-- What belongs to a list and matches has one place in it, and is on the pages that cover it. -/
theorem exists_place (ht : t.Integrity) (ha : c.Holds t a) (hmatch : c.isMatch l a = true) :
    ∃ i total, i < total ∧ ∀ limit offset, ∃ p, c.page t (l.window limit offset) = .ok p ∧
      p.total = total ∧ (a ∈ p.records ↔ offset ≤ i ∧ i < offset + limit) := by
  have hmem : a ∈ c.arranged t l := (c.mem_arranged l ht).mpr ⟨ha, hmatch⟩
  obtain ⟨i, hi⟩ := List.mem_iff_getElem?.mp hmem
  obtain ⟨hlt, -⟩ := List.getElem?_eq_some_iff.mp hi
  refine ⟨i, _, hlt, fun limit offset ↦ ⟨_, c.page_window t l limit offset, rfl, ?_⟩⟩
  exact Listing.mem_extract_iff (c.arranged_nodup l ht) hi _ _

/-- Where a field of a record contains the search text, lower-casing keeps it there if and only if
the capital sigmas agree, as they do if there are none. Then the record matches, is counted, and has
one place in the list. -/
theorem found_where_sigmas_agree (ht : t.Reachable) (ha : c.Holds t a)
    (hfield : field ∈ c.fields a) (hoccurs : l.OccursIn field before m after) :
    (Text.lowerBetween before.reverse m after = (Text.lowercase l.search).toList ↔
      SigmasAgree before.reverse m after) ∧
    ('Σ' ∉ l.search.toList → SigmasAgree before.reverse m after) ∧
    (SigmasAgree before.reverse m after → c.isMatch l a = true ∧
      ∃ i total, i < total ∧ ∀ limit offset, ∃ p, c.page t (l.window limit offset) = .ok p ∧
        p.total = total ∧ (a ∈ p.records ↔ offset ≤ i ∧ i < offset + limit)) := by
  refine ⟨hoccurs.lowercase_iff, hoccurs.sigmasAgree, fun hagree ↦ ?_⟩
  have hmatch : c.isMatch l a = true := by
    rw [isMatch_eq]
    exact hoccurs.isMatch hfield hagree
  exact ⟨hmatch, exists_place ht.integrity ha hmatch⟩

theorem found_where_sigmas_agree_of_full_name :
    let ada : User := { User.new ⟨"a", by decide⟩ ⟨0, 0⟩ "ada" "ada@example.org" "h" with
      fullname := "5 ΟΔΟΣ Ada!" }
    let t := Tables.empty.after [.createUser ada]
    let l : Listing := { Listing.default with search := "ΟΔΟΣ aDA" }
    t.Reachable ∧ users.Holds t ada ∧ ada.fullname ∈ users.fields ada ∧
      l.OccursIn ada.fullname ['5', ' '] "ΟΔΟΣ Ada".toList ['!'] ∧ users.isMatch l ada = true ∧
      ∃ i total, i < total ∧ ∀ limit offset, ∃ p, users.page t (l.window limit offset) = .ok p ∧
        p.total = total ∧ (ada ∈ p.records ↔ offset ≤ i ∧ i < offset + limit) := by
  intro ada t l
  have ht : t.Reachable := ⟨[.createUser ada], by simp [Store.Call.OwnerFits], rfl⟩
  have hada : users.Holds t ada := rfl
  have hfield : ada.fullname ∈ users.fields ada := by simp [fields]
  have hoccurs : l.OccursIn ada.fullname ['5', ' '] "ΟΔΟΣ Ada".toList ['!'] :=
    ⟨by decide, by decide⟩
  obtain ⟨hkept, -, hfound⟩ := found_where_sigmas_agree (c := users) ht hada hfield hoccurs
  exact ⟨ht, hada, hfield, hoccurs, hfound (hkept.mp (by decide +kernel))⟩

/-- A capital sigma that ends the search is not found inside a word. -/
theorem ending_sigma_not_found :
    let c : Circle := .new ⟨"g", by decide⟩ ⟨0, 0⟩ "ΑΣΑ group"
    let t := Tables.empty.after [.createCircle .group c none]
    let l : Listing := { Listing.default with search := "ΑΣ" }
    t.Reachable ∧ (circles .group).Holds t c ∧ c.validate = [] ∧
      l.OccursIn c.name [] ['Α', 'Σ'] "Α group".toList ∧ (circles .group).isMatch l c = false ∧
      ∃ p, (circles .group).page t l = .ok p ∧ p.total = 0 ∧ p.records = [] := by
  intro c t l
  have ht : t.Reachable := ⟨[.createCircle .group c none], by simp [Store.Call.OwnerFits], rfl⟩
  have hoccurs : l.OccursIn c.name [] ['Α', 'Σ'] "Α group".toList :=
    ⟨by decide, by decide⟩
  exact ⟨ht, rfl, by decide +kernel, hoccurs, by decide +kernel, _, rfl, by decide +kernel,
    by decide +kernel⟩

end Collection

end Roster
