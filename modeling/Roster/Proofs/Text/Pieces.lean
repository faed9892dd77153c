import Mathlib.Data.List.TakeWhile
import Roster.Text.Blank
import Roster.Text.Pieces

namespace Roster.Text

variable {α : Type}

theorem splitAll_eq_splitOnP (p : α → Bool) (l : List α) : splitAll p l = l.splitOnP p := by
  induction l with
  | nil => rfl
  | cons c rest ih =>
    rw [splitAll, List.splitOnP_cons_eq_if_modifyHead, ih]
    split
    · rfl
    · cases h : rest.splitOnP p with
      | nil => exact absurd h (List.splitOnP_ne_nil p rest)
      | cons part parts => rfl

/-- The parts between separators, put together with separators, are the list. -/
theorem intercalate_splitAll [BEq α] [LawfulBEq α] (sep : α) (l : List α) :
    [sep].intercalate (splitAll (· == sep) l) = l := by
  rw [splitAll_eq_splitOnP]
  exact List.intercalate_splitOn sep

theorem splitFirst_append {p : α → Bool} {c : α} (hc : p c = true) {before : List α}
    (hbefore : ∀ d ∈ before, p d = false) (after : List α) :
    splitFirst p (before ++ c :: after) = some (before, after) := by
  induction before with
  | nil => rw [List.nil_append, splitFirst, if_pos hc]
  | cons d before ih =>
    obtain ⟨hd, hbefore⟩ := List.forall_mem_cons.mp hbefore
    rw [List.cons_append, splitFirst, hd, ih hbefore]
    rfl

theorem splitLast_append {p : α → Bool} {c : α} (hc : p c = true) (before : List α)
    {after : List α} (hafter : ∀ d ∈ after, p d = false) :
    splitLast p (before ++ c :: after) = some (before, after) := by
  have hsplit : splitFirst p (after.reverse ++ c :: before.reverse) =
      some (after.reverse, before.reverse) :=
    splitFirst_append hc (fun d hd ↦ hafter d (List.mem_reverse.mp hd)) before.reverse
  have hreverse : (before ++ c :: after).reverse = after.reverse ++ c :: before.reverse := by simp
  rw [splitLast, hreverse, hsplit, Option.map_some, List.reverse_reverse, List.reverse_reverse]

theorem splitFirst_eq_some {p : α → Bool} {l before after : List α}
    (h : splitFirst p l = some (before, after)) :
    ∃ c, p c = true ∧ l = before ++ c :: after ∧ ∀ d ∈ before, p d = false := by
  induction l generalizing before with
  | nil => cases h
  | cons c rest ih =>
    rw [splitFirst] at h
    split at h
    · next hc =>
      cases h
      exact ⟨c, hc, rfl, by simp⟩
    · next hc =>
      obtain ⟨⟨before, after⟩, hrest, he⟩ := Option.map_eq_some_iff.mp h
      cases he
      obtain ⟨d, hd, rfl, hbefore⟩ := ih hrest
      exact ⟨d, hd, rfl, List.forall_mem_cons.mpr ⟨Bool.eq_false_iff.mpr hc, hbefore⟩⟩

theorem splitLast_eq_some {p : α → Bool} {l before after : List α}
    (h : splitLast p l = some (before, after)) :
    ∃ c, p c = true ∧ l = before ++ c :: after ∧ ∀ d ∈ after, p d = false := by
  obtain ⟨⟨last, first⟩, hsplit, he⟩ := Option.map_eq_some_iff.mp h
  cases he
  obtain ⟨c, hc, hl, hlast⟩ := splitFirst_eq_some hsplit
  refine ⟨c, hc, ?_, fun d hd ↦ hlast d (List.mem_reverse.mp hd)⟩
  have hl := congrArg List.reverse hl
  simpa using hl

theorem dropPrefix?_append [BEq α] [ReflBEq α] (before l : List α) :
    dropPrefix? before (before ++ l) = some l := by
  induction before with
  | nil => rfl
  | cons c before ih => rw [List.cons_append, dropPrefix?, BEq.rfl, if_pos rfl, ih]

theorem dropPrefix?_eq_some_iff [BEq α] [LawfulBEq α] {before l rest : List α} :
    dropPrefix? before l = some rest ↔ l = before ++ rest := by
  constructor
  · intro h
    induction before generalizing l with
    | nil =>
      cases h
      rfl
    | cons c before ih =>
      cases l with
      | nil => cases h
      | cons d l =>
        rw [dropPrefix?] at h
        split at h
        · next hc => rw [eq_of_beq hc, ih h, List.cons_append]
        · cases h
  · rintro rfl
    exact dropPrefix?_append before rest

theorem afterPrefix?_append (lead s : String) : afterPrefix? lead (lead ++ s) = some s := by
  rw [afterPrefix?, String.toList_append, dropPrefix?_append, Option.map_some, String.ofList_toList]

theorem afterPrefix?_eq_some_iff {lead s rest : String} :
    afterPrefix? lead s = some rest ↔ s = lead ++ rest := by
  constructor
  · intro h
    obtain ⟨cs, hcs, rfl⟩ := Option.map_eq_some_iff.mp h
    rw [← String.toList_inj, String.toList_append, String.toList_ofList]
    exact dropPrefix?_eq_some_iff.mp hcs
  · rintro rfl
    exact afterPrefix?_append lead rest

section TrimBoth

variable {p : α → Bool} {l : List α}

theorem forall_mem_head?_dropWhile : ∀ c ∈ (l.dropWhile p).head?, p c = false := by
  intro c hc
  have h := List.head?_dropWhile_not p l
  rwa [Option.mem_def.mp hc] at h

theorem trimBoth_isPrefix (p : α → Bool) (l : List α) : trimBoth p l <+: l.dropWhile p := by
  have h := (List.dropWhile_suffix p (l := (l.dropWhile p).reverse)).reverse
  rwa [List.reverse_reverse] at h

theorem trimBoth_isInfix (p : α → Bool) (l : List α) : trimBoth p l <:+: l :=
  (trimBoth_isPrefix p l).isInfix.trans (List.dropWhile_suffix p).isInfix

theorem forall_mem_head?_trimBoth : ∀ c ∈ (trimBoth p l).head?, p c = false := by
  intro c hc
  obtain ⟨rest, hrest⟩ := trimBoth_isPrefix p l
  apply forall_mem_head?_dropWhile (l := l)
  rw [← hrest, List.head?_append, Option.mem_def.mp hc]
  rfl

theorem forall_mem_getLast?_trimBoth : ∀ c ∈ (trimBoth p l).getLast?, p c = false := by
  rw [trimBoth, List.getLast?_reverse]
  exact forall_mem_head?_dropWhile

theorem dropWhile_eq_self (h : ∀ c ∈ l.head?, p c = false) : l.dropWhile p = l := by
  cases l with
  | nil => rfl
  | cons c rest => rw [List.dropWhile_cons, h c rfl, if_neg Bool.false_ne_true]

theorem trimBoth_eq_self (hhead : ∀ c ∈ l.head?, p c = false)
    (hlast : ∀ c ∈ l.getLast?, p c = false) : trimBoth p l = l := by
  rw [← List.head?_reverse] at hlast
  rw [trimBoth, dropWhile_eq_self hhead, dropWhile_eq_self hlast, List.reverse_reverse]

theorem exists_eq_append_trimBoth (p : α → Bool) (l : List α) : ∃ before after,
    (∀ c ∈ before ++ after, p c = true) ∧ l = before ++ trimBoth p l ++ after := by
  let rest := l.dropWhile p
  refine ⟨l.takeWhile p, (rest.reverse.takeWhile p).reverse, ?_, ?_⟩
  · rw [List.forall_mem_append]
    exact ⟨fun c hc ↦ List.mem_takeWhile_imp hc,
      fun c hc ↦ List.mem_takeWhile_imp (List.mem_reverse.mp hc)⟩
  · have hrest : trimBoth p l ++ (rest.reverse.takeWhile p).reverse = rest := by
      rw [trimBoth, ← List.reverse_append, List.takeWhile_append_dropWhile, List.reverse_reverse]
    rw [List.append_assoc, hrest, List.takeWhile_append_dropWhile]

theorem trimBoth_append {before after : List α} (hends : ∀ c ∈ before ++ after, p c = true)
    (hhead : ∀ c ∈ l.head?, p c = false) (hlast : ∀ c ∈ l.getLast?, p c = false) :
    trimBoth p (before ++ l ++ after) = l := by
  obtain ⟨hbefore, hafter⟩ := List.forall_mem_append.mp hends
  have hreverse : ∀ c ∈ after.reverse, p c = true := fun c hc ↦ hafter c (List.mem_reverse.mp hc)
  rw [trimBoth, List.append_assoc, List.dropWhile_append_of_pos hbefore]
  cases l with
  | nil =>
    rw [List.nil_append, List.dropWhile_eq_nil_iff.mpr hafter]
    rfl
  | cons c l =>
    have hfront : (c :: l ++ after).dropWhile p = c :: l ++ after := dropWhile_eq_self hhead
    rw [hfront, List.reverse_append, List.dropWhile_append_of_pos hreverse,
      dropWhile_eq_self (by rwa [List.head?_reverse]), List.reverse_reverse]

/-- A text is trimmed to one that neither begins nor ends with a blank and has blanks around it. -/
theorem trim_eq_iff {s t : String} : trim s = t ↔
    (∀ c ∈ t.toList.head?, isBlank c = false) ∧ (∀ c ∈ t.toList.getLast?, isBlank c = false) ∧
      ∃ before after : List Char, (∀ c ∈ before ++ after, isBlank c = true) ∧
        s.toList = before ++ t.toList ++ after := by
  constructor
  · rintro rfl
    rw [trim, String.toList_ofList]
    exact ⟨forall_mem_head?_trimBoth, forall_mem_getLast?_trimBoth,
      exists_eq_append_trimBoth isBlank s.toList⟩
  · rintro ⟨hhead, hlast, before, after, hends, hs⟩
    rw [trim, hs, trimBoth_append hends hhead hlast, String.ofList_toList]

theorem trim_eq_empty_iff {s : String} : trim s = "" ↔ blank s = true := by
  rw [trim_eq_iff, blank, List.all_eq_true]
  constructor
  · rintro ⟨-, -, before, after, hends, hs⟩
    rw [hs]
    simpa using hends
  · intro hs
    exact ⟨by simp, by simp, s.toList, [], by simpa using hs, by simp⟩

theorem trim_of_none_blank {s : String} (hs : ∀ c ∈ s.toList, isBlank c = false) : trim s = s := by
  have hself : trimBoth isBlank s.toList = s.toList :=
    trimBoth_eq_self (fun c hc ↦ hs c (List.mem_of_mem_head? hc))
      fun c hc ↦ hs c (List.mem_of_mem_getLast? hc)
  rw [trim, hself, String.ofList_toList]

end TrimBoth

def replaceAt (s : String) (i : Nat) (c : Char) : String :=
  String.ofList (s.toList.set i c)

variable {s : String} {i : Nat} {c d : Char}

@[simp] theorem toList_replaceAt (s : String) (i : Nat) (c : Char) :
    (replaceAt s i c).toList = s.toList.set i c :=
  String.toList_ofList

theorem replaceAt_append_left (s' : String) (hi : i < s.toList.length) :
    replaceAt (s ++ s') i c = replaceAt s i c ++ s' := by
  rw [← String.toList_inj, toList_replaceAt, String.toList_append, String.toList_append,
    toList_replaceAt, List.set_append_left _ _ hi]

theorem replaceAt_append_right (s s' : String) (i : Nat) (c : Char) :
    replaceAt (s ++ s') (s.toList.length + i) c = s ++ replaceAt s' i c := by
  rw [← String.toList_inj, toList_replaceAt, String.toList_append, String.toList_append,
    toList_replaceAt, List.set_append_right _ _ (Nat.le_add_right _ _), Nat.add_sub_cancel_left]

theorem replaceAt_ne_self (hd : s.toList[i]? = some d) (hne : d ≠ c) : replaceAt s i c ≠ s := by
  intro h
  obtain ⟨hi, -⟩ := List.getElem?_eq_some_iff.mp hd
  have hc := List.getElem?_set_self (a := c) hi
  rw [← toList_replaceAt, h, hd] at hc
  exact hne (Option.some.inj hc)

end Roster.Text
