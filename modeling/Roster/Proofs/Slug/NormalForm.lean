import Mathlib.Data.List.Chain
import Roster.Proofs.Text.Lowercase
import Roster.Proofs.Text.Pieces
import Roster.Rule

namespace Roster

namespace Slug

open Text

variable {s base : String} {cs rest : List Char} {c : Char}

def IsSlugChar (c : Char) : Prop :=
  isLowerAlnum c = true ∨ c = '-'

structure Joined (cs : List Char) : Prop where
  ne_nil : cs ≠ []
  chars : ∀ c ∈ cs, IsSlugChar c
  single : cs.IsChain fun a b ↦ a = '-' → b ≠ '-'
  head : ∀ c ∈ cs.head?, c ≠ '-'
  last : ∀ c ∈ cs.getLast?, c ≠ '-'

theorem ne_hyphen_of_isLowerAlnum (h : isLowerAlnum c = true) : c ≠ '-' := by
  rintro rfl
  exact absurd h (by decide)

theorem hyphenate_chars (inRun : Bool) (cs : List Char) :
    ∀ c ∈ hyphenate inRun cs, IsSlugChar c := by
  induction cs generalizing inRun with
  | nil => simp [hyphenate]
  | cons d rest ih =>
    unfold hyphenate
    split
    · next hd => exact List.forall_mem_cons.mpr ⟨.inl hd, ih false⟩
    · split
      · exact ih true
      · exact List.forall_mem_cons.mpr ⟨.inr rfl, ih true⟩

/-- No two hyphens in a row are written, and none at the beginning if one has just been written. -/
theorem hyphenate_single (inRun : Bool) (cs : List Char) :
    (hyphenate inRun cs).IsChain (fun a b ↦ a = '-' → b ≠ '-') ∧
      (inRun = true → ∀ c ∈ (hyphenate inRun cs).head?, c ≠ '-') := by
  induction cs generalizing inRun with
  | nil => simp [hyphenate]
  | cons d rest ih =>
    unfold hyphenate
    split
    · next hd =>
      have hne := ne_hyphen_of_isLowerAlnum hd
      refine ⟨List.isChain_cons.mpr ⟨fun b _ h ↦ absurd h hne, (ih false).1⟩, ?_⟩
      rintro - c ⟨⟩
      exact hne
    · split
      · exact ⟨(ih true).1, fun _ ↦ (ih true).2 rfl⟩
      · next hrun =>
        exact ⟨List.isChain_cons.mpr ⟨fun b hb _ ↦ (ih true).2 rfl b hb, (ih true).1⟩,
          fun h ↦ absurd h hrun⟩

theorem joined_trimBoth (inRun : Bool) (cs : List Char)
    (hne : trimBoth (· == '-') (hyphenate inRun cs) ≠ []) :
    Joined (trimBoth (· == '-') (hyphenate inRun cs)) where
  ne_nil := hne
  chars c hc := hyphenate_chars inRun cs c ((trimBoth_isInfix _ _).subset hc)
  single := List.IsChain.infix (hyphenate_single inRun cs).1 (trimBoth_isInfix _ _)
  head c hc := ne_of_beq_false (forall_mem_head?_trimBoth c hc)
  last c hc := ne_of_beq_false (forall_mem_getLast?_trimBoth c hc)

theorem joined_ofText (h : ofText s ≠ "") : Joined (ofText s).toList := by
  rw [ofText, String.toList_ofList]
  refine joined_trimBoth _ _ fun hnil ↦ h ?_
  rw [ofText, hnil]

section Characters

instance : Decidable (IsSlugChar c) :=
  inferInstanceAs (Decidable (_ ∨ _))

theorem IsSlugChar.toNat_lt (h : IsSlugChar c) : c.toNat < 128 := by
  rcases h with h | rfl
  · simp only [isLowerAlnum, isDigit, Bool.or_eq_true, Bool.and_eq_true, decide_eq_true_eq] at h
    rcases h with ⟨-, h⟩ | ⟨-, h⟩
    · exact Nat.lt_of_le_of_lt (UInt32.le_iff_toNat_le.mp h) (by decide)
    · exact Nat.lt_of_le_of_lt (UInt32.le_iff_toNat_le.mp h) (by decide)
  · decide

theorem IsSlugChar.rec_ascii {P : Char → Prop} (hc : IsSlugChar c)
    (h : ∀ n < 128, IsSlugChar (Char.ofNat n) → P (Char.ofNat n)) : P c := by
  have hn := h c.toNat hc.toNat_lt
  rw [Char.ofNat_toNat] at hn
  exact hn hc

theorem IsSlugChar.not_isBlank (h : IsSlugChar c) : isBlank c = false :=
  h.rec_ascii (P := fun c ↦ isBlank c = false) (by decide)

theorem IsSlugChar.lowerChar_eq (h : IsSlugChar c) : lowerChar c = [c] :=
  h.rec_ascii (P := fun c ↦ lowerChar c = [c]) (by decide)

theorem IsSlugChar.ne_sigma (h : IsSlugChar c) : (c == 'Σ') = false :=
  h.rec_ascii (P := fun c ↦ (c == 'Σ') = false) (by decide)

end Characters

theorem lowerAfter_eq_self (h : ∀ c ∈ cs, IsSlugChar c) (before : List Char) :
    lowerAfter before cs = cs := by
  induction cs generalizing before with
  | nil => rfl
  | cons c rest ih =>
    obtain ⟨hc, hrest⟩ := List.forall_mem_cons.mp h
    rw [lowerAfter, hc.ne_sigma, hc.lowerChar_eq, ih hrest]
    rfl

theorem hyphenate_eq_self (hchars : ∀ c ∈ cs, IsSlugChar c)
    (hsingle : cs.IsChain fun a b ↦ a = '-' → b ≠ '-') {inRun : Bool}
    (hhead : inRun = true → ∀ c ∈ cs.head?, c ≠ '-') : hyphenate inRun cs = cs := by
  induction cs generalizing inRun with
  | nil => rfl
  | cons c rest ih =>
    obtain ⟨hc, hrest⟩ := List.forall_mem_cons.mp hchars
    obtain ⟨hnext, htail⟩ := List.isChain_cons.mp hsingle
    rw [hyphenate]
    rcases hc with hword | rfl
    · rw [if_pos hword, ih hrest htail fun h ↦ absurd h Bool.false_ne_true]
    · have hrun : inRun = false := Bool.eq_false_iff.mpr fun h ↦ hhead h '-' rfl rfl
      have hhyphen : ¬ isLowerAlnum '-' = true := by decide
      rw [if_neg hhyphen, hrun, if_neg Bool.false_ne_true,
        ih hrest htail fun _ b hb ↦ hnext b hb rfl]

theorem ofText_eq_self (h : Joined s.toList) : ofText s = s := by
  have htrim : trimBoth (· == '-') s.toList = s.toList :=
    trimBoth_eq_self (fun c hc ↦ beq_false_of_ne (h.head c hc))
      fun c hc ↦ beq_false_of_ne (h.last c hc)
  have hhyphenate : hyphenate false s.toList = s.toList :=
    hyphenate_eq_self h.chars h.single fun h ↦ absurd h Bool.false_ne_true
  rw [ofText, trim_of_none_blank fun c hc ↦ (h.chars c hc).not_isBlank, lowercase,
    String.toList_ofList, lowerAfter_eq_self h.chars, hhyphenate, htrim, String.ofList_toList]

theorem isSlug_iff : isSlug s = true ↔ Joined s.toList := by
  rw [isSlug, Bool.and_eq_true, bne_iff_ne, beq_iff_eq]
  constructor
  · rintro ⟨hne, hself⟩
    rw [← hself] at hne ⊢
    exact joined_ofText hne
  · intro h
    exact ⟨fun hs ↦ h.ne_nil (String.toList_eq_nil_iff.mpr hs), ofText_eq_self h⟩

theorem not_blank_of_isSlug (h : isSlug s = true) : Text.blank s = false := by
  obtain ⟨c, hc⟩ := List.exists_mem_of_ne_nil _ (isSlug_iff.mp h).ne_nil
  rw [Text.blank, List.all_eq_false]
  exact ⟨c, hc, by simp [((isSlug_iff.mp h).chars c hc).not_isBlank]⟩

theorem Joined.of_word (hne : cs ≠ []) (hword : ∀ c ∈ cs, isLowerAlnum c = true) : Joined cs := by
  have hplain (c : Char) (hc : c ∈ cs) : c ≠ '-' := ne_hyphen_of_isLowerAlnum (hword c hc)
  constructor
  · exact hne
  · exact fun c hc ↦ .inl (hword c hc)
  · exact (List.pairwise_of_forall_mem_list fun a ha b _ h ↦ absurd h (hplain a ha)).isChain
  · exact fun c hc ↦ hplain c (List.mem_of_mem_head? hc)
  · exact fun c hc ↦ hplain c (List.mem_of_mem_getLast? hc)

theorem Joined.append_word {word : List Char} (h : Joined cs) (hne : word ≠ [])
    (hword : ∀ c ∈ word, isLowerAlnum c = true) : Joined (cs ++ '-' :: word) := by
  have hlast := Joined.of_word hne hword
  constructor
  · exact List.append_ne_nil_of_left_ne_nil h.ne_nil _
  · rw [List.forall_mem_append, List.forall_mem_cons]
    exact ⟨h.chars, .inr rfl, hlast.chars⟩
  · refine List.isChain_append.mpr ⟨h.single, ?_, ?_⟩
    · exact List.isChain_cons.mpr ⟨fun b hb _ ↦ hlast.head b hb, hlast.single⟩
    · exact fun a ha b _ hhyphen ↦ absurd hhyphen (h.last a ha)
  · rw [List.head?_append_of_ne_nil _ h.ne_nil]
    exact h.head
  · rw [List.append_cons, List.getLast?_append_of_ne_nil _ hne]
    exact hlast.last

section Suffixed

variable (x : Suffix)

theorem toList_withSuffix (base : String) :
    (withSuffix base x).toList = base.toList ++ '-' :: x.chars := by
  rw [withSuffix, String.toList_append, String.toList_ofList]

theorem length_withSuffix (base : String) :
    Text.length (withSuffix base x) = Text.length base + 7 := by
  rw [Text.length, toList_withSuffix, List.length_append, List.length_cons, x.length_chars]
  rfl

theorem withSuffix_ne (base : String) : withSuffix base x ≠ base := by
  intro heq
  have hlength := length_withSuffix x base
  rw [heq] at hlength
  omega

theorem isSlug_withSuffix (h : isSlug base = true) : isSlug (withSuffix base x) = true := by
  have hne : x.chars ≠ [] := List.ne_nil_of_length_eq_add_one x.length_chars
  rw [isSlug_iff, toList_withSuffix]
  exact (isSlug_iff.mp h).append_word hne (List.all_eq_true.mp x.alnum_chars)

end Suffixed

end Slug

end Roster
