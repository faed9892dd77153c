import Mathlib.Computability.Language
import Roster.Proofs.Slug.NormalForm

namespace Roster.Slug

open Computability Text

def letter : Language Char :=
  {cs | ∃ c, isLowerAlnum c = true ∧ cs = [c]}

def word : Language Char :=
  letter * letter∗

def hyphen : Language Char :=
  {['-']}

def grammar : Language Char :=
  word * (hyphen * word)∗

variable {cs first rest : List Char} {base : String}

theorem mem_letters_iff : cs ∈ letter∗ ↔ ∀ c ∈ cs, isLowerAlnum c = true := by
  rw [Language.mem_kstar]
  constructor
  · rintro ⟨letters, rfl, hletters⟩ c hc
    obtain ⟨l, hl, hc⟩ := List.mem_flatten.mp hc
    obtain ⟨d, hd, rfl⟩ := hletters l hl
    rwa [List.mem_singleton.mp hc]
  · intro hcs
    refine ⟨cs.map ([·]), ?_, ?_⟩
    · rw [← List.flatMap_def, List.flatMap_singleton']
    · intro l hl
      obtain ⟨c, hc, rfl⟩ := List.mem_map.mp hl
      exact ⟨c, hcs c hc, rfl⟩

theorem mem_word_iff : cs ∈ word ↔ cs ≠ [] ∧ ∀ c ∈ cs, isLowerAlnum c = true := by
  rw [word, Language.mem_mul]
  constructor
  · rintro ⟨l, ⟨c, hc, rfl⟩, cs, hcs, rfl⟩
    exact ⟨List.cons_ne_nil c cs, List.forall_mem_cons.mpr ⟨hc, mem_letters_iff.mp hcs⟩⟩
  · rintro ⟨hne, hcs⟩
    obtain ⟨c, cs, rfl⟩ := List.exists_cons_of_ne_nil hne
    obtain ⟨hc, hcs⟩ := List.forall_mem_cons.mp hcs
    exact ⟨[c], ⟨c, hc, rfl⟩, cs, mem_letters_iff.mpr hcs, rfl⟩

theorem mem_hyphen_word_iff : cs ∈ hyphen * word ↔ ∃ w ∈ word, cs = '-' :: w := by
  rw [Language.mem_mul]
  constructor
  · rintro ⟨h, rfl, w, hw, rfl⟩
    exact ⟨w, hw, rfl⟩
  · rintro ⟨w, hw, rfl⟩
    exact ⟨['-'], rfl, w, hw, rfl⟩

theorem Joined.append_words (h : Joined cs) {words : List (List Char)}
    (hwords : ∀ w ∈ words, w ∈ hyphen * word) : Joined (cs ++ words.flatten) := by
  induction words generalizing cs with
  | nil => rwa [List.flatten_nil, List.append_nil]
  | cons w words ih =>
    obtain ⟨hfirst, hothers⟩ := List.forall_mem_cons.mp hwords
    obtain ⟨w, hw, rfl⟩ := mem_hyphen_word_iff.mp hfirst
    obtain ⟨hne, hchars⟩ := mem_word_iff.mp hw
    rw [List.flatten_cons, ← List.append_assoc]
    exact ih (h.append_word hne hchars) hothers

theorem Joined.of_append (h : Joined (first ++ '-' :: rest)) : Joined rest := by
  have hsuffix : rest <:+ first ++ '-' :: rest := ⟨first ++ ['-'], by simp⟩
  have hsingle : ('-' :: rest).IsChain fun a b ↦ a = '-' → b ≠ '-' :=
    (List.isChain_append.mp h.single).2.1
  have hne : rest ≠ [] := by
    rintro rfl
    exact h.last '-' (by simp) rfl
  constructor
  · exact hne
  · exact fun c hc ↦ h.chars c (hsuffix.subset hc)
  · exact hsingle.tail
  · exact fun c hc ↦ (List.isChain_cons.mp hsingle).1 c hc rfl
  · intro c hc
    refine h.last c ?_
    rwa [List.append_cons, List.getLast?_append_of_ne_nil _ hne]

theorem Joined.exists_word (h : Joined cs) : ∃ w ∈ word, ∃ rest,
    cs = w ++ rest ∧ ∀ c ∈ rest.head?, c = '-' := by
  refine ⟨cs.takeWhile isLowerAlnum, mem_word_iff.mpr ⟨?_, ?_⟩, cs.dropWhile isLowerAlnum,
    List.takeWhile_append_dropWhile.symm, ?_⟩
  · obtain ⟨c, rest, rfl⟩ := List.exists_cons_of_ne_nil h.ne_nil
    have hc : isLowerAlnum c = true :=
      (h.chars c List.mem_cons_self).resolve_right (h.head c rfl)
    rw [List.takeWhile_cons, if_pos hc]
    exact List.cons_ne_nil _ _
  · exact fun c hc ↦ List.mem_takeWhile_imp hc
  · intro c hc
    have hmem := (List.dropWhile_suffix isLowerAlnum).subset (List.mem_of_mem_head? hc)
    refine (h.chars c hmem).resolve_left ?_
    exact Bool.eq_false_iff.mp (forall_mem_head?_dropWhile c hc)

theorem Joined.mem_grammar {cs : List Char} (h : Joined cs) : cs ∈ grammar := by
  obtain ⟨w, hw, rest, rfl, hhead⟩ := h.exists_word
  cases rest with
  | nil => exact Language.append_mem_mul hw (Language.nil_mem_kstar _)
  | cons c rest =>
    obtain rfl := hhead c rfl
    -- The rest is shorter, and has the grammar of a first word and further ones.
    obtain ⟨w', hw', tail, htail, hrest⟩ := Language.mem_mul.mp h.of_append.mem_grammar
    obtain ⟨words, rfl, hwords⟩ := Language.mem_kstar.mp htail
    refine Language.append_mem_mul hw (Language.mem_kstar.mpr ⟨('-' :: w') :: words, ?_, ?_⟩)
    · rw [List.flatten_cons, List.cons_append, hrest]
    · exact List.forall_mem_cons.mpr ⟨mem_hyphen_word_iff.mpr ⟨w', hw', rfl⟩, hwords⟩
termination_by cs.length
decreasing_by
  subst_vars
  simp only [List.length_append, List.length_cons]
  omega

theorem mem_grammar_iff : cs ∈ grammar ↔ Joined cs := by
  refine ⟨fun h ↦ ?_, Joined.mem_grammar⟩
  obtain ⟨w, hw, tail, htail, rfl⟩ := Language.mem_mul.mp h
  obtain ⟨words, rfl, hwords⟩ := Language.mem_kstar.mp htail
  obtain ⟨hne, hchars⟩ := mem_word_iff.mp hw
  exact (Joined.of_word hne hchars).append_words hwords

theorem isSlug_iff_mem_grammar {s : String} : isSlug s = true ↔ s.toList ∈ grammar :=
  isSlug_iff.trans mem_grammar_iff.symm

theorem ofText_ofText (s : String) : ofText (ofText s) = ofText s := by
  by_cases h : ofText s = ""
  · rw [h]
    decide
  · exact ofText_eq_self (joined_ofText h)

theorem exists_withSuffix_iff {r : String} : (∃ x : Suffix, withSuffix base x = r) ↔
    ∃ cs : List Char, cs.length = 6 ∧ (∀ c ∈ cs, isLowerAlnum c = true) ∧
      r = base ++ "-" ++ String.ofList cs := by
  have hjoin (cs : List Char) :
      base ++ String.ofList ('-' :: cs) = base ++ "-" ++ String.ofList cs := by
    rw [← String.toList_inj]
    simp [String.toList_append]
  constructor
  · rintro ⟨x, rfl⟩
    exact ⟨x.chars, x.length_chars, List.all_eq_true.mp x.alnum_chars, hjoin x.chars⟩
  · rintro ⟨cs, hlength, hcs, rfl⟩
    exact ⟨⟨cs, hlength, List.all_eq_true.mpr hcs⟩, hjoin cs⟩

/-- Deriving a slug gives the empty text or one of the grammar, and the same when it is done again.
The slugs are the texts of the grammar, and with any suffix a slug is another slug. -/
theorem normal_form :
    (∀ s, ofText s = "" ∨ (ofText s).toList ∈ grammar) ∧
    (∀ s, ofText (ofText s) = ofText s) ∧
    (∀ s, isSlug s = true ↔ s ≠ "" ∧ s.toList ∈ grammar) ∧
    (∀ base r, (∃ x : Suffix, withSuffix base x = r) ↔
      ∃ cs : List Char, cs.length = 6 ∧ (∀ c ∈ cs, isLowerAlnum c = true) ∧
        r = base ++ "-" ++ String.ofList cs) ∧
    ∀ base (x : Suffix), isSlug base = true →
      isSlug (withSuffix base x) = true ∧ withSuffix base x ≠ base := by
  refine ⟨fun s ↦ ?_, ofText_ofText, fun s ↦ ?_, fun base r ↦ exists_withSuffix_iff, ?_⟩
  · by_cases h : ofText s = ""
    · exact .inl h
    · exact .inr (joined_ofText h).mem_grammar
  · rw [isSlug_iff_mem_grammar]
    refine ⟨fun h ↦ ⟨?_, h⟩, fun h ↦ h.2⟩
    rintro rfl
    exact (mem_grammar_iff.mp h).ne_nil rfl
  · exact fun base x h ↦ ⟨isSlug_withSuffix x h, withSuffix_ne x base⟩

theorem normal_form_of_kelvin :
    let base := ofText " \u212A & 9 "
    let x : Suffix := ⟨"x09zzq".toList, by decide, by decide⟩
    base = "k-9" ∧ isSlug base = true ∧ isSlug (withSuffix base x) = true ∧
      withSuffix base x ≠ base := by
  intro base x
  obtain ⟨-, -, -, -, hsuffix⟩ := normal_form
  have hbase : base = "k-9" := by decide
  have hslug : isSlug base = true := by decide +kernel
  exact ⟨hbase, hslug, hsuffix base x hslug⟩

end Roster.Slug
