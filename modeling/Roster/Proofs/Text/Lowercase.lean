import Mathlib.Data.List.Infix
import Roster.Text.Lowercase
import Roster.Text.Pieces

namespace Roster.Text

variable {before m m' after : List Char}

theorem occursIn_iff {α : Type} [BEq α] [LawfulBEq α] {needle l : List α} :
    occursIn needle l = true ↔ needle <:+: l := by
  induction l with
  | nil => rw [occursIn, List.isEmpty_iff, List.infix_nil]
  | cons c rest ih =>
    rw [occursIn, Bool.or_eq_true, List.isPrefixOf_iff_prefix, ih, List.infix_cons_iff]

def endsWord (before after : List Char) : Bool :=
  facesCased before && !facesCased after

/-- Lower-cases the second list between what stands before it, nearest character first, and what
follows. -/
def lowerBetween : List Char → List Char → List Char → List Char
  | _, [], _ => []
  | before, c :: rest, after =>
    (if c == 'Σ' then [if endsWord before (rest ++ after) then 'ς' else 'σ'] else lowerChar c) ++
      lowerBetween (c :: before) rest after

theorem lowerAfter_append (before m after : List Char) :
    lowerAfter before (m ++ after) =
      lowerBetween before m after ++ lowerAfter (m.reverse ++ before) after := by
  induction m generalizing before with
  | nil => rfl
  | cons c rest ih =>
    rw [List.cons_append, lowerAfter, ih, lowerBetween, List.reverse_cons, List.append_assoc,
      List.append_assoc]
    rfl

theorem lowercase_toList (s : String) : (lowercase s).toList = lowerBetween [] s.toList [] := by
  have h := lowerAfter_append [] s.toList []
  rw [List.append_nil] at h
  rw [lowercase, String.toList_ofList, h]
  exact List.append_nil _

/-- The lower-case form of a part stands in the lower-case form of the whole. -/
theorem lowerBetween_isInfix (before m after : List Char) :
    lowerBetween before.reverse m after <:+: lowerAfter [] (before ++ m ++ after) := by
  rw [List.append_assoc, lowerAfter_append, lowerAfter_append, List.append_nil,
    ← List.append_assoc]
  exact List.infix_append ..

section Letters

/-- What does not tell the cases of an ASCII letter apart does not see their lower-casing. -/
theorem apply_toLower {α : Type} (g : Char → α)
    (h : ∀ n ≤ 90, 65 ≤ n → g (Char.ofNat n).toLower = g (Char.ofNat n)) (c : Char) :
    g c.toLower = g c := by
  by_cases hc : 65 ≤ c.toNat ∧ c.toNat ≤ 90
  · have hn := h c.toNat hc.2 hc.1
    rwa [Char.ofNat_toNat] at hn
  · have hlower : c.toLower = c := dif_neg fun hupper ↦ hc hupper
    rw [hlower]

@[simp] theorem isCased_toLower (c : Char) : isCased c.toLower = isCased c :=
  apply_toLower isCased (by decide) c

@[simp] theorem isCaseIgnorable_toLower (c : Char) :
    isCaseIgnorable c.toLower = isCaseIgnorable c :=
  apply_toLower isCaseIgnorable (by decide +kernel) c

@[simp] theorem lowerChar_toLower (c : Char) : lowerChar c.toLower = lowerChar c :=
  apply_toLower lowerChar (by decide) c

@[simp] theorem toLower_beq_sigma (c : Char) : (c.toLower == 'Σ') = (c == 'Σ') :=
  apply_toLower (· == 'Σ') (by decide) c

@[simp] theorem facesCased_map_toLower (l : List Char) :
    facesCased (l.map Char.toLower) = facesCased l := by
  have hignorable : isCaseIgnorable ∘ Char.toLower = isCaseIgnorable :=
    funext isCaseIgnorable_toLower
  have hcased : isCased ∘ Char.toLower = isCased := funext isCased_toLower
  rw [facesCased, List.dropWhile_map, hignorable, List.head?_map, Option.map_map, hcased, facesCased]

@[simp] theorem endsWord_map_toLower (before after : List Char) :
    endsWord (before.map Char.toLower) (after.map Char.toLower) = endsWord before after := by
  rw [endsWord, facesCased_map_toLower, facesCased_map_toLower, endsWord]

theorem lowerBetween_map_toLower (before m after : List Char) :
    lowerBetween (before.map Char.toLower) (m.map Char.toLower) (after.map Char.toLower) =
      lowerBetween before m after := by
  induction m generalizing before with
  | nil => rfl
  | cons c rest ih =>
    rw [List.map_cons, lowerBetween, lowerBetween, ← List.map_append, endsWord_map_toLower,
      toLower_beq_sigma, lowerChar_toLower, ← List.map_cons, ih]

/-- Parts that are the same up to the case of ASCII letters are lower-cased alike. -/
theorem lowerBetween_congr (h : m.map Char.toLower = m'.map Char.toLower)
    (before after : List Char) : lowerBetween before m after = lowerBetween before m' after := by
  rw [← lowerBetween_map_toLower before m, h, lowerBetween_map_toLower]

end Letters

section Sigmas

/-- The capital sigmas of a part have the same form in their place as in the part alone. -/
def SigmasAgree (before m after : List Char) : Prop :=
  ∀ x y, m = x ++ 'Σ' :: y →
    endsWord (x.reverse ++ before) (y ++ after) = endsWord x.reverse y

theorem SigmasAgree.of_not_mem (h : 'Σ' ∉ m) : SigmasAgree before m after := by
  rintro x y rfl
  simp at h

theorem forall_eq_append_cons {α : Type} {P : List α → List α → Prop} {a b : α} {l : List α} :
    (∀ x y, b :: l = x ++ a :: y → P x y) ↔
      (b = a → P [] l) ∧ ∀ x y, l = x ++ a :: y → P (b :: x) y := by
  constructor
  · intro h
    exact ⟨fun hb ↦ h [] l (by rw [hb]; rfl), fun x y hl ↦ h (b :: x) y (by rw [hl]; rfl)⟩
  · rintro ⟨hhead, htail⟩ x y h
    cases x with
    | nil =>
      obtain ⟨hb, rfl⟩ := List.cons.inj h
      exact hhead hb
    | cons d x =>
      obtain ⟨rfl, hl⟩ := List.cons.inj h
      exact htail x y hl

/-- The induction is on the part; `lead` is what of it has been passed. -/
theorem lowerBetween_append_eq_iff (lead before m after : List Char) :
    lowerBetween (lead ++ before) m after = lowerBetween lead m [] ↔
      ∀ x y, m = x ++ 'Σ' :: y →
        endsWord (x.reverse ++ (lead ++ before)) (y ++ after) = endsWord (x.reverse ++ lead) y := by
  induction m generalizing lead with
  | nil => simp [lowerBetween]
  | cons c rest ih =>
    rw [forall_eq_append_cons]
    simp only [List.reverse_cons, List.reverse_nil, List.nil_append, List.append_assoc]
    have ih := ih (c :: lead)
    simp only [List.cons_append] at ih
    simp only [lowerBetween, List.append_nil]
    by_cases hc : c = 'Σ'
    · subst hc
      have hform (b b' : Bool) : (if b then 'ς' else 'σ') = (if b' then 'ς' else 'σ') ↔ b = b' := by
        revert b b'
        decide
      simp [hform, ih]
    · simp [hc, ih]

theorem lowerBetween_eq_iff :
    lowerBetween before m after = lowerBetween [] m [] ↔ SigmasAgree before m after := by
  have h := lowerBetween_append_eq_iff [] before m after
  simp only [List.nil_append, List.append_nil] at h
  exact h

end Sigmas

end Roster.Text
