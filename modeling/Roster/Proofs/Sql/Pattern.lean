import Mathlib.Data.List.Forall2
import Mathlib.Data.List.Infix
import Roster.Sql.Like

namespace Roster.Sql

inductive Piece where
  | anything
  | anyOne
  | exactly (c : Char)
  deriving DecidableEq, Repr

def pieces? : List Char → Option (List Piece)
  | [] => some []
  | ['\\'] => none
  | '\\' :: c :: p => (pieces? p).map (.exactly c :: ·)
  | '%' :: p => (pieces? p).map (.anything :: ·)
  | '_' :: p => (pieces? p).map (.anyOne :: ·)
  | c :: p => (pieces? p).map (.exactly c :: ·)

/-- Whether a text consists of parts that go with the pieces. `R c d` says that `d` goes with `c`. -/
def Fits (R : Char → Char → Prop) : List Piece → List Char → Prop
  | [], t => t = []
  | .anything :: p, t => ∃ rest, rest <:+ t ∧ Fits R p rest
  | .anyOne :: p, t => ∃ d rest, t = d :: rest ∧ Fits R p rest
  | .exactly c :: p, t => ∃ d rest, t = d :: rest ∧ R c d ∧ Fits R p rest

instance Fits.decidable (R : Char → Char → Prop) [DecidableRel R] :
    (p : List Piece) → (t : List Char) → Decidable (Fits R p t)
  | [], t => inferInstanceAs (Decidable (t = []))
  | .anything :: p, t =>
    have := Fits.decidable R p
    decidable_of_iff (∃ rest ∈ t.tails, Fits R p rest) <| by simp only [List.mem_tails, Fits]
  | .anyOne :: _, [] => isFalse <| by simp [Fits]
  | .anyOne :: p, _ :: t =>
    have := Fits.decidable R p t
    decidable_of_iff (Fits R p t) <| by simp [Fits]
  | .exactly _ :: _, [] => isFalse <| by simp [Fits]
  | .exactly c :: p, d :: t =>
    have := Fits.decidable R p t
    decidable_of_iff (R c d ∧ Fits R p t) <| by simp [Fits]

def IsLike (R : Char → Char → Prop) (text pattern : String) : Prop :=
  ∃ pieces ∈ pieces? pattern.toList, Fits R pieces text.toList

instance (R : Char → Char → Prop) [DecidableRel R] (text pattern : String) :
    Decidable (IsLike R text pattern) :=
  inferInstanceAs (Decidable (∃ pieces ∈ pieces? pattern.toList, Fits R pieces text.toList))

def replaceEach (c : Char) (new : List Char) (cs : List Char) : List Char :=
  cs.flatMap fun d ↦ if d = c then new else [d]

variable {R : Char → Char → Prop} {cs : List Char}

/-- Escaping character by character is doubling the backslashes first, and then putting a new one
before every other character with a meaning. -/
theorem escapeLike_eq (cs : List Char) : escapeLike cs =
    replaceEach '_' ['\\', '_'] (replaceEach '%' ['\\', '%'] (replaceEach '\\' ['\\', '\\'] cs)) := by
  simp only [escapeLike, replaceEach, List.flatMap_assoc]
  refine List.flatMap_congr fun c _ ↦ ?_
  by_cases hplain : c = '\\' ∨ c = '%' ∨ c = '_'
  · rcases hplain with rfl | rfl | rfl <;> decide
  · obtain ⟨hslash, hpercent, hunderscore⟩ := not_or.mp hplain |>.imp_right not_or.mp
    simp [hslash, hpercent, hunderscore]

theorem pieces?_escapeLike_append (cs p : List Char) :
    pieces? (escapeLike cs ++ p) = (pieces? p).map (cs.map .exactly ++ ·) := by
  induction cs with
  | nil => simp [escapeLike]
  | cons c cs ih =>
    have hcons : escapeLike (c :: cs) ++ p =
        (if c == '\\' || c == '%' || c == '_' then ['\\', c] else [c]) ++ (escapeLike cs ++ p) := by
      rw [escapeLike, List.flatMap_cons, List.append_assoc]
      rfl
    have hpieces : pieces? (escapeLike (c :: cs) ++ p) =
        (pieces? (escapeLike cs ++ p)).map (.exactly c :: ·) := by
      rw [hcons]
      split
      · rfl
      · next hc =>
        simp only [Bool.or_eq_true, beq_iff_eq, not_or] at hc
        simp [pieces?, hc]
    rw [hpieces, ih, Option.map_map]
    rfl

theorem pieces?_likePattern (s : String) : pieces? (likePattern s).toList =
    some (.anything :: s.toList.map .exactly ++ [.anything]) := by
  have hpieces : pieces? (escapeLike s.toList ++ ['%']) =
      some (s.toList.map .exactly ++ [.anything]) := pieces?_escapeLike_append s.toList ['%']
  rw [likePattern, String.toList_ofList, List.cons_append, pieces?, hpieces]
  rfl

theorem fits_exactly_append {p : List Piece} {t : List Char} :
    Fits R (cs.map .exactly ++ p) t ↔
      ∃ part rest, t = part ++ rest ∧ List.Forall₂ R cs part ∧ Fits R p rest := by
  induction cs generalizing t with
  | nil => simp
  | cons c cs ih =>
    rw [List.map_cons, List.cons_append, Fits]
    simp only [ih]
    constructor
    · rintro ⟨d, _, rfl, hd, part, rest, rfl, hpart, hrest⟩
      exact ⟨d :: part, rest, rfl, .cons hd hpart, hrest⟩
    · rintro ⟨_, rest, rfl, hpart, hrest⟩
      cases hpart with
      | cons hd hpart => exact ⟨_, _, rfl, hd, _, rest, rfl, hpart, hrest⟩

theorem isLike_likePattern {s t : String} : IsLike R t (likePattern s) ↔
    ∃ part, part <:+: t.toList ∧ List.Forall₂ R s.toList part := by
  have hfits (t : List Char) : Fits R (.anything :: s.toList.map .exactly ++ [.anything]) t ↔
      ∃ part, part <:+: t ∧ List.Forall₂ R s.toList part := by
    rw [List.cons_append, Fits]
    simp only [fits_exactly_append]
    constructor
    · rintro ⟨_, hsuffix, part, rest, rfl, hpart, -⟩
      exact ⟨part, (List.prefix_append part rest).isInfix.trans hsuffix.isInfix, hpart⟩
    · rintro ⟨part, ⟨before, rest, rfl⟩, hpart⟩
      refine ⟨part ++ rest, ?_, part, rest, rfl, hpart, [], List.nil_suffix, rfl⟩
      rw [List.append_assoc]
      exact List.suffix_append before _
  rw [IsLike, pieces?_likePattern]
  simp only [Option.mem_some_iff, exists_eq_left', hfits]

/-- The pattern of a search is its characters with each one that has a meaning escaped, between two
wildcards, and is never ill-formed. A text matches it if and only if it contains the search, or where
characters are compared by another relation, something whose characters go with those of the search
one by one. -/
theorem likePattern_exact (s t : String) :
    likePattern s = String.ofList ('%' :: (replaceEach '_' ['\\', '_'] (replaceEach '%' ['\\', '%']
      (replaceEach '\\' ['\\', '\\'] s.toList))) ++ ['%']) ∧
    pieces? (likePattern s).toList = some (.anything :: s.toList.map .exactly ++ [.anything]) ∧
    (IsLike (· = ·) t (likePattern s) ↔ s.toList <:+: t.toList) ∧
    ∀ R : Char → Char → Prop, IsLike R t (likePattern s) ↔
      ∃ part, part <:+: t.toList ∧ List.Forall₂ R s.toList part := by
  refine ⟨?_, pieces?_likePattern s, ?_, fun R ↦ isLike_likePattern⟩
  · rw [likePattern, escapeLike_eq]
  · rw [isLike_likePattern]
    simp only [List.forall₂_eq_eq_eq, exists_eq_right']

example : IsLike (· = ·) "at 50%_off" (likePattern "50%_") ∧
    ¬ IsLike (· = ·) "at 500 off" (likePattern "50%_") ∧
    IsLike (·.toLower = ·.toLower) "a\\B" (likePattern "\\b") := by
  decide

end Roster.Sql
