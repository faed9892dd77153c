import Roster.Api.Credentials
import Roster.Proofs.Token.RoundTrip

namespace Roster

open Http (Header)

def IsVisible (c : Char) : Prop :=
  32 < c.toNat ∧ c.toNat < 127

theorem IsVisible.not_isBlank {c : Char} (hc : IsVisible c) : Text.isBlank c = false := by
  obtain ⟨hlow, hhigh⟩ := hc
  simp only [Text.isBlank, Bool.or_eq_false_iff, Bool.and_eq_false_iff, decide_eq_false_iff_not,
    beq_eq_false_iff_ne]
  omega

theorem Signer.segment_visible (bytes : Bytes) :
    ∀ c ∈ (segment bytes).toList, IsVisible c := by
  have hdigit : ∀ n < 64, IsVisible (Base64.Form.urlSafe.digit n) := by
    unfold IsVisible
    decide
  rw [segment, Base64.text, String.toList_ofList]
  exact Base64.forall_mem_encode hdigit (fun h ↦ absurd h Bool.false_ne_true) bytes

theorem Signer.sign_visible (s : Signer) (c : Claims) : ∀ d ∈ (s.sign c).toList, IsVisible d := by
  have hlist : ".".toList = ['.'] := by decide
  have hdot : ∀ d ∈ ".".toList, IsVisible d := by
    rw [hlist, List.forall_mem_singleton]
    constructor <;> decide
  have happend {l l' : String} (hl : ∀ d ∈ l.toList, IsVisible d)
      (hl' : ∀ d ∈ l'.toList, IsVisible d) : ∀ d ∈ (l ++ l').toList, IsVisible d := by
    rw [String.toList_append, List.forall_mem_append]
    exact ⟨hl, hl'⟩
  have hmessage := happend (happend (segment_visible (Bytes.ofText header.compact)) hdot)
    (segment_visible (Bytes.ofText c.toJson.compact))
  exact happend (happend hmessage hdot) (segment_visible _)

theorem Signer.sign_ne_empty (s : Signer) (c : Claims) : s.sign c ≠ "" := by
  intro h
  have hlist := congrArg String.toList h
  simp [sign, String.toList_append] at hlist

def IsFieldChar (c : Char) : Prop :=
  IsVisible c ∨ c = ' ' ∨ c = '\t'

theorem isFieldChar_iff {c : Char} :
    IsFieldChar c ↔ 32 ≤ c.toNat ∧ c.toNat < 127 ∨ c.toNat = 9 := by
  have hspace : c = ' ' ↔ c.toNat = 32 := (Char.toNat_inj (d := ' ')).symm
  have htab : c = '\t' ↔ c.toNat = 9 := (Char.toNat_inj (d := '\t')).symm
  rw [IsFieldChar, IsVisible, hspace, htab]
  omega

/-- The fields that are read as texts are those that hold visible ASCII and blanks. -/
theorem Http.Header.text?_eq_some_iff {h : Header} {s : String} :
    h.text? = some s ↔ h.value = Bytes.ofText s ∧ ∀ c ∈ s.toList, IsFieldChar c := by
  have hall : (h.value.all fun b ↦ (32 ≤ b && b < 127) || b == 9) = true ↔
      ∀ b ∈ h.value, IsFieldChar (Char.ofNat b.toNat) := by
    simp [isFieldChar_iff, Bytes.ofNat_toNat_toNat, UInt8.le_iff_toNat_le, UInt8.lt_iff_toNat_lt,
      ← UInt8.toNat_inj]
  constructor
  · intro htext
    rw [text?] at htext
    split at htext
    · next hbytes =>
      cases htext
      rw [hall] at hbytes
      refine ⟨(Bytes.ofText_of_ascii fun b hb ↦ ?_).symm, ?_⟩
      · have hb := isFieldChar_iff.mp (hbytes b hb)
        rw [Bytes.ofNat_toNat_toNat] at hb
        omega
      · rwa [String.toList_ofList, List.forall_mem_map]
    · cases htext
  · rintro ⟨hvalue, hchars⟩
    have hback : h.value.map (fun b ↦ Char.ofNat b.toNat) = s.toList := by
      rw [hvalue]
      refine Bytes.map_ofText_of_ascii fun c hc ↦ ?_
      have := isFieldChar_iff.mp (hchars c hc)
      omega
    have hbytes : ∀ b ∈ h.value, IsFieldChar (Char.ofNat b.toNat) := by
      rwa [← List.forall_mem_map, hback]
    rw [text?, if_pos (hall.mpr hbytes), hback, String.ofList_toList]

end Roster
