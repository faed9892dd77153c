import Mathlib.Control.Basic
import Mathlib.Data.Option.Basic
import Roster.Json.Token
import Roster.Proofs.Encoding.Bytes

namespace Roster.Json.Token

open Bytes

section

variable {content rest : Bytes}

theorem scanString_byte {b : UInt8} (hquote : b ≠ 34) (hescape : b ≠ 92) (hcontrol : ¬ b < 32) :
    scanString ⟨none, true, content⟩ (b :: rest) = scanString ⟨none, true, b :: content⟩ rest := by
  rw [scanString.eq_def]
  simp only [beq_iff_eq, hquote, hescape, hcontrol, if_false]
  rfl

theorem scanString_bytes {bytes : Bytes} (hbytes : ∀ b ∈ bytes, 128 ≤ b) :
    scanString ⟨none, true, content⟩ (bytes ++ rest) =
      scanString ⟨none, true, bytes.reverse ++ content⟩ rest := by
  induction bytes generalizing content with
  | nil => rfl
  | cons b bytes ih =>
    obtain ⟨hb, hbytes⟩ := List.forall_mem_cons.mp hbytes
    have hquote : b ≠ 34 := by
      rintro rfl
      exact absurd hb (by decide)
    have hescape : b ≠ 92 := by
      rintro rfl
      exact absurd hb (by decide)
    have hcontrol : ¬ b < 32 := UInt8.not_lt.mpr (UInt8.le_trans (by decide) hb)
    rw [List.cons_append, scanString_byte hquote hescape hcontrol, ih hbytes, List.reverse_cons,
      List.append_assoc]
    rfl

theorem scanString_letter {e b : UInt8} (he : e ≠ 117) (hb : escaped? e = some b) :
    scanString ⟨none, true, content⟩ (92 :: e :: rest) =
      scanString ⟨none, true, b :: content⟩ rest := by
  rw [scanString.eq_def]
  simp only [beq_iff_eq, he, hb, if_false, if_true]
  rfl

theorem codeBytes_toNat (c : Char) : codeBytes c.toNat = (String.utf8EncodeChar c).reverse := by
  rw [codeBytes, Char.ofNat_toNat, ofText_eq, String.toList_singleton, ofChars_cons, ofChars_nil,
    List.append_nil]

theorem hexDigit_lt : ∀ n < 16, (Hex.digit n).toNat < 128 := by
  decide

theorem unitOfHex?_control : ∀ n < 32, unitOfHex? [48, 48, UInt8.ofNat (Hex.digit (n / 16)).toNat,
    UInt8.ofNat (Hex.digit (n % 16)).toNat] = some n := by
  decide

theorem scanString_control {c : Char} (hc : c.toNat < 32) :
    scanString ⟨none, true, content⟩ (ofChars
        ['\\', 'u', '0', '0', Hex.digit (c.toNat / 16), Hex.digit (c.toNat % 16)] ++ rest) =
      scanString ⟨none, true, (String.utf8EncodeChar c).reverse ++ content⟩ rest := by
  have hunit : Scan.unit ⟨none, true, content⟩ c.toNat =
      ⟨none, true, (String.utf8EncodeChar c).reverse ++ content⟩ := by
    have hhigh : ¬ 0xD800 ≤ c.toNat := by omega
    have hlow : ¬ 0xDC00 ≤ c.toNat := by omega
    simp only [Scan.unit, hhigh, hlow, decide_false, Bool.false_and, Bool.false_eq_true, if_false,
      codeBytes_toNat]
    rfl
  have hbytes : ofChars
      ['\\', 'u', '0', '0', Hex.digit (c.toNat / 16), Hex.digit (c.toNat % 16)] =
        [92, 117, 48, 48, UInt8.ofNat (Hex.digit (c.toNat / 16)).toNat,
          UInt8.ofNat (Hex.digit (c.toNat % 16)).toNat] := by
    have hfirst := utf8EncodeChar_of_lt (hexDigit_lt (c.toNat / 16) (by omega))
    have hsecond := utf8EncodeChar_of_lt (hexDigit_lt (c.toNat % 16) (by omega))
    simp only [ofChars_cons, ofChars_nil, hfirst, hsecond]
    rfl
  rw [hbytes, scanString.eq_def]
  simp only [List.cons_append, List.nil_append, beq_iff_eq, unitOfHex?_control _ hc, if_true, hunit]
  rfl

theorem scanString_plain {c : Char} (hquote : c ≠ '"') (hescape : c ≠ '\\')
    (hcontrol : ¬ c.toNat < 32) :
    scanString ⟨none, true, content⟩ (ofChars [c] ++ rest) =
      scanString ⟨none, true, (String.utf8EncodeChar c).reverse ++ content⟩ rest := by
  rw [ofChars_cons, ofChars_nil, List.append_nil]
  by_cases hc : c.toNat < 128
  · have hbyte : (UInt8.ofNat c.toNat).toNat = c.toNat := by
      rw [UInt8.toNat_ofNat', Nat.mod_eq_of_lt (by omega)]
    have hne (d : Char) (hcd : c ≠ d) : (UInt8.ofNat c.toNat).toNat ≠ d.toNat := by
      rw [hbyte]
      exact fun h ↦ hcd (Char.toNat_inj.mp h)
    rw [utf8EncodeChar_of_lt hc]
    refine scanString_byte (fun h ↦ hne '"' hquote ?_) (fun h ↦ hne '\\' hescape ?_) ?_
    · rw [h]
      rfl
    · rw [h]
      rfl
    · rw [UInt8.lt_iff_toNat_lt, hbyte]
      exact hcontrol
  · exact scanString_bytes (le_of_mem_utf8EncodeChar (Nat.not_lt.mp hc))

theorem scanString_escape (c : Char) :
    scanString ⟨none, true, content⟩ (ofChars (escape c) ++ rest) =
      scanString ⟨none, true, (String.utf8EncodeChar c).reverse ++ content⟩ rest := by
  by_cases hletter : c ∈ ['"', '\\', '\x08', '\x0c', '\n', '\r', '\t']
  · simp only [List.mem_cons, List.not_mem_nil, or_false] at hletter
    rcases hletter with rfl | rfl | rfl | rfl | rfl | rfl | rfl <;>
      exact scanString_letter (by decide) rfl
  · simp only [List.mem_cons, List.not_mem_nil, or_false, not_or] at hletter
    obtain ⟨hquote, hescape, hb, hf, hn, hr, ht⟩ := hletter
    simp only [escape, hquote, hescape, hb, hf, hn, hr, ht, if_false]
    split
    · next hcontrol => exact scanString_control hcontrol
    · next hcontrol => exact scanString_plain hquote hescape hcontrol

theorem scanString_chars (cs : List Char) :
    scanString ⟨none, true, content⟩ (ofChars (cs.flatMap escape) ++ 34 :: rest) =
      some (toText? (content.reverse ++ ofChars cs), rest) := by
  induction cs generalizing content with
  | nil =>
    rw [scanString.eq_def]
    simp [Scan.result]
  | cons c cs ih =>
    rw [List.flatMap_cons, ofChars_append, List.append_assoc, scanString_escape, ih]
    simp

theorem scanString_quote (s : String) :
    scanString {} (ofChars (s.toList.flatMap escape) ++ 34 :: rest) = some (some s, rest) := by
  rw [scanString_chars, List.reverse_nil, List.nil_append, ← ofText_eq, toText?_ofText]

end

section

variable {rest : Bytes}

def decimal (m : Nat) : Bytes :=
  ofChars (Nat.toDigits 10 m)

theorem ofChars_digitChar {d : Nat} (hd : d < 10) :
    ofChars [Nat.digitChar d] = [UInt8.ofNat (48 + d)] := by
  have htoNat := Nat.toNat_digitChar_of_lt_ten hd
  rw [ofChars_cons, ofChars_nil, List.append_nil, utf8EncodeChar_of_lt (by omega), htoNat]

theorem decimal_of_lt {m : Nat} (hm : m < 10) : decimal m = [UInt8.ofNat (48 + m)] := by
  rw [decimal, Nat.toDigits_of_lt_base hm, ofChars_digitChar hm]

theorem decimal_of_le {m : Nat} (hm : 10 ≤ m) :
    decimal m = decimal (m / 10) ++ [UInt8.ofNat (48 + m % 10)] := by
  rw [decimal, Nat.toDigits_of_base_le (by decide) hm, ofChars_append,
    ofChars_digitChar (Nat.mod_lt m (by decide)), decimal]

theorem induction_on_digits {motive : Nat → Prop} (small : ∀ m < 10, motive m)
    (large : ∀ m, 10 ≤ m → motive (m / 10) → motive m) (m : Nat) : motive m := by
  induction m using Nat.strongRecOn with
  | ind m ih =>
    by_cases hm : m < 10
    · exact small m hm
    · exact large m (Nat.not_lt.mp hm) (ih (m / 10) (by omega))

theorem digit_toNat {d : Nat} (hd : d < 10) : (UInt8.ofNat (48 + d)).toNat = 48 + d := by
  rw [UInt8.toNat_ofNat', Nat.mod_eq_of_lt (by omega)]

theorem byteIsDigit_digit : ∀ d < 10, byteIsDigit (UInt8.ofNat (48 + d)) = true := by
  decide

theorem decimal_isDigit (m : Nat) : ∀ b ∈ decimal m, byteIsDigit b = true := by
  induction m using induction_on_digits with
  | small m hm =>
    intro b hb
    rw [decimal_of_lt hm, List.mem_singleton] at hb
    subst hb
    exact byteIsDigit_digit m hm
  | large m hm ih =>
    intro b hb
    rw [decimal_of_le hm, List.mem_append, List.mem_singleton] at hb
    rcases hb with hb | rfl
    · exact ih b hb
    · exact byteIsDigit_digit _ (Nat.mod_lt m (by decide))

theorem decimal_ne_nil (m : Nat) : decimal m ≠ [] := by
  by_cases hm : m < 10
  · simp [decimal_of_lt hm]
  · simp [decimal_of_le (Nat.not_lt.mp hm)]

theorem decimal_head {m : Nat} (hm : 0 < m) : (decimal m).head? ≠ some 48 := by
  induction m using induction_on_digits with
  | small m hlt =>
    rw [decimal_of_lt hlt, List.head?_cons, ne_eq, Option.some.injEq]
    intro h
    have htoNat := congrArg UInt8.toNat h
    rw [digit_toNat hlt] at htoNat
    have : (48 : UInt8).toNat = 48 := rfl
    omega
  | large m hle ih =>
    obtain ⟨b, bytes, hb⟩ := List.exists_cons_of_ne_nil (decimal_ne_nil (m / 10))
    have hhead := ih (by omega)
    rw [hb] at hhead
    rwa [decimal_of_le hle, hb]

theorem valueOfDigits_decimal (m : Nat) : valueOfDigits (decimal m) = m := by
  induction m using induction_on_digits with
  | small m hm =>
    rw [decimal_of_lt hm, valueOfDigits, List.foldl_cons, List.foldl_nil, digit_toNat hm]
    omega
  | large m hm ih =>
    rw [valueOfDigits] at ih
    rw [decimal_of_le hm, valueOfDigits, List.foldl_append, ih, List.foldl_cons, List.foldl_nil,
      digit_toNat (Nat.mod_lt m (by decide))]
    omega

/-- What may stand after a value: nothing, or a byte that no number goes on with. -/
def Delimited (rest : Bytes) : Prop :=
  ∀ b ∈ rest.head?, b = 44 ∨ b = 93 ∨ b = 125

theorem digits_decimal (m : Nat) (hrest : Delimited rest) :
    digits (decimal m ++ rest) = (decimal m, rest) := by
  have hstop : rest.takeWhile byteIsDigit = [] ∧ rest.dropWhile byteIsDigit = rest := by
    cases rest with
    | nil => exact ⟨rfl, rfl⟩
    | cons b rest =>
      rcases hrest b rfl with rfl | rfl | rfl <;> exact ⟨rfl, rfl⟩
  rw [digits, List.takeWhile_append_of_pos (decimal_isDigit m),
    List.dropWhile_append_of_pos (decimal_isDigit m), hstop.1, hstop.2, List.append_nil]

theorem takeFraction_of_delimited (hrest : Delimited rest) : takeFraction rest = (false, [], rest) := by
  cases rest with
  | nil => rfl
  | cons b rest => rcases hrest b rfl with rfl | rfl | rfl <;> rfl

theorem takeExponent_of_delimited (hrest : Delimited rest) : takeExponent rest = (0, false, []) := by
  cases rest with
  | nil => rfl
  | cons b rest => rcases hrest b rfl with rfl | rfl | rfl <;> rfl

def signBytes (isNegative : Bool) : Bytes :=
  if isNegative then [45] else []

theorem takeSign_decimal (isNegative : Bool) (m : Nat) :
    takeSign (signBytes isNegative ++ (decimal m ++ rest)) = (isNegative, decimal m ++ rest) := by
  cases isNegative with
  | true => rfl
  | false =>
    obtain ⟨b, bytes, hb⟩ := List.exists_cons_of_ne_nil (decimal_ne_nil m)
    have hdigit := decimal_isDigit m b (hb ▸ List.mem_cons_self)
    have hsign : b ≠ 45 := by
      rintro rfl
      cases hdigit
    rw [hb]
    exact takeSign.eq_2 _ fun tail htail ↦ hsign (List.cons.inj htail).1

theorem scanNumber_decimal (isNegative : Bool) (m : Nat) (hrest : Delimited rest) :
    scanNumber (signBytes isNegative ++ (decimal m ++ rest)) =
      some (classify isNegative m, (signBytes isNegative ++ decimal m).length) := by
  have hwhole : !(decimal m).isEmpty && ((decimal m).length == 1 || (decimal m).head? != some 48) := by
    rcases Nat.eq_zero_or_pos m with rfl | hm
    · decide
    · have hhead := decimal_head hm
      simp [decimal_ne_nil, hhead]
  have hsize : (signBytes isNegative).length = isNegative.toNat := by
    cases isNegative <;> rfl
  simp only [scanNumber, takeSign_decimal, digits_decimal m hrest, hwhole,
    takeFraction_of_delimited hrest, takeExponent_of_delimited hrest, valueOfDigits_decimal]
  simp [hsize]

end

end Roster.Json.Token
