import Roster.Proofs.Encoding.Base64
import Roster.Proofs.Json.ReadBack
import Roster.Proofs.Text.Pieces
import Roster.Token

namespace Roster

def IsInt64 (n : Int) : Prop :=
  Int64.minValue.toInt ≤ n ∧ n ≤ Int64.maxValue.toInt

structure Claims.Fits (c : Claims) : Prop where
  issuedAt : IsInt64 c.issuedAt
  expiry : ∀ e ∈ c.expiry, IsInt64 e

namespace Claims

variable {c : Claims}

theorem isLegible_toJson (c : Claims) : Signer.isLegible c.toJson = true := by
  obtain ⟨kind, subject, issuedAt, expiry⟩ := c
  cases expiry <;> rfl

theorem Fits.isPlain (hc : c.Fits) : c.toJson.isPlain = true := by
  have hint {n : Int} (hn : IsInt64 n) : (Json.int n).isPlain = true := by
    have hsize : Int64.maxValue.toInt < UInt64.size := by decide
    simp only [Json.int, Json.isPlain, Bool.and_eq_true, decide_eq_true_eq]
    exact ⟨hn.1, Int.lt_of_le_of_lt hn.2 hsize⟩
  obtain ⟨kind, subject, issuedAt, expiry⟩ := c
  have hissued := hint hc.issuedAt
  have hexpiry : ∀ e ∈ expiry, (Json.int e).isPlain = true := fun e he ↦ hint (hc.expiry e he)
  cases expiry <;>
    simp [toJson, Json.record, Json.isPlain, Json.arePlainEntries, hissued, hexpiry]

theorem int64_int {n : Int} (hn : IsInt64 n) : Json.Decoder.int64 (.int n) = .ok n := by
  have hbounds : (decide (Int64.minValue.toInt ≤ n) && decide (n ≤ Int64.maxValue.toInt)) = true := by
    rw [Bool.and_eq_true, decide_eq_true_eq, decide_eq_true_eq]
    exact hn
  rw [Json.Decoder.int64, Json.int, Json.Decoder.integer, if_pos hbounds]

theorem nullable_int64_int {n : Int} (hn : IsInt64 n) :
    Json.Decoder.nullable Json.Decoder.int64 (.int n) = .ok (some n) := by
  have hint := int64_int hn
  rw [Json.int] at hint ⊢
  simp only [Json.Decoder.nullable, hint]
  rfl

theorem Fits.decode (hc : c.Fits) : shape.decode c.toJson = .ok c := by
  obtain ⟨kind, subject, issuedAt, expiry⟩ := c
  have hkind : kindDecoder (.text kind.name) = .ok kind := by cases kind <;> rfl
  have hsubject : Json.Decoder.string (.text subject) = .ok subject := rfl
  have hissued : Json.Decoder.int64 (.int issuedAt) = .ok issuedAt := int64_int hc.issuedAt
  have hexpiry : ∀ e ∈ expiry, Json.Decoder.nullable Json.Decoder.int64 (.int e) = .ok (some e) :=
    fun e he ↦ nullable_int64_int (hc.expiry e he)
  -- The fields are looked up in the entries one by one; no two have the same name.
  cases expiry <;>
    simp [shape, toJson, Json.record, Json.Shape.decode, Json.Shape.readEntries, Json.Shape.required,
      Json.Shape.optionalAtEnd, Json.Shape.defaulted, Json.Shape.aliased, Functor.map, Seq.seq,
      List.lookup_cons, List.lookup_nil, bind, Except.bind, Except.map, pure, Except.pure, hkind,
      hsubject, hissued, hexpiry]

end Claims

namespace Signer

open Text

theorem partBytes?_segment (bytes : Bytes) : partBytes? (segment bytes).toList = some bytes := by
  rw [partBytes?, segment, Base64.text, String.toList_ofList]
  exact Base64.decode?_encode Base64.urlSafe_isSound (fun h ↦ absurd h Bool.false_ne_true) bytes

theorem segment_avoids_dot (bytes : Bytes) : ∀ c ∈ (segment bytes).toList, (c == '.') = false := by
  intro c hc
  rw [segment, Base64.text, String.toList_ofList] at hc
  rw [beq_eq_false_iff_ne]
  rintro rfl
  exact Base64.encode_avoids rfl Base64.urlSafe_digit_ne_dot bytes hc

theorem isHeader_header : isHeader (segment (Bytes.ofText header.compact)).toList = true := by
  have hplain : header.isPlain = true := by decide
  rw [isHeader, partBytes?_segment]
  dsimp only
  rw [Json.decodeText, Json.read_compact hplain]
  decide

theorem payload?_segment {c : Claims} (hc : c.Fits) :
    payload? (segment (Bytes.ofText c.toJson.compact)).toList = some c := by
  have hread := Json.read_compact hc.isPlain
  have hdecode : Json.decodeText Claims.shape.decode (Bytes.ofText c.toJson.compact) = .ok c := by
    rw [Json.decodeText, hread, hc.decode]
    rfl
  rw [payload?, partBytes?_segment]
  simp [hread, hdecode, c.isLegible_toJson, Except.toOption]

theorem splitLast_dot (before : String) {after : String}
    (hafter : ∀ c ∈ after.toList, (c == '.') = false) :
    splitLast (· == '.') (before ++ "." ++ after).toList = some (before.toList, after.toList) := by
  rw [String.toList_append, String.toList_append, List.append_assoc]
  exact splitLast_append (p := (· == '.')) rfl before.toList hafter

theorem partBytes?_avoids_dot {part : List Char} {bytes : Bytes} (h : partBytes? part = some bytes) :
    ∀ c ∈ part, (c == '.') = false := by
  intro c hc
  rw [beq_eq_false_iff_ne]
  rintro rfl
  exact Base64.decode?_avoids rfl (by decide) h hc

theorem payload?_avoids_dot {part : List Char} {c : Claims} (h : payload? part = some c) :
    ∀ d ∈ part, (d == '.') = false := by
  obtain ⟨bytes, hbytes, -⟩ := Option.bind_eq_some_iff.mp h
  exact partBytes?_avoids_dot hbytes

theorem signature_avoids_dot (s : Signer) (message : String) :
    ∀ c ∈ (s.signature message).toList, (c == '.') = false :=
  segment_avoids_dot _

/-- A token is opened whose header names the algorithm and whose signature is that of its parts. -/
theorem open?_of_parts (s : Signer) {head payload : String} {c : Claims}
    (hhead : isHeader head.toList = true) (hpayload : payload? payload.toList = some c) :
    s.open? (head ++ "." ++ payload ++ "." ++ s.signature (head ++ "." ++ payload)) = some c := by
  have htoken := splitLast_dot (head ++ "." ++ payload)
    (s.signature_avoids_dot (head ++ "." ++ payload))
  have hparts := splitLast_dot head (payload?_avoids_dot hpayload)
  simp only [open?, htoken, hparts, Option.bind_eq_bind, Option.bind_some, hhead, hpayload,
    String.ofList_toList, beq_self_eq_true]
  rfl

/-- What has been signed is opened with the same secret, whatever the subject is. -/
theorem open?_sign (s : Signer) {c : Claims} (hc : c.Fits) : s.open? (s.sign c) = some c :=
  s.open?_of_parts isHeader_header (payload?_segment hc)

end Signer

end Roster
