import Mathlib.Data.Option.Basic
import Roster.Proofs.Json.Shape
import Roster.Proofs.Token.RoundTrip

namespace Roster

def Claims.Current (c : Claims) (now : Timestamp) : Prop :=
  ∀ e ∈ c.expiry, now.seconds ≤ e

theorem Claims.isExpiredAt_eq_false {c : Claims} {now : Timestamp} :
    c.isExpiredAt now = false ↔ c.Current now := by
  obtain ⟨kind, subject, issuedAt, expiry⟩ := c
  cases expiry <;> simp [isExpiredAt, Current]

instance (c : Claims) (now : Timestamp) : Decidable (c.Current now) :=
  decidable_of_iff _ Claims.isExpiredAt_eq_false

theorem Claims.Current.earlier {c : Claims} {now now' : Timestamp} (h : c.Current now')
    (hle : now.le now' = true) : c.Current now := by
  intro e he
  have hlate := h e he
  simp only [Timestamp.le, Bool.or_eq_true, Bool.and_eq_true, decide_eq_true_eq, beq_iff_eq] at hle
  omega

namespace Signer

open Text

def nameIn? : Json → Option String
  | .text s => some s
  | .object [(s, .null)] => some s
  | _ => none

def algorithm? : Json → Option String
  | .object entries => (entries.lookup "alg").bind nameIn?
  | .array items => (items[1]?).bind nameIn?
  | _ => none

def IsHeader (head : String) : Prop :=
  ∃ bytes, Base64.ofText? .urlSafe head = some bytes ∧
    Json.decodeText headerShape.decode bytes = .ok () ∧
    algorithm? (Json.read bytes).root = some "HS256"

def IsPayload (payload : String) (c : Claims) : Prop :=
  ∃ bytes, Base64.ofText? .urlSafe payload = some bytes ∧
    Json.decodeText Claims.shape.decode bytes = .ok c ∧
    isLegible (Json.read bytes).root = true

/-- A token that says `c`: a header, the claims and the authentication code of both, which has one
spelling. -/
def Sealed (s : Signer) (token : String) (c : Claims) : Prop :=
  ∃ head payload, IsHeader head ∧ IsPayload payload c ∧
    token = head ++ "." ++ payload ++ "." ++
      Base64.text .urlSafe (Sha256.mac s.secret (Bytes.ofText (head ++ "." ++ payload)))

variable {s : Signer} {token head payload sig : String} {c : Claims} {now now' : Timestamp}

theorem nameIn?_of_oneOf {j : Json} {a : Unit}
    (h : Json.Decoder.oneOf [("HS256", ())] j = .ok a) : nameIn? j = some "HS256" := by
  have hlookup {name : String} (h : (List.lookup name [("HS256", ())]).elim
      (.error .wrongShape) .ok = (.ok a : Except Json.Misfit Unit)) : name = "HS256" := by
    by_contra hne
    rw [List.lookup_cons, beq_false_of_ne hne] at h
    cases h
  unfold Json.Decoder.oneOf at h
  split at h
  · rw [nameIn?, hlookup h]
  · rw [nameIn?, hlookup h]
  · cases h

theorem headerShape_needs : headerShape.Needs fun v ↦ ∃ j a,
    v.values.lookup "alg" = some j ∧ Json.Decoder.oneOf [("HS256", ())] j = .ok a :=
  .left (.left (.left (.left (.left (.left (.left (.left (.right (.required _ _)))))))))

theorem headerShape_names : headerShape.fields.map Json.Field.names =
    [["typ"], ["alg"], ["cty"], ["jku"], ["jwk"], ["kid"], ["x5u"], ["x5c"], ["x5t"],
      ["x5t#S256"]] := rfl

theorem headerShape_single : ∀ field ∈ headerShape.fields, ∃ n, field.names = [n] := by
  intro field hfield
  have hmem := List.mem_map_of_mem (f := Json.Field.names) hfield
  rw [headerShape_names] at hmem
  simp only [List.mem_cons, List.not_mem_nil, or_false] at hmem
  rcases hmem with h | h | h | h | h | h | h | h | h | h <;> exact ⟨_, h⟩

theorem algorithm?_of_decode {j : Json} {a : Unit} (h : headerShape.decode j = .ok a) :
    algorithm? j = some "HS256" := by
  unfold Json.Shape.decode at h
  split at h
  · next entries =>
    obtain ⟨values, hread, hbuild⟩ := Json.ok_of_bind h
    obtain ⟨j, a, hj, ha⟩ := headerShape_needs _ _ hbuild
    have hknown : ∃ field ∈ headerShape.fields, field.names = ["alg"] := by
      rw [← List.mem_map, headerShape_names]
      decide
    have hvalues := Json.Shape.lookup_readEntries headerShape_single hknown hread
    rw [List.lookup_nil, Option.none_or] at hvalues
    rw [algorithm?, ← hvalues, hj]
    exact nameIn?_of_oneOf ha
  · next items =>
    obtain ⟨values, hread, hbuild⟩ := Json.ok_of_bind h
    obtain ⟨j, a, hj, ha⟩ := headerShape_needs _ _ hbuild
    have hvalues := Json.Shape.readItems_eq_zip hread
    subst hvalues
    cases items with
    | nil => cases hj
    | cons first rest =>
      cases rest with
      | nil => cases hj
      | cons second rest =>
        cases hj
        exact nameIn?_of_oneOf ha
  · cases h

theorem isHeader_iff : isHeader head.toList = true ↔ IsHeader head := by
  unfold isHeader
  constructor
  · intro h
    split at h
    · next bytes hbytes =>
      cases hdecode : Json.decodeText headerShape.decode bytes with
      | error m =>
        rw [hdecode] at h
        cases h
      | ok a =>
        obtain ⟨a, ha, -⟩ := Json.ok_of_bind hdecode
        exact ⟨bytes, hbytes, hdecode, algorithm?_of_decode ha⟩
    · cases h
  · rintro ⟨bytes, hbytes, hdecode, -⟩
    have hbytes : partBytes? head.toList = some bytes := hbytes
    simp only [hbytes, hdecode]
    rfl

theorem payload?_eq_some_iff : payload? payload.toList = some c ↔ IsPayload payload c := by
  have htoOption {e : Except Json.Misfit Claims} : e.toOption = some c ↔ e = .ok c := by
    cases e <;> simp [Except.toOption]
  unfold payload? IsPayload
  simp only [Option.bind_eq_bind, Option.bind_eq_some_iff, Option.guard_eq_some', htoOption]
  constructor
  · rintro ⟨bytes, hbytes, -, hlegible, hdecode⟩
    exact ⟨bytes, hbytes, hdecode, hlegible⟩
  · rintro ⟨bytes, hbytes, hdecode, hlegible⟩
    exact ⟨bytes, hbytes, (), hlegible, hdecode⟩

theorem open?_eq_some (h : s.open? token = some c) : ∃ head payload : String,
    isHeader head.toList = true ∧ payload? payload.toList = some c ∧
      token = head ++ "." ++ payload ++ "." ++ s.signature (head ++ "." ++ payload) := by
  obtain ⟨⟨message, sig⟩, htoken, h⟩ := Option.bind_eq_some_iff.mp h
  obtain ⟨⟨head, payload⟩, hmessage, h⟩ := Option.bind_eq_some_iff.mp h
  obtain ⟨_, hhead, h⟩ := Option.bind_eq_some_iff.mp h
  obtain ⟨_, hsig, hpayload⟩ := Option.bind_eq_some_iff.mp h
  have hhead := (Option.guard_eq_some' _).mp hhead
  have hsig := eq_of_beq ((Option.guard_eq_some' _).mp hsig)
  obtain ⟨dot, hdot, hmessage, -⟩ := splitLast_eq_some hmessage
  obtain ⟨dot', hdot', htoken, -⟩ := splitLast_eq_some htoken
  cases eq_of_beq hdot
  cases eq_of_beq hdot'
  have hjoin : String.ofList message = String.ofList head ++ "." ++ String.ofList payload := by
    rw [hmessage, ← String.toList_inj]
    simp
  refine ⟨String.ofList head, String.ofList payload, ?_, ?_, ?_⟩
  · rwa [String.toList_ofList]
  · rwa [String.toList_ofList]
  · rw [← hjoin, ← hsig, ← String.toList_inj, htoken]
    simp

theorem open?_eq_some_iff : s.open? token = some c ↔ s.Sealed token c := by
  constructor
  · intro h
    obtain ⟨head, payload, hhead, hpayload, htoken⟩ := open?_eq_some h
    exact ⟨head, payload, isHeader_iff.mp hhead, payload?_eq_some_iff.mp hpayload, htoken⟩
  · rintro ⟨head, payload, hhead, hpayload, rfl⟩
    exact s.open?_of_parts (isHeader_iff.mpr hhead) (payload?_eq_some_iff.mpr hpayload)

theorem verify_of_sealed (h : s.Sealed token c) :
    s.verify token now = if c.Current now then .ok c else .error .expired := by
  rw [verify, open?_eq_some_iff.mpr h]
  simp only [← Claims.isExpiredAt_eq_false, ← Bool.not_eq_true, ite_not]

theorem verify_of_not_sealed (h : ∀ c, ¬ s.Sealed token c) :
    s.verify token now = .error .unsound := by
  have hopen : s.open? token = none :=
    Option.eq_none_iff_forall_ne_some.mpr fun c hc ↦ h c (open?_eq_some_iff.mp hc)
  rw [verify, hopen]

theorem verify_cases (s : Signer) (token : String) (now : Timestamp) :
    (∃ c, s.Sealed token c ∧ c.Current now ∧ s.verify token now = .ok c) ∨
    (∃ c, s.Sealed token c ∧ ¬ c.Current now ∧ s.verify token now = .error .expired) ∨
    ((∀ c, ¬ s.Sealed token c) ∧ s.verify token now = .error .unsound) := by
  by_cases hsealed : ∃ c, s.Sealed token c
  · obtain ⟨c, hc⟩ := hsealed
    by_cases hnow : c.Current now
    · exact .inl ⟨c, hc, hnow, by rw [verify_of_sealed hc, if_pos hnow]⟩
    · exact .inr (.inl ⟨c, hc, hnow, by rw [verify_of_sealed hc, if_neg hnow]⟩)
  · have hnone := not_exists.mp hsealed
    exact .inr (.inr ⟨hnone, verify_of_not_sealed hnone⟩)

theorem verify_eq_ok_iff : s.verify token now = .ok c ↔ s.Sealed token c ∧ c.Current now := by
  constructor
  · intro h
    rcases s.verify_cases token now with ⟨d, hd, hnow, h'⟩ | ⟨d, -, -, h'⟩ | ⟨-, h'⟩ <;>
      rw [h] at h' <;> cases h'
    exact ⟨hd, hnow⟩
  · rintro ⟨hc, hnow⟩
    rw [verify_of_sealed hc, if_pos hnow]

theorem verify_eq_expired_iff :
    s.verify token now = .error .expired ↔ ∃ c, s.Sealed token c ∧ ¬ c.Current now := by
  constructor
  · intro h
    rcases s.verify_cases token now with ⟨d, -, -, h'⟩ | ⟨d, hd, hpast, -⟩ | ⟨-, h'⟩
    · rw [h] at h'
      cases h'
    · exact ⟨d, hd, hpast⟩
    · rw [h] at h'
      cases h'
  · rintro ⟨c, hc, hpast⟩
    rw [verify_of_sealed hc, if_neg hpast]

theorem verify_eq_unsound_iff :
    s.verify token now = .error .unsound ↔ ∀ c, ¬ s.Sealed token c := by
  refine ⟨fun h c hc ↦ ?_, verify_of_not_sealed⟩
  rw [verify_of_sealed hc] at h
  split at h <;> cases h

theorem signature_inj {message message' : String}
    (h : s.signature message = s.signature message') :
    Sha256.mac s.secret (Bytes.ofText message) = Sha256.mac s.secret (Bytes.ofText message') := by
  have hbytes := partBytes?_segment (Sha256.mac s.secret (Bytes.ofText message))
  have hbytes' := partBytes?_segment (Sha256.mac s.secret (Bytes.ofText message'))
  rw [signature, signature] at h
  rw [h, hbytes'] at hbytes
  exact (Option.some.inj hbytes).symm

theorem count_dot_eq_zero_iff {l : List Char} :
    l.count '.' = 0 ↔ ∀ c ∈ l, (c == '.') = false := by
  rw [List.count_eq_zero]
  constructor
  · intro h c hc
    rw [beq_eq_false_iff_ne]
    rintro rfl
    exact h hc
  · intro h hmem
    exact absurd (h '.' hmem) (by decide)

theorem count_dot_join (head payload sig : String) :
    (head ++ "." ++ payload ++ "." ++ sig).toList.count '.' =
      head.toList.count '.' + payload.toList.count '.' + sig.toList.count '.' + 2 := by
  have hdot : ".".toList = ['.'] := rfl
  simp only [String.toList_append, List.count_append, hdot, List.count_singleton_self]
  omega

theorem append_dot_inj {before before' after after' : String}
    (hafter : after.toList.count '.' = 0) (hafter' : after'.toList.count '.' = 0)
    (h : before ++ "." ++ after = before' ++ "." ++ after') :
    before = before' ∧ after = after' := by
  have hsplit := splitLast_dot before (count_dot_eq_zero_iff.mp hafter)
  have hsplit' := splitLast_dot before' (count_dot_eq_zero_iff.mp hafter')
  rw [h, hsplit'] at hsplit
  obtain ⟨hbefore, hafter⟩ := Prod.mk.inj (Option.some.inj hsplit)
  exact ⟨(String.toList_inj.mp hbefore).symm, (String.toList_inj.mp hafter).symm⟩

theorem count_dot_signature (s : Signer) (message : String) :
    (s.signature message).toList.count '.' = 0 :=
  count_dot_eq_zero_iff.mpr (s.signature_avoids_dot message)

theorem IsHeader.count_dot (h : IsHeader head) : head.toList.count '.' = 0 := by
  obtain ⟨bytes, hbytes, -⟩ := h
  exact count_dot_eq_zero_iff.mpr (partBytes?_avoids_dot hbytes)

theorem IsPayload.count_dot (h : IsPayload payload c) : payload.toList.count '.' = 0 :=
  count_dot_eq_zero_iff.mpr (payload?_avoids_dot (payload?_eq_some_iff.mpr h))

theorem Sealed.count_dot (h : s.Sealed token c) : token.toList.count '.' = 2 := by
  obtain ⟨head, payload, hhead, hpayload, rfl⟩ := h
  have hjoin := count_dot_join head payload (s.signature (head ++ "." ++ payload))
  rw [hhead.count_dot, hpayload.count_dot, s.count_dot_signature] at hjoin
  exact hjoin

theorem sealed_join_iff : s.Sealed (head ++ "." ++ payload ++ "." ++ sig) c ↔
    IsHeader head ∧ IsPayload payload c ∧ sig = s.signature (head ++ "." ++ payload) := by
  constructor
  · intro h
    have hcount := h.count_dot
    rw [count_dot_join] at hcount
    obtain ⟨head', payload', hhead, hpayload, htoken⟩ := h
    obtain ⟨hmessage, hsig⟩ := append_dot_inj (by omega)
      (s.count_dot_signature (head' ++ "." ++ payload')) htoken
    obtain ⟨hhead', hpayload'⟩ := append_dot_inj (by omega) hpayload.count_dot hmessage
    subst hhead' hpayload'
    exact ⟨hhead, hpayload, hsig⟩
  · rintro ⟨hhead, hpayload, rfl⟩
    exact ⟨head, payload, hhead, hpayload, rfl⟩

def message (c : Claims) : String :=
  segment (Bytes.ofText header.compact) ++ "." ++ segment (Bytes.ofText c.toJson.compact)

theorem sign_eq (s : Signer) (c : Claims) :
    s.sign c = message c ++ "." ++ s.signature (message c) := rfl

theorem count_dot_sign (s : Signer) (c : Claims) : (s.sign c).toList.count '.' = 2 := by
  have hsegment (bytes : Bytes) := count_dot_eq_zero_iff.mpr (segment_avoids_dot bytes)
  have hjoin := count_dot_join (segment (Bytes.ofText header.compact))
    (segment (Bytes.ofText c.toJson.compact)) (s.signature (message c))
  rw [hsegment, hsegment, s.count_dot_signature] at hjoin
  exact hjoin

/-- A change of one character that leaves the number of dots alone concerns no dot. -/
theorem ne_dot_of_count_set {l : List Char} {i : Nat} {x y : Char} (hy : l[i]? = some y)
    (hne : y ≠ x) (hcount : (l.set i x).count '.' = l.count '.') : y ≠ '.' ∧ x ≠ '.' := by
  obtain ⟨hi, hy⟩ := List.getElem?_eq_some_iff.mp hy
  have hset := List.count_set (a := x) (b := '.') hi
  rw [hcount, hy] at hset
  constructor
  · rintro rfl
    have hpos : 0 < l.count '.' := List.count_pos_iff.mpr (hy ▸ List.getElem_mem hi)
    rw [beq_self_eq_true, beq_false_of_ne hne.symm, if_pos rfl, if_neg Bool.false_ne_true] at hset
    omega
  · rintro rfl
    rw [beq_self_eq_true, beq_false_of_ne hne, if_pos rfl, if_neg Bool.false_ne_true] at hset
    omega

theorem count_dot_replaceAt {text : String} (i : Nat) {x : Char} (hx : x ≠ '.')
    (htext : text.toList.count '.' = 0) : (replaceAt text i x).toList.count '.' = 0 := by
  rw [toList_replaceAt, List.count_eq_zero]
  intro hmem
  rcases List.mem_or_eq_of_mem_set hmem with hmem | rfl
  · exact List.count_eq_zero.mp htext hmem
  · exact hx rfl

/-- A token that ends as a signature does is sealed only with the signature of what comes before. -/
theorem Sealed.signature_eq {text : String} (h : s.Sealed (text ++ "." ++ sig) c)
    (hsig : sig.toList.count '.' = 0) : sig = s.signature text := by
  obtain ⟨head, payload, -, -, htoken⟩ := h
  have hsigned := s.count_dot_signature (head ++ "." ++ payload)
  obtain ⟨rfl, rfl⟩ := append_dot_inj hsig hsigned htoken
  rfl

/-- A token in which one character is replaced is no token, unless the change keeps the
authentication code of what is signed. -/
theorem not_sealed_replaceAt (s : Signer) (c d : Claims) {i : Nat} {x y : Char}
    (hy : (s.sign c).toList[i]? = some y) (hne : y ≠ x)
    (hmac : i < (message c).toList.length → y ≠ '.' →
      Sha256.mac s.secret (Bytes.ofText (replaceAt (message c) i x)) ≠
        Sha256.mac s.secret (Bytes.ofText (message c))) :
    ¬ s.Sealed (replaceAt (s.sign c) i x) d := by
  intro h
  have hcount := h.count_dot
  rw [toList_replaceAt] at hcount
  obtain ⟨hydot, hxdot⟩ := ne_dot_of_count_set hy hne (hcount.trans (s.count_dot_sign c).symm)
  have hsignature := s.count_dot_signature (message c)
  have hlength : (message c ++ ".").toList.length = (message c).toList.length + 1 := by simp
  rw [sign_eq] at h hy
  rcases Nat.lt_trichotomy i (message c).toList.length with hi | rfl | hi
  · -- The signature is still that of the old message.
    rw [replaceAt_append_left _ (by omega), replaceAt_append_left _ hi] at h
    exact hmac hi hydot (signature_inj (h.signature_eq hsignature)).symm
  · have hdot : some '.' = some y := by simpa [List.append_assoc] using hy
    exact hydot (Option.some.inj hdot).symm
  · -- The message is still the old one, which has another signature.
    obtain ⟨j, rfl⟩ : ∃ j, i = (message c ++ ".").toList.length + j :=
      Nat.exists_eq_add_of_le (by omega)
    rw [replaceAt_append_right] at h
    rw [String.toList_append, List.getElem?_append_right (Nat.le_add_right _ _),
      Nat.add_sub_cancel_left] at hy
    exact replaceAt_ne_self hy hne (h.signature_eq (count_dot_replaceAt j hxdot hsignature))

/-- What is verified is exactly what is sealed and current; what is sealed and past is expired, and
all else unsound. So a header and claims have one signature, a token survives no change of a
character, and a token that is sound has been so before. -/
theorem verify_sound (s : Signer) :
    (∀ token now c, s.verify token now = .ok c ↔ s.Sealed token c ∧ c.Current now) ∧
    (∀ token now,
      s.verify token now = .error .expired ↔ ∃ c, s.Sealed token c ∧ ¬ c.Current now) ∧
    (∀ token now, s.verify token now = .error .unsound ↔ ∀ c, ¬ s.Sealed token c) ∧
    (∀ head payload c, IsHeader head → IsPayload payload c → ∀ sig now,
      s.verify (head ++ "." ++ payload ++ "." ++ sig) now ≠ .error .unsound ↔
        sig = s.signature (head ++ "." ++ payload)) ∧
    (∀ kind subject life issuedAt i x y,
      let claims : Claims := ⟨kind, subject, issuedAt.seconds, expiry life issuedAt⟩
      let token := (s.issue kind subject life issuedAt).token
      token.toList[i]? = some y → y ≠ x →
      (i < (message claims).toList.length → y ≠ '.' →
        Sha256.mac s.secret (Bytes.ofText (replaceAt (message claims) i x)) ≠
          Sha256.mac s.secret (Bytes.ofText (message claims))) →
      ∀ now, s.verify (replaceAt token i x) now = .error .unsound) ∧
    (∀ token now now' c, now.le now' = true → s.verify token now' = .ok c →
      s.verify token now = .ok c) := by
  refine ⟨fun _ _ _ ↦ verify_eq_ok_iff, fun _ _ ↦ verify_eq_expired_iff,
    fun _ _ ↦ verify_eq_unsound_iff, ?_, ?_, ?_⟩
  · intro head payload c hhead hpayload sig now
    rw [ne_eq, verify_eq_unsound_iff, Classical.not_forall]
    simp only [not_not]
    constructor
    · rintro ⟨d, hd⟩
      exact (sealed_join_iff.mp hd).2.2
    · intro hsig
      exact ⟨c, sealed_join_iff.mpr ⟨hhead, hpayload, hsig⟩⟩
  · intro kind subject life issuedAt i x y claims token hy hne hmac now
    exact verify_of_not_sealed fun d ↦ s.not_sealed_replaceAt claims d hy hne hmac
  · intro token now now' c hle h
    obtain ⟨hsealed, hcurrent⟩ := verify_eq_ok_iff.mp h
    exact verify_eq_ok_iff.mpr ⟨hsealed, hcurrent.earlier hle⟩

theorem verify_sound_of_first_character :
    let s : Signer := ⟨[115], ⟨3600, 0⟩⟩
    let token := (s.issueUnlimited "u" ⟨0, 0⟩).token
    token.toList[0]? = some 'e' ∧
      ∀ now, s.verify (replaceAt token 0 'A') now = .error .unsound := by
  intro s token
  let claims : Claims := ⟨.user, "u", 0, none⟩
  have hmessage : 0 < (message claims).toList.length ∧ (message claims).toList[0]? = some 'e' := by
    decide +kernel
  have hfirst : token.toList[0]? = some 'e' := by
    have htoken : token = message claims ++ "." ++ s.signature (message claims) := rfl
    rw [htoken, String.toList_append, String.toList_append, List.append_assoc,
      List.getElem?_append_left hmessage.1]
    exact hmessage.2
  obtain ⟨-, -, -, -, hreplace, -⟩ := verify_sound s
  have hmac : Sha256.mac s.secret (Bytes.ofText (replaceAt (message claims) 0 'A')) ≠
      Sha256.mac s.secret (Bytes.ofText (message claims)) := by
    decide +kernel
  exact ⟨hfirst, hreplace .user "u" ⟨0, 0⟩ ⟨0, 0⟩ 0 'A' 'e' hfirst (by decide) fun _ _ ↦ hmac⟩

end Signer

end Roster
