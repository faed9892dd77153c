import Roster.Proofs.Token.Soundness

namespace Roster

def Timestamp.Dated (t : Timestamp) : Prop :=
  firstSecond ≤ t.seconds ∧ t.seconds ≤ lastSecond

namespace Signer

variable {s : Signer} {kind : TokenKind} {subject : String} {n : Nat} {now t : Timestamp}

theorem wrap_of_isInt64 (hn : IsInt64 n) : wrap n = n := by
  obtain ⟨-, hhigh⟩ := hn
  rw [Int64.toInt_maxValue] at hhigh
  unfold wrap
  rw [Int.bmod_eq_of_le_mul_two] <;> simp only [UInt64.size] <;> omega

theorem wrap_of_not_isInt64 (hn : ¬ IsInt64 n) (hsize : n < UInt64.size) :
    wrap n = n - UInt64.size := by
  have hhigh : Int64.maxValue.toInt < n := by
    rw [IsInt64, not_and, Int.not_le] at hn
    exact hn (Int.le_trans (by decide) (Int.natCast_nonneg n))
  rw [Int64.toInt_maxValue] at hhigh
  have hmod : (n : Int) % UInt64.size = n :=
    Int.emod_eq_of_lt (Int.natCast_nonneg n) (Int.ofNat_lt.mpr hsize)
  unfold wrap
  rw [Int.bmod_def, hmod, if_neg]
  simp only [UInt64.size]
  omega

theorem saturate_lt_iff {m e : Int} (hlow : Int64.minValue.toInt < m)
    (hhigh : m ≤ Int64.maxValue.toInt) : saturate e < m ↔ e < m := by
  unfold saturate
  omega

theorem isInt64_saturate (n : Int) : IsInt64 (saturate n) := by
  have hbounds : Int64.minValue.toInt ≤ Int64.maxValue.toInt := by decide
  unfold IsInt64 saturate
  omega

theorem seconds_bounds (ht : t.Dated) :
    Int64.minValue.toInt < t.seconds ∧ t.seconds ≤ Int64.maxValue.toInt := by
  obtain ⟨hlow, hhigh⟩ := ht
  have hfirst : Int64.minValue.toInt < Timestamp.firstSecond := by decide
  have hlast : Timestamp.lastSecond ≤ Int64.maxValue.toInt := by decide
  exact ⟨Int.lt_of_lt_of_le hfirst hlow, Int.le_trans hhigh hlast⟩

theorem issue_fits (hnow : now.Dated) (life : Duration) :
    Claims.Fits ⟨kind, subject, now.seconds, expiry life now⟩ where
  issuedAt := ⟨Int.le_of_lt (seconds_bounds hnow).1, (seconds_bounds hnow).2⟩
  expiry := by
    intro e he
    unfold expiry at he
    split at he
    · cases he
    · cases he
      exact isInt64_saturate _

/-- A token that is issued is opened to its claims, so only their expiry counts. -/
theorem verify_issue (s : Signer) (hnow : now.Dated) (life : Duration) (t : Timestamp) :
    let claims : Claims := ⟨kind, subject, now.seconds, expiry life now⟩
    s.verify (s.issue kind subject life now).token t =
      if claims.isExpiredAt t then .error .expired else .ok claims := by
  intro claims
  have hopen : s.open? (s.issue kind subject life now).token = some claims :=
    s.open?_sign (issue_fits hnow life)
  rw [verify, hopen]

theorem expiry_eq_none_iff {life : Duration} :
    expiry life now = none ↔ life.seconds = 0 ∧ life.nanos = 0 := by
  unfold expiry Duration.isZero
  simp only [Bool.and_eq_true, beq_iff_eq]
  split
  · next hzero => exact iff_of_true rfl hzero
  · next hlife => exact iff_of_false (by simp) hlife

structure RoundTrips (s : Signer) (issued : IssuedToken) (c : Claims) : Prop where
  payload : ∃ head bytes sig, (Json.read bytes).root = c.toJson ∧
    issued.token = head ++ "." ++ Base64.text .urlSafe bytes ++ "." ++ sig
  expiresAt : issued.expiresAt = c.expiresAt
  current : ∀ t, c.Current t → s.verify issued.token t = .ok c
  past : ∀ t, ¬ c.Current t → s.verify issued.token t = .error .expired

theorem sign_roundTrips (s : Signer) {c : Claims} (hc : c.Fits) :
    s.RoundTrips ⟨s.sign c, c.expiresAt⟩ c := by
  have hsealed : s.Sealed (s.sign c) c := open?_eq_some_iff.mp (s.open?_sign hc)
  refine ⟨⟨segment (Bytes.ofText header.compact), Bytes.ofText c.toJson.compact,
    s.signature (message c), ?_, rfl⟩, rfl, fun t ht ↦ ?_, fun t ht ↦ ?_⟩
  · rw [Json.read_compact hc.isPlain]
  · rw [verify_of_sealed hsealed, if_pos ht]
  · rw [verify_of_sealed hsealed, if_neg ht]

/-- Whatever the subject, the time and the life: what is signed is what is verified. -/
theorem issue_round_trip (s : Signer) (kind : TokenKind) (subject : String) (life : Duration)
    (hnow : now.Dated) :
    s.RoundTrips (s.issue kind subject life now)
      ⟨kind, subject, now.seconds, expiry life now⟩ ∧
    (expiry life now = none ↔ life.seconds = 0 ∧ life.nanos = 0) ∧
    s.RoundTrips (s.issueSession subject now)
      ⟨.session, subject, now.seconds, expiry s.sessionLife now⟩ ∧
    s.RoundTrips (s.issueUnlimited subject now) ⟨.user, subject, now.seconds, none⟩ :=
  ⟨s.sign_roundTrips (issue_fits hnow life), expiry_eq_none_iff,
    s.sign_roundTrips (issue_fits hnow s.sessionLife), s.sign_roundTrips (issue_fits hnow ⟨0, 0⟩)⟩

theorem issue_round_trip_of_escapes :
    let s : Signer := ⟨[115], ⟨0, 500000000⟩⟩
    let now : Timestamp := ⟨Timestamp.firstSecond, 0⟩
    let subject := "\"\\\n\x01é"
    now.Dated ∧
      s.RoundTrips (s.issueSession subject now)
        ⟨.session, subject, Timestamp.firstSecond, some (Timestamp.firstSecond + 1)⟩ := by
  intro s now subject
  have hnow : now.Dated := by
    constructor <;> decide
  have hexpiry : expiry s.sessionLife now = some (Timestamp.firstSecond + 1) := by decide
  obtain ⟨-, -, hsession, -⟩ := issue_round_trip s .session subject ⟨0, 0⟩ hnow
  rw [hexpiry] at hsession
  exact ⟨hnow, hsession⟩

theorem expiry_ofSeconds (n : Nat) (now : Timestamp) : expiry (.ofSeconds n) now =
    if n = 0 then none else some (saturate (now.seconds + wrap n)) := by
  unfold expiry Duration.isZero Duration.ofSeconds
  rcases Nat.eq_zero_or_pos n with rfl | hpos
  · rfl
  · have hmax : max n 1 = n := Nat.max_eq_left hpos
    have hne : n ≠ 0 := Nat.pos_iff_ne_zero.mp hpos
    simp [hmax, hne]

theorem verify_issue_ofSeconds (s : Signer) (kind : TokenKind) (subject : String)
    (hnow : now.Dated) (hn : 0 < n) (ht : t.Dated) :
    s.verify (s.issue kind subject (.ofSeconds n) now).token t =
      if now.seconds + wrap n < t.seconds then .error .expired
      else .ok ⟨kind, subject, now.seconds, some (saturate (now.seconds + wrap n))⟩ := by
  have hexpiry : expiry (.ofSeconds n) now = some (saturate (now.seconds + wrap n)) := by
    rw [expiry_ofSeconds, if_neg (Nat.pos_iff_ne_zero.mp hn)]
  obtain ⟨hlow, hhigh⟩ := seconds_bounds ht
  rw [verify_issue s hnow, hexpiry]
  simp only [Claims.isExpiredAt, saturate_lt_iff hlow hhigh, decide_eq_true_eq]

/-- A token of so many seconds is sound from its issue to its end, and expired from then on. One of
none is sound for ever. -/
structure Lasts (s : Signer) (kind : TokenKind) (subject : String) (n : Nat) (now : Timestamp) :
    Prop where
  unlimited : n = 0 → ∀ t : Timestamp,
    s.verify (s.issue kind subject (.ofSeconds n) now).token t =
      .ok ⟨kind, subject, now.seconds, none⟩
  sound : 0 < n → ∀ t : Timestamp, t.Dated → now.seconds ≤ t.seconds → t.seconds ≤ now.seconds + n →
    ∃ e, s.verify (s.issue kind subject (.ofSeconds n) now).token t =
      .ok ⟨kind, subject, now.seconds, some e⟩
  expired : 0 < n → ∀ t : Timestamp, t.Dated → now.seconds + n < t.seconds →
    s.verify (s.issue kind subject (.ofSeconds n) now).token t = .error .expired

theorem issue_lasts (s : Signer) (kind : TokenKind) (subject : String) (hnow : now.Dated)
    (hsize : n < UInt64.size) :
    (IsInt64 n → s.Lasts kind subject n now) ∧
    (¬ IsInt64 n → ∀ t : Timestamp, t.Dated → now.seconds ≤ t.seconds →
      s.verify (s.issue kind subject (.ofSeconds n) now).token t = .error .expired) := by
  constructor
  · intro hn
    have hwrap := wrap_of_isInt64 hn
    refine ⟨?_, fun hpos t ht hbegin hend ↦ ?_, fun hpos t ht hpast ↦ ?_⟩
    · rintro rfl t
      exact verify_issue s hnow _ t
    · rw [verify_issue_ofSeconds s kind subject hnow hpos ht, hwrap, if_neg (Int.not_lt.mpr hend)]
      exact ⟨_, rfl⟩
    · rw [verify_issue_ofSeconds s kind subject hnow hpos ht, hwrap, if_pos hpast]
  · intro hn t ht hbegin
    have hpos : 0 < n := by
      refine Nat.pos_of_ne_zero ?_
      rintro rfl
      exact hn (by constructor <;> decide)
    have hwrap := wrap_of_not_isInt64 hn hsize
    rw [verify_issue_ofSeconds s kind subject hnow hpos ht, hwrap, if_pos (by omega)]

theorem issue_lasts_an_hour :
    let s : Signer := ⟨[115], ⟨3600, 0⟩⟩
    let now : Timestamp := ⟨1700000000, 0⟩
    now.Dated ∧ 3600 < UInt64.size ∧ s.Lasts .session "u" 3600 now := by
  intro s now
  have hnow : now.Dated := by
    constructor <;> decide
  obtain ⟨hlasts, -⟩ := issue_lasts s .session "u" hnow (n := 3600) (by decide)
  exact ⟨hnow, by decide, hlasts (by constructor <;> decide)⟩

theorem issue_expired_at_once :
    let s : Signer := ⟨[115], ⟨3600, 0⟩⟩
    let now : Timestamp := ⟨1700000000, 0⟩
    s.verify (s.issue .session "u" (.ofSeconds (1 <<< 63)) now).token now = .error .expired := by
  intro s now
  have hnow : now.Dated := by
    constructor <;> decide
  rw [verify_issue_ofSeconds s .session "u" hnow (by decide) hnow]
  exact if_pos (by decide)

end Signer

end Roster
