import Roster.Proofs.Token.Lifetime

namespace Roster

theorem Timestamp.ofSeconds?_eq_some_iff {n : Int} {t : Timestamp} :
    ofSeconds? n = some t ↔ t = ⟨n, 0⟩ ∧ t.Dated := by
  unfold ofSeconds? Dated
  simp only [Bool.and_eq_true, decide_eq_true_eq, Option.ite_none_right_eq_some, Option.some.injEq]
  constructor
  · rintro ⟨hdated, rfl⟩
    exact ⟨rfl, hdated⟩
  · rintro ⟨rfl, hdated⟩
    exact ⟨hdated, rfl⟩

theorem Timestamp.ofSeconds?_eq_none_iff {n : Int} :
    ofSeconds? n = none ↔ n < firstSecond ∨ lastSecond < n := by
  rw [Option.eq_none_iff_forall_ne_some]
  simp only [ne_eq, ofSeconds?_eq_some_iff, Dated, not_and, forall_eq]
  omega

namespace Signer

variable {s : Signer} {kind : TokenKind} {subject : String} {now : Timestamp}

theorem ofSeconds?_saturate (n : Int) :
    Timestamp.ofSeconds? (saturate n) = Timestamp.ofSeconds? n := by
  have hfirst : Int64.minValue.toInt < Timestamp.firstSecond := by decide
  have hlast : Timestamp.lastSecond < Int64.maxValue.toInt := by decide
  have hbounds : Timestamp.firstSecond ≤ Timestamp.lastSecond := by decide
  cases hn : Timestamp.ofSeconds? n with
  | none =>
    rw [Timestamp.ofSeconds?_eq_none_iff] at hn ⊢
    unfold saturate
    omega
  | some t =>
    obtain ⟨rfl, hdated⟩ := Timestamp.ofSeconds?_eq_some_iff.mp hn
    have hsame : saturate n = n := by
      obtain ⟨hlow, hhigh⟩ := hdated
      dsimp only at hlow hhigh
      unfold saturate
      omega
    rw [hsame, hn]

/-- No time that clocks show is past an expiry after the end of the calendar. -/
theorem le_saturate {t : Timestamp} (ht : t.Dated) {n : Int} (hn : Timestamp.lastSecond < n) :
    t.seconds ≤ saturate n := by
  obtain ⟨-, hlast⟩ := seconds_bounds ht
  have hend := ht.2
  unfold saturate
  omega

theorem expiry_eq_some {life : Duration} (hlife : ¬ (life.seconds = 0 ∧ life.nanos = 0))
    (now : Timestamp) :
    expiry life now = some (saturate (now.seconds + wrap (max life.seconds 1))) := by
  rw [expiry, if_neg]
  simpa [Duration.isZero] using hlife

theorem expiresAt_issue (s : Signer) (kind : TokenKind) (subject : String) (life : Duration)
    (now : Timestamp) :
    (s.issue kind subject life now).expiresAt = (expiry life now).bind Timestamp.ofSeconds? := rfl

theorem expiresAt_issue_of_life (s : Signer) (kind : TokenKind) (subject : String) {life : Duration}
    (hlife : ¬ (life.seconds = 0 ∧ life.nanos = 0)) (now : Timestamp) :
    (s.issue kind subject life now).expiresAt =
      Timestamp.ofSeconds? (now.seconds + wrap (max life.seconds 1)) := by
  rw [expiresAt_issue, expiry_eq_some hlife, Option.bind_some, ofSeconds?_saturate]

theorem wrap_max_one {n : Nat} (hn : IsInt64 n) : wrap (max n 1) = (max n 1 : Nat) := by
  apply wrap_of_isInt64
  obtain ⟨-, hhigh⟩ := hn
  have hbounds : Int64.minValue.toInt ≤ 1 ∧ 1 ≤ Int64.maxValue.toInt := by decide
  constructor <;> omega

/-- A life in signed 64-bit seconds ends at a date unless the calendar ends before. -/
theorem expiresAt_eq_none_iff_of_isInt64 (s : Signer) (kind : TokenKind) (subject : String)
    {life : Duration} (hnow : now.Dated) (hlife : IsInt64 life.seconds) :
    (s.issue kind subject life now).expiresAt = none ↔
      expiry life now = none ∨ Timestamp.lastSecond < now.seconds + (max life.seconds 1 : Nat) := by
  by_cases hzero : life.seconds = 0 ∧ life.nanos = 0
  · have hnone : expiry life now = none := expiry_eq_none_iff.mpr hzero
    rw [expiresAt_issue, hnone]
    exact iff_of_true rfl (.inl rfl)
  · have hfirst := hnow.1
    rw [expiresAt_issue_of_life s kind subject hzero, wrap_max_one hlife,
      Timestamp.ofSeconds?_eq_none_iff, expiry_eq_none_iff, or_iff_right hzero]
    exact or_iff_right (by omega)

theorem expiresAt_eq_none_iff_of_not_isInt64 (s : Signer) (kind : TokenKind) (subject : String)
    {life : Duration} (hnow : now.Dated) (hsize : life.seconds < UInt64.size)
    (hlife : ¬ IsInt64 life.seconds) :
    (s.issue kind subject life now).expiresAt = none ↔
      now.seconds + life.seconds < Timestamp.firstSecond + UInt64.size := by
  have hpos : 0 < life.seconds := by
    refine Nat.pos_of_ne_zero fun hzero ↦ hlife ?_
    rw [hzero]
    constructor <;> decide
  have hmax : max life.seconds 1 = life.seconds := Nat.max_eq_left hpos
  have hlast := hnow.2
  rw [expiresAt_issue_of_life s kind subject (fun hzero ↦ hpos.ne' hzero.1), hmax,
    wrap_of_not_isInt64 hlife hsize, Timestamp.ofSeconds?_eq_none_iff]
  omega

/-- A token carries no expiry if and only if its life is zero, and whatever expiry is shown is the one
that is verified. None is shown of a token without an expiry, nor of one that ends where the calendar
has no dates. If the life is a signed number of 64 bits, this is after every time that clocks show. -/
theorem expiry_shown_if_dated (s : Signer) (kind : TokenKind) (subject : String) (life : Duration)
    (hnow : now.Dated) (hsize : life.seconds < UInt64.size) :
    let issued := s.issue kind subject life now
    ∃ c : Claims, s.RoundTrips issued c ∧
      (c.expiry = none ↔ life.seconds = 0 ∧ life.nanos = 0) ∧
      (∀ t, issued.expiresAt = some t → c.expiry = some t.seconds ∧ t.nanos = 0) ∧
      (IsInt64 life.seconds →
        (issued.expiresAt = none ↔ c.expiry = none ∨
          Timestamp.lastSecond < now.seconds + (max life.seconds 1 : Nat)) ∧
        (issued.expiresAt = none → ∀ t : Timestamp, t.Dated → c.Current t)) ∧
      (¬ IsInt64 life.seconds → (issued.expiresAt = none ↔
        now.seconds + life.seconds < Timestamp.firstSecond + UInt64.size)) := by
  intro issued
  refine ⟨⟨kind, subject, now.seconds, expiry life now⟩, s.sign_roundTrips (issue_fits hnow life),
    expiry_eq_none_iff, fun t ht ↦ ?_, fun hlife ↦ ?_,
    s.expiresAt_eq_none_iff_of_not_isInt64 kind subject hnow hsize⟩
  · obtain ⟨e, he, hdate⟩ := Option.bind_eq_some_iff.mp ht
    obtain ⟨rfl, -⟩ := Timestamp.ofSeconds?_eq_some_iff.mp hdate
    exact ⟨he, rfl⟩
  · have hnone := s.expiresAt_eq_none_iff_of_isInt64 kind subject hnow hlife
    refine ⟨hnone, fun habsent t ht e he ↦ ?_⟩
    rcases hnone.mp habsent with hexpiry | hbeyond
    · cases hexpiry.symm.trans he
    · have hzero : ¬ (life.seconds = 0 ∧ life.nanos = 0) := by
        intro hzero
        cases (expiry_eq_none_iff.mpr hzero).symm.trans he
      have hexpiry := (expiry_eq_some hzero now).symm.trans he
      rw [wrap_max_one hlife] at hexpiry
      rw [← Option.some.inj hexpiry]
      exact le_saturate ht hbeyond

theorem expiry_shown_if_dated_of_hour :
    let s : Signer := ⟨[115], ⟨3600, 0⟩⟩
    let now : Timestamp := ⟨1700000000, 500⟩
    let issued := s.issue .session "u" (.ofSeconds 3600) now
    now.Dated ∧ (Duration.ofSeconds 3600).seconds < UInt64.size ∧
      issued.expiresAt = some ⟨1700003600, 0⟩ ∧
      ∃ c, s.RoundTrips issued c ∧ c.expiry = some 1700003600 := by
  intro s now issued
  have hnow : now.Dated := by
    constructor <;> decide
  have hsize : (Duration.ofSeconds 3600).seconds < UInt64.size := by decide
  have hshown : issued.expiresAt = some ⟨1700003600, 0⟩ := by
    rw [expiresAt_issue]
    decide
  obtain ⟨c, hround, -, hinstant, -, -⟩ := expiry_shown_if_dated s .session "u" _ hnow hsize
  exact ⟨hnow, hsize, hshown, c, hround, (hinstant _ hshown).1⟩

theorem expiry_not_shown_after_calendar :
    let s : Signer := ⟨[115], ⟨3600, 0⟩⟩
    let now : Timestamp := ⟨1700000000, 0⟩
    let life : Duration := .ofSeconds 10000000000000
    let issued := s.issue .session "u" life now
    life.isZero = false ∧ issued.expiresAt = none ∧
      s.verify issued.token now = .ok ⟨.session, "u", 1700000000, some 10001700000000⟩ := by
  intro s now life issued
  have hnow : now.Dated := by
    constructor <;> decide
  have hexpiry : expiry life now = some 10001700000000 := by decide
  refine ⟨by decide, ?_, ?_⟩
  · rw [expiresAt_issue, hexpiry]
    decide
  · rw [verify_issue s hnow, hexpiry]
    exact if_neg (by decide)

end Signer

end Roster
