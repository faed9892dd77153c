import Roster.Encoding.Base64
import Roster.Proofs.Text.Pieces

namespace Roster.Base64

def Form.IsSound (f : Form) : Prop :=
  ∀ n < 64, f.value? (f.digit n) = some n

theorem urlSafe_isSound : Form.urlSafe.IsSound := by
  unfold Form.IsSound
  decide

theorem standard_isSound : Form.standard.IsSound := by
  unfold Form.IsSound
  decide

theorem standard_digit_ne_padding : ∀ n < 64, Form.standard.digit n ≠ '=' := by
  decide

theorem urlSafe_digit_ne_dot : ∀ n < 64, Form.urlSafe.digit n ≠ '.' := by
  decide

def sextets : Bytes → List Nat
  | [] => []
  | [a] =>
    let n := a.toNat * 16
    [n / 64, n % 64]
  | [a, b] =>
    let n := (a.toNat * 256 + b.toNat) * 4
    [n / 4096, n / 64 % 64, n % 64]
  | a :: b :: c :: rest =>
    let n := (a.toNat * 256 + b.toNat) * 256 + c.toNat
    n / 262144 :: n / 4096 % 64 :: n / 64 % 64 :: n % 64 :: sextets rest

theorem sextets_lt (bytes : Bytes) : ∀ n ∈ sextets bytes, n < 64 := by
  fun_induction sextets bytes with
  | case1 => simp
  | case2 a n =>
    have ha := a.toNat_lt
    simp only [List.forall_mem_cons]
    refine ⟨?_, ?_, by simp⟩ <;> omega
  | case3 a b n =>
    have ha := a.toNat_lt
    have hb := b.toNat_lt
    simp only [List.forall_mem_cons]
    refine ⟨?_, ?_, ?_, by simp⟩ <;> omega
  | case4 a b c rest n ih =>
    have ha := a.toNat_lt
    have hb := b.toNat_lt
    have hc := c.toNat_lt
    simp only [List.forall_mem_cons]
    refine ⟨?_, ?_, ?_, ?_, ih⟩ <;> omega

variable {f : Form}

def missing (length : Nat) : Nat :=
  (4 - length % 4) % 4

theorem encode_eq_append (f : Form) (bytes : Bytes) : encode f bytes =
    (sextets bytes).map f.digit ++ f.padding (missing (sextets bytes).length) := by
  fun_induction sextets bytes with
  | case1 => simp [encode, Form.padding, missing]
  | case2 a n => rfl
  | case3 a b n => rfl
  | case4 a b c rest n ih =>
    have hlength (k : Nat) : missing (k + 4) = missing k := by
      rw [missing, Nat.add_mod_right, missing]
    rw [encode, ih]
    simp only [List.length_cons, Nat.add_assoc, Nat.reduceAdd, hlength]
    rfl

theorem forall_mem_encode {P : Char → Prop} (hP : ∀ n < 64, P (f.digit n))
    (hpadding : f.isPadded = true → P '=') (bytes : Bytes) : ∀ c ∈ encode f bytes, P c := by
  rw [encode_eq_append, List.forall_mem_append, List.forall_mem_map]
  refine ⟨fun n hn ↦ hP n (sextets_lt bytes n hn), fun c hc ↦ ?_⟩
  rw [Form.padding] at hc
  split at hc
  · next hpadded =>
    rw [List.eq_of_mem_replicate hc]
    exact hpadding hpadded
  · cases hc

theorem encode_avoids (hf : f.isPadded = false) {c : Char} (hc : ∀ n < 64, f.digit n ≠ c)
    (bytes : Bytes) : c ∉ encode f bytes := by
  have hunpadded : f.isPadded = true → '=' ≠ c := fun h ↦ absurd (hf.symm.trans h) Bool.false_ne_true
  intro h
  exact forall_mem_encode (P := (· ≠ c)) hc hunpadded bytes c h rfl

theorem mapM_value? (hf : f.IsSound) {ns : List Nat} (hns : ∀ n ∈ ns, n < 64) :
    (ns.map f.digit).mapM f.value? = some ns := by
  induction ns with
  | nil => rfl
  | cons n ns ih =>
    obtain ⟨hn, hns⟩ := List.forall_mem_cons.mp hns
    rw [List.map_cons, List.mapM_cons, hf n hn, ih hns]
    rfl

theorem group?_sextets_one (a : UInt8) : group? (sextets [a]) = some [a] := by
  have ha := a.toNat_lt
  have hn : a.toNat * 16 / 64 * 64 + a.toNat * 16 % 64 = a.toNat * 16 := by omega
  simp only [sextets, group?, hn]
  rw [if_pos (by omega), Nat.mul_div_cancel _ (by decide), UInt8.ofNat_toNat]

theorem group?_sextets_two (a b : UInt8) : group? (sextets [a, b]) = some [a, b] := by
  have ha := a.toNat_lt
  have hb := b.toNat_lt
  simp only [sextets]
  generalize hn : (a.toNat * 256 + b.toNat) * 4 = n
  have hall : (n / 4096 * 64 + n / 64 % 64) * 64 + n % 64 = n := by omega
  have hfirst : n / 1024 = a.toNat := by omega
  have hsecond : n / 4 % 256 = b.toNat := by omega
  simp only [group?, hall]
  rw [if_pos (by omega), hfirst, hsecond, UInt8.ofNat_toNat, UInt8.ofNat_toNat]

theorem group?_sextets_three (a b c : UInt8) : group? (sextets [a, b, c]) = some [a, b, c] := by
  have ha := a.toNat_lt
  have hb := b.toNat_lt
  have hc := c.toNat_lt
  simp only [sextets]
  generalize hn : (a.toNat * 256 + b.toNat) * 256 + c.toNat = n
  have hall : ((n / 262144 * 64 + n / 4096 % 64) * 64 + n / 64 % 64) * 64 + n % 64 = n := by omega
  have hfirst : n / 65536 = a.toNat := by omega
  have hsecond : n / 256 % 256 = b.toNat := by omega
  have hthird : n % 256 = c.toNat := by omega
  simp only [group?, hall]
  rw [hfirst, hsecond, hthird, UInt8.ofNat_toNat, UInt8.ofNat_toNat, UInt8.ofNat_toNat]

theorem digits?_sextets (hf : f.IsSound) (bytes : Bytes) :
    digits? f ((sextets bytes).map f.digit) = some bytes := by
  fun_induction sextets bytes with
  | case1 => rfl
  | case2 a n =>
    have hvalues : [f.digit (n / 64), f.digit (n % 64)].mapM f.value? = some (sextets [a]) :=
      mapM_value? hf (sextets_lt [a])
    simp only [List.map_cons, List.map_nil, digits?, hvalues]
    exact group?_sextets_one a
  | case3 a b n =>
    have hvalues : [f.digit (n / 4096), f.digit (n / 64 % 64), f.digit (n % 64)].mapM f.value? =
        some (sextets [a, b]) := mapM_value? hf (sextets_lt [a, b])
    simp only [List.map_cons, List.map_nil, digits?, hvalues]
    exact group?_sextets_two a b
  | case4 a b c rest n ih =>
    have hvalues : [f.digit (n / 262144), f.digit (n / 4096 % 64), f.digit (n / 64 % 64),
        f.digit (n % 64)].mapM f.value? = some (sextets [a, b, c]) :=
      mapM_value? hf (sextets_lt [a, b, c])
    simp only [List.map_cons, digits?, hvalues, Option.bind_eq_bind, Option.bind_some,
      group?_sextets_three, ih]
    rfl

theorem dropPadding_append {digits : List Char} (hdigits : ∀ c ∈ digits, (c == '=') = false)
    (n : Nat) :
    ((digits ++ List.replicate n '=').reverse.dropWhile (· == '=')).reverse = digits := by
  have hpadding : ∀ c ∈ List.replicate n '=', (c == '=') = true := by
    intro c hc
    rw [List.eq_of_mem_replicate hc]
    rfl
  rw [List.reverse_append, List.reverse_replicate, List.dropWhile_append_of_pos hpadding,
    Text.dropWhile_eq_self, List.reverse_reverse]
  exact fun c hc ↦ hdigits c (List.mem_reverse.mp (List.mem_of_mem_head? hc))

theorem decode?_encode (hf : f.IsSound) (hpadding : f.isPadded = true → ∀ n < 64, f.digit n ≠ '=')
    (bytes : Bytes) : decode? f (encode f bytes) = some bytes := by
  rw [encode_eq_append, decode?, Form.padding]
  cases hpadded : f.isPadded with
  | false =>
    simp only [Bool.false_eq_true, if_false, List.append_nil, Bool.false_and]
    exact digits?_sextets hf bytes
  | true =>
    have hdigits : ∀ c ∈ (sextets bytes).map f.digit, (c == '=') = false := by
      intro c hc
      obtain ⟨n, hn, rfl⟩ := List.mem_map.mp hc
      exact beq_false_of_ne (hpadding hpadded n (sextets_lt bytes n hn))
    simp only [if_true, dropPadding_append hdigits, List.length_map, missing, bne_self_eq_false,
      Bool.and_false, Bool.false_eq_true, if_false]
    exact digits?_sextets hf bytes

theorem value?_of_mapM {cs : List Char} {ns : List Nat} (h : cs.mapM f.value? = some ns) :
    ∀ c ∈ cs, (f.value? c).isSome = true := by
  induction cs generalizing ns with
  | nil => simp
  | cons c cs ih =>
    rw [List.mapM_cons] at h
    obtain ⟨n, hc, h⟩ := Option.bind_eq_some_iff.mp h
    obtain ⟨ns, hcs, -⟩ := Option.bind_eq_some_iff.mp h
    exact List.forall_mem_cons.mpr ⟨Option.isSome_of_eq_some hc, ih hcs⟩

theorem value?_of_digits? {cs : List Char} {bytes : Bytes} (h : digits? f cs = some bytes) :
    ∀ c ∈ cs, (f.value? c).isSome = true := by
  fun_induction digits? f cs generalizing bytes with
  | case1 => simp
  | case2 a b c d rest ih =>
    obtain ⟨ns, hns, h⟩ := Option.bind_eq_some_iff.mp h
    obtain ⟨first, -, h⟩ := Option.bind_eq_some_iff.mp h
    obtain ⟨others, hrest, -⟩ := Option.bind_eq_some_iff.mp h
    intro x hx
    rcases List.mem_append.mp (show x ∈ [a, b, c, d] ++ rest from hx) with hx | hx
    · exact value?_of_mapM hns x hx
    · exact ih hrest x hx
  | case3 =>
    obtain ⟨ns, hns, -⟩ := Option.bind_eq_some_iff.mp h
    exact value?_of_mapM hns

theorem decode?_avoids (hf : f.isPadded = false) {c : Char} (hc : f.value? c = none)
    {cs : List Char} {bytes : Bytes} (h : decode? f cs = some bytes) : c ∉ cs := by
  intro hmem
  simp only [decode?, hf, Bool.false_and, Bool.false_eq_true, if_false] at h
  have hsome := value?_of_digits? h c hmem
  rw [hc] at hsome
  cases hsome

section Canonical

theorem Form.digit_of_value? {c : Char} {n : Nat} (h : f.value? c = some n) :
    n < 64 ∧ f.digit n = c := by
  have hrange {lo hi : Char} (hc : lo ≤ c ∧ c ≤ hi) : lo.toNat ≤ c.toNat ∧ c.toNat ≤ hi.toNat :=
    ⟨UInt32.le_iff_toNat_le.mp hc.1, UInt32.le_iff_toNat_le.mp hc.2⟩
  unfold value? at h
  split at h
  · next hc =>
    cases h
    obtain ⟨hlo, hhi⟩ : 65 ≤ c.toNat ∧ c.toNat ≤ 90 := hrange hc
    refine ⟨by omega, ?_⟩
    rw [digit, if_pos (by omega), Nat.sub_add_cancel hlo, Char.ofNat_toNat]
  split at h
  · next hc =>
    cases h
    obtain ⟨hlo, hhi⟩ : 97 ≤ c.toNat ∧ c.toNat ≤ 122 := hrange hc
    refine ⟨by omega, ?_⟩
    rw [digit, if_neg (by omega), if_pos (by omega), Nat.sub_add_cancel (by omega),
      Char.ofNat_toNat]
  split at h
  · next hc =>
    cases h
    obtain ⟨hlo, hhi⟩ : 48 ≤ c.toNat ∧ c.toNat ≤ 57 := hrange hc
    refine ⟨by omega, ?_⟩
    rw [digit, if_neg (by omega), if_neg (by omega), if_pos (by omega), Nat.add_sub_cancel,
      Char.ofNat_toNat]
  split at h
  · next hc =>
    cases h
    exact ⟨by decide, hc.symm⟩
  split at h
  · next hc =>
    cases h
    exact ⟨by decide, hc.symm⟩
  · cases h

theorem eq_map_digit_of_mapM {cs : List Char} {ns : List Nat} (h : cs.mapM f.value? = some ns) :
    (∀ n ∈ ns, n < 64) ∧ cs = ns.map f.digit := by
  induction cs generalizing ns with
  | nil =>
    cases h
    exact ⟨by simp, rfl⟩
  | cons c cs ih =>
    rw [List.mapM_cons] at h
    obtain ⟨n, hc, h⟩ := Option.bind_eq_some_iff.mp h
    obtain ⟨ns, hcs, h⟩ := Option.bind_eq_some_iff.mp h
    cases h
    obtain ⟨hn, hdigit⟩ := Form.digit_of_value? hc
    obtain ⟨hns, hdigits⟩ := ih hcs
    exact ⟨List.forall_mem_cons.mpr ⟨hn, hns⟩, by rw [List.map_cons, hdigit, ← hdigits]⟩

theorem sextets_of_group? {ns : List Nat} {bytes : Bytes} (hns : ∀ n ∈ ns, n < 64)
    (h : group? ns = some bytes) : sextets bytes = ns := by
  unfold group? at h
  split at h
  · next a b =>
    simp only [List.forall_mem_cons] at hns
    dsimp only at h
    split at h
    · cases h
      simp only [sextets, UInt8.toNat_ofNat', List.cons.injEq, and_true]
      omega
    · cases h
  · next a b c =>
    simp only [List.forall_mem_cons] at hns
    dsimp only at h
    split at h
    · cases h
      simp only [sextets, UInt8.toNat_ofNat', List.cons.injEq, and_true]
      omega
    · cases h
  · next a b c d =>
    simp only [List.forall_mem_cons] at hns
    cases h
    simp only [sextets, UInt8.toNat_ofNat', List.cons.injEq, and_true]
    omega
  · cases h

theorem eq_of_digits? {cs : List Char} {bytes : Bytes} (h : digits? f cs = some bytes) :
    cs = (sextets bytes).map f.digit := by
  fun_induction digits? f cs generalizing bytes with
  | case1 =>
    cases h
    rfl
  | case2 a b c d rest ih =>
    obtain ⟨ns, hns, h⟩ := Option.bind_eq_some_iff.mp h
    obtain ⟨first, hfirst, h⟩ := Option.bind_eq_some_iff.mp h
    obtain ⟨others, hothers, h⟩ := Option.bind_eq_some_iff.mp h
    cases h
    obtain ⟨hlt, hdigits⟩ := eq_map_digit_of_mapM hns
    -- Four numbers make three bytes, so the sextets of the others follow.
    obtain ⟨x, y, z, hbytes⟩ : ∃ x y z, first = [x, y, z] := by
      have hlength : ns.length = 4 := by simpa using (congrArg List.length hdigits).symm
      obtain ⟨p, q, r, s, rfl⟩ : ∃ p q r s, ns = [p, q, r, s] := by
        match ns, hlength with
        | [p, q, r, s], _ => exact ⟨p, q, r, s, rfl⟩
      cases hfirst
      exact ⟨_, _, _, rfl⟩
    have hsextets : sextets (first ++ others) = ns ++ sextets others := by
      rw [← sextets_of_group? hlt hfirst, hbytes]
      rfl
    rw [hsextets, List.map_append, ← hdigits, ← ih hothers]
    rfl
  | case3 last =>
    obtain ⟨ns, hns, h⟩ := Option.bind_eq_some_iff.mp h
    obtain ⟨hlt, hdigits⟩ := eq_map_digit_of_mapM hns
    rw [sextets_of_group? hlt h]
    exact hdigits

theorem eq_encode_of_decode? {cs : List Char} {bytes : Bytes} (h : decode? f cs = some bytes) :
    cs = encode f bytes := by
  rw [encode_eq_append, Form.padding]
  cases hpadded : f.isPadded with
  | false =>
    simp only [decode?, hpadded, Bool.false_and, Bool.false_eq_true, if_false] at h
    rw [if_neg Bool.false_ne_true, List.append_nil]
    exact eq_of_digits? h
  | true =>
    simp only [decode?, hpadded, Bool.true_and, if_true] at h
    split at h
    · cases h
    · next hcs =>
      have hdigits := eq_of_digits? h
      have hlength := congrArg List.length hdigits
      rw [List.length_map] at hlength
      rw [if_pos rfl, ← hdigits, missing, ← hlength]
      exact (of_not_not (mt bne_iff_ne.mpr hcs)).symm

theorem decode?_eq_some_iff (hf : f.IsSound)
    (hpadding : f.isPadded = true → ∀ n < 64, f.digit n ≠ '=') {cs : List Char} {bytes : Bytes} :
    decode? f cs = some bytes ↔ cs = encode f bytes := by
  refine ⟨eq_encode_of_decode?, ?_⟩
  rintro rfl
  exact decode?_encode hf hpadding bytes

example : text .standard [0x66, 0x6F, 0x6F, 0x62] = "Zm9vYg==" ∧
    ofText? .standard "Zm9vYh==" = none ∧ ofText? .standard "Zm9vYg=" = none := by
  decide

end Canonical

end Roster.Base64
