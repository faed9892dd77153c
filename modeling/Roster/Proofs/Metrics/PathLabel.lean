import Mathlib.Computability.Language
import Roster.Metrics.PathLabel
import Roster.Proofs.Encoding.Bytes

namespace Roster.Metrics

variable {L M : Language Char} {f g : List Char → Option (List Char)}
variable {cs out out' rest u : List Char} {c : Char}

def digits (n : ℕ) : Language Char :=
  {u | u.length = n ∧ ∀ c ∈ u, Hex.isLower c = true}

def hyphen : Language Char :=
  {['-']}

/-- Lower-case identifiers, `[0-9a-f]{8}-[0-9a-f]{4}-[0-9a-f]{4}-[0-9a-f]{4}-[0-9a-f]{12}`. -/
def uuid : Language Char :=
  digits 8 * (hyphen * (digits 4 * (hyphen * (digits 4 * (hyphen * (digits 4 * (hyphen * digits 12)))))))

theorem mem_digits {n : ℕ} : u ∈ digits n ↔ u.length = n ∧ ∀ c ∈ u, Hex.isLower c = true := Iff.rfl

theorem mem_hyphen : u ∈ hyphen ↔ u = ['-'] := Iff.rfl

def Drops (L : Language Char) (f : List Char → Option (List Char)) : Prop :=
  ∀ cs rest, f cs = some rest ↔ ∃ u ∈ L, cs = u ++ rest

theorem Drops.bind (hf : Drops L f) (hg : Drops M g) : Drops (L * M) fun cs ↦ f cs >>= g := by
  intro cs rest
  simp only [Option.bind_eq_bind, Option.bind_eq_some_iff, hf cs, hg _ rest, Language.mem_mul]
  constructor
  · rintro ⟨_, ⟨u, hu, rfl⟩, w, hw, rfl⟩
    exact ⟨u ++ w, ⟨u, hu, w, hw, rfl⟩, by simp⟩
  · rintro ⟨_, ⟨u, hu, w, hw, rfl⟩, rfl⟩
    exact ⟨w ++ rest, ⟨u, hu, by simp⟩, w, hw, rfl⟩

theorem drops_hex (n : ℕ) : Drops (digits n) (dropHex? n) := by
  induction n with
  | zero =>
    intro cs rest
    simp only [dropHex?, Option.some.injEq, mem_digits, List.length_eq_zero_iff]
    constructor
    · intro h
      exact ⟨[], by simp, h⟩
    · rintro ⟨u, ⟨rfl, -⟩, rfl⟩
      rfl
  | succ n ih =>
    intro cs rest
    cases cs with
    | nil =>
      simp only [dropHex?, reduceCtorEq, false_iff, mem_digits]
      rintro ⟨u, ⟨hlength, -⟩, heq⟩
      rw [(List.append_eq_nil_iff.mp heq.symm).1] at hlength
      simp at hlength
    | cons c cs =>
      simp only [dropHex?]
      constructor
      · intro h
        split at h
        · next hc =>
          obtain ⟨u, ⟨hlength, hu⟩, rfl⟩ := (ih cs rest).mp h
          refine ⟨c :: u, ⟨by simp [hlength], ?_⟩, rfl⟩
          exact List.forall_mem_cons.mpr ⟨hc, hu⟩
        · cases h
      · rintro ⟨u, ⟨hlength, hu⟩, heq⟩
        obtain ⟨d, u, rfl⟩ := List.exists_cons_of_length_eq_add_one hlength
        obtain ⟨rfl, rfl⟩ := List.cons_eq_cons.mp heq
        obtain ⟨hc, hu⟩ := List.forall_mem_cons.mp hu
        rw [if_pos hc]
        exact (ih _ rest).mpr ⟨u, ⟨by simpa using hlength, hu⟩, rfl⟩

theorem drops_hyphen : Drops hyphen dropHyphen? := by
  intro cs rest
  simp only [mem_hyphen, exists_eq_left, List.singleton_append]
  unfold dropHyphen?
  split
  · simp
  · next h =>
    simp only [reduceCtorEq, false_iff]
    exact h rest

theorem drops_uuid : Drops uuid dropUuid? :=
  (drops_hex 8).bind (drops_hyphen.bind ((drops_hex 4).bind (drops_hyphen.bind ((drops_hex 4).bind
    (drops_hyphen.bind ((drops_hex 4).bind (drops_hyphen.bind (drops_hex 12))))))))

theorem dropUuid?_isSome_iff : (dropUuid? cs).isSome = true ↔ ∃ u ∈ uuid, u <+: cs := by
  simp only [Option.isSome_iff_exists, drops_uuid cs]
  constructor
  · rintro ⟨rest, u, hu, rfl⟩
    exact ⟨u, hu, List.prefix_append u rest⟩
  · rintro ⟨u, hu, rest, rfl⟩
    exact ⟨rest, u, hu, rfl⟩

def Spells (n : ℕ) (L : Language Char) : Prop :=
  ∀ u ∈ L, u.length = n ∧ ∀ c ∈ u, Hex.isLower c = true ∨ c = '-'

theorem Spells.mul {n m : ℕ} (hL : Spells n L) (hM : Spells m M) : Spells (n + m) (L * M) := by
  intro w hw
  obtain ⟨u, hu, v, hv, rfl⟩ := Language.mem_mul.mp hw
  obtain ⟨hlength, hchars⟩ := hL u hu
  obtain ⟨hlength', hchars'⟩ := hM v hv
  rw [List.length_append, hlength, hlength']
  exact ⟨rfl, List.forall_mem_append.mpr ⟨hchars, hchars'⟩⟩

theorem spells_digits (n : ℕ) : Spells n (digits n) :=
  fun _ hu ↦ ⟨hu.1, fun c hc ↦ .inl (hu.2 c hc)⟩

theorem spells_hyphen : Spells 1 hyphen := by
  rintro u rfl
  simp

theorem spells_uuid : Spells uuidLength uuid :=
  (spells_digits 8).mul (spells_hyphen.mul ((spells_digits 4).mul (spells_hyphen.mul
    ((spells_digits 4).mul (spells_hyphen.mul ((spells_digits 4).mul (spells_hyphen.mul
      (spells_digits 12))))))))

theorem brace_not_mem_uuid (hu : u ∈ uuid) : '\x7b' ∉ u ∧ '\x7d' ∉ u := by
  have hchars := (spells_uuid u hu).2
  constructor
  · intro h
    exact absurd (hchars _ h) (by decide)
  · intro h
    exact absurd (hchars _ h) (by decide)

/-- The text with identifiers replaced, from left to right: one that starts here is replaced as a
whole, and a character at which none starts stays. -/
inductive Replaced : List Char → List Char → Prop
  | nil : Replaced [] []
  | identifier {u rest out : List Char} (hu : u ∈ uuid) :
      Replaced rest out → Replaced (u ++ rest) ("\x7bid\x7d".toList ++ out)
  | character {c : Char} {rest out : List Char} (hc : ∀ u ∈ uuid, ¬ u <+: c :: rest) :
      Replaced rest out → Replaced (c :: rest) (c :: out)

theorem replaceUuids_skip (n : ℕ) (cs : List Char) :
    replaceUuids n cs = replaceUuids 0 (cs.drop n) := by
  induction n generalizing cs with
  | zero => rfl
  | succ n ih =>
    cases cs with
    | nil => simp [replaceUuids]
    | cons c cs => rw [replaceUuids, ih, List.drop_succ_cons]

theorem replaceUuids_of_uuid (hu : u ∈ uuid) (rest : List Char) :
    replaceUuids 0 (u ++ rest) = "\x7bid\x7d".toList ++ replaceUuids 0 rest := by
  have hlength := (spells_uuid u hu).1
  have hfound : (dropUuid? (u ++ rest)).isSome = true :=
    dropUuid?_isSome_iff.mpr ⟨u, hu, List.prefix_append u rest⟩
  cases u with
  | nil => simp [uuidLength] at hlength
  | cons c u =>
    have htail : u.length = uuidLength - 1 := by
      rw [← hlength, List.length_cons, Nat.add_sub_cancel]
    rw [List.cons_append] at hfound ⊢
    rw [replaceUuids, if_pos hfound, replaceUuids_skip, ← htail, List.drop_left]

theorem replaceUuids_of_not (hc : ∀ u ∈ uuid, ¬ u <+: c :: rest) :
    replaceUuids 0 (c :: rest) = c :: replaceUuids 0 rest := by
  rw [replaceUuids, if_neg]
  intro hfound
  obtain ⟨u, hu, hstart⟩ := dropUuid?_isSome_iff.mp hfound
  exact hc u hu hstart

theorem Replaced.eq (h : Replaced cs out) : out = replaceUuids 0 cs := by
  induction h with
  | nil => rfl
  | identifier hu _ ih => rw [replaceUuids_of_uuid hu, ih]
  | character hc _ ih => rw [replaceUuids_of_not hc, ih]

theorem replaced_replaceUuids (cs : List Char) : Replaced cs (replaceUuids 0 cs) := by
  induction hn : cs.length using Nat.strong_induction_on generalizing cs with
  | _ n ih =>
    cases cs with
    | nil => exact .nil
    | cons c cs =>
      by_cases hfound : ∃ u ∈ uuid, u <+: c :: cs
      · obtain ⟨u, hu, rest, hrest⟩ := hfound
        have hlength : rest.length < n := by
          have hsum := congrArg List.length hrest
          rw [List.length_append, (spells_uuid u hu).1, hn, uuidLength] at hsum
          omega
        rw [← hrest, replaceUuids_of_uuid hu]
        exact .identifier hu (ih _ hlength rest rfl)
      · have hc : ∀ u ∈ uuid, ¬ u <+: c :: cs := by
          intro u hu hstart
          exact hfound ⟨u, hu, hstart⟩
        have hlength : cs.length < n := by
          rw [← hn, List.length_cons]
          omega
        rw [replaceUuids_of_not hc]
        exact .character hc (ih _ hlength cs rfl)

theorem replaced_iff : Replaced cs out ↔ out = replaceUuids 0 cs := by
  constructor
  · exact Replaced.eq
  · rintro rfl
    exact replaced_replaceUuids cs

/-- What has no brace and starts a replaced text starts the text before as well. -/
theorem Replaced.prefix_of (h : Replaced cs out) (hu : '\x7b' ∉ u) (hstart : u <+: out) :
    u <+: cs := by
  induction h generalizing u with
  | nil => exact hstart
  | identifier _ _ _ =>
    cases u with
    | nil => exact List.nil_prefix
    | cons c u =>
      obtain rfl := (List.cons_prefix_cons.mp hstart).1
      exact absurd List.mem_cons_self hu
  | character _ _ ih =>
    cases u with
    | nil => exact List.nil_prefix
    | cons c u =>
      obtain ⟨rfl, htail⟩ := List.cons_prefix_cons.mp hstart
      have hrest := ih (fun hmem ↦ hu (List.mem_cons_of_mem c hmem)) htail
      exact List.cons_prefix_cons.mpr ⟨rfl, hrest⟩

theorem prefix_of_not_mem (before : List Char) {after : List Char} (hc : c ∉ u)
    (h : u <+: before ++ c :: after) : u <+: before := by
  have hconcat : before ++ [c] <+: before ++ c :: after := ⟨after, by simp⟩
  obtain hshort | hlong := List.prefix_or_prefix_of_prefix h hconcat
  · obtain rfl | hbefore := List.prefix_concat_iff.mp hshort
    · exact absurd (by simp) hc
    · exact hbefore
  · exact absurd (hlong.subset (by simp)) hc

theorem infix_of_not_mem (before : List Char) {after : List Char} (hc : c ∉ u)
    (h : u <:+: before ++ c :: after) : u <:+: before ∨ u <:+: after := by
  induction before with
  | nil =>
    obtain hstart | hafter := List.infix_cons_iff.mp h
    · exact .inl (prefix_of_not_mem [] hc hstart).isInfix
    · exact .inr hafter
  | cons d before ih =>
    obtain hstart | hrest := List.infix_cons_iff.mp h
    · exact .inl (prefix_of_not_mem (d :: before) hc hstart).isInfix
    · exact (ih hrest).imp_left fun hbefore ↦ List.infix_cons hbefore

theorem Replaced.not_isInfix (h : Replaced cs out) (hu : u ∈ uuid) : ¬ u <:+: out := by
  have hlength : u.length = 36 := (spells_uuid u hu).1
  obtain ⟨hopening, hclosing⟩ := brace_not_mem_uuid hu
  induction h with
  | nil =>
    intro hinfix
    have hle := hinfix.length_le
    simp only [List.length_nil] at hle
    omega
  | @identifier v rest out _ _ ih =>
    intro hinfix
    obtain hbefore | hafter := infix_of_not_mem [] hopening hinfix
    · have hle := hbefore.length_le
      simp only [List.length_nil] at hle
      omega
    · obtain hbetween | hrest := infix_of_not_mem ['i', 'd'] hclosing hafter
      · have hle := hbetween.length_le
        simp only [List.length_cons, List.length_nil] at hle
        omega
      · exact ih hrest
  | character hc hrest ih =>
    intro hinfix
    obtain hstart | hout := List.infix_cons_iff.mp hinfix
    · exact hc u hu ((hrest.character hc).prefix_of hopening hstart)
    · exact ih hout

theorem replaced_self (h : ∀ u ∈ uuid, ¬ u <:+: cs) : Replaced cs cs := by
  induction cs with
  | nil => exact .nil
  | cons c cs ih =>
    apply Replaced.character
    · intro u hu hstart
      exact h u hu hstart.isInfix
    · apply ih
      intro u hu hinfix
      exact h u hu (List.infix_cons hinfix)

theorem takeBytes_isPrefix (bound : ℕ) (cs : List Char) : takeBytes bound cs <+: cs := by
  induction cs generalizing bound with
  | nil => simp [takeBytes]
  | cons c cs ih =>
    simp only [takeBytes]
    split
    · exact List.cons_prefix_cons.mpr ⟨rfl, ih _⟩
    · exact List.nil_prefix

theorem utf8ByteSize_takeBytes (bound : ℕ) (cs : List Char) :
    (String.ofList (takeBytes bound cs)).utf8ByteSize ≤ bound := by
  induction cs generalizing bound with
  | nil => simp [takeBytes]
  | cons c cs ih =>
    simp only [takeBytes]
    split
    · have hrest := ih (bound - c.utf8Size)
      rw [Bytes.utf8ByteSize_cons]
      omega
    · simp

theorem prefix_takeBytes {bound : ℕ} (hu : u <+: cs)
    (hfits : (String.ofList u).utf8ByteSize ≤ bound) : u <+: takeBytes bound cs := by
  induction cs generalizing bound u with
  | nil => simpa [takeBytes] using hu
  | cons c cs ih =>
    cases u with
    | nil => exact List.nil_prefix
    | cons d u =>
      obtain ⟨rfl, htail⟩ := List.cons_prefix_cons.mp hu
      rw [Bytes.utf8ByteSize_cons] at hfits
      rw [takeBytes, if_pos (by omega)]
      exact List.cons_prefix_cons.mpr ⟨rfl, ih htail (by omega)⟩

theorem takeBytes_eq_self {bound : ℕ} (hfits : (String.ofList cs).utf8ByteSize ≤ bound) :
    takeBytes bound cs = cs := by
  have hall := prefix_takeBytes (List.prefix_refl cs) hfits
  exact (takeBytes_isPrefix bound cs).eq_of_length_le hall.length_le

theorem le_utf8ByteSize_takeBytes {bound i : ℕ} (hi : i ≤ bound)
    (hvalid : (String.Pos.Raw.mk i).IsValid (String.ofList cs)) :
    i ≤ (String.ofList (takeBytes bound cs)).utf8ByteSize := by
  obtain ⟨start, rest, hsplit, hstart⟩ := String.Pos.Raw.isValid_iff_exists_append.mp hvalid
  have hsize : start.utf8ByteSize = i := (congrArg String.Pos.Raw.byteIdx hstart).symm
  have hbegins : start.toList <+: cs := by
    refine ⟨rest.toList, ?_⟩
    rw [← String.toList_append, ← hsplit, String.toList_ofList]
  have hfits : (String.ofList start.toList).utf8ByteSize ≤ bound := by
    rw [String.ofList_toList, hsize]
    exact hi
  obtain ⟨more, hmore⟩ := prefix_takeBytes hbegins hfits
  rw [← hmore, String.ofList_append, String.ofList_toList, String.utf8ByteSize_append, hsize]
  exact Nat.le_add_right i _

theorem toList_pathLabel (path : String) :
    (pathLabel path).toList = takeBytes 50 (replaceUuids 0 path.toList) :=
  String.toList_ofList

theorem pathLabel_isPrefix (path : String) :
    (pathLabel path).toList <+: replaceUuids 0 path.toList := by
  rw [toList_pathLabel]
  exact takeBytes_isPrefix 50 _

theorem pathLabel_not_isInfix (path : String) (hu : u ∈ uuid) : ¬ u <:+: (pathLabel path).toList := by
  intro hinfix
  apply (replaced_replaceUuids path.toList).not_isInfix hu
  exact hinfix.trans (pathLabel_isPrefix path).isInfix

theorem pathLabel_eq_self {s : String} (hnone : ∀ u ∈ uuid, ¬ u <:+: s.toList)
    (hfits : s.utf8ByteSize ≤ 50) : pathLabel s = s := by
  have hfits' : (String.ofList s.toList).utf8ByteSize ≤ maxLabel := by
    rw [String.ofList_toList]
    exact hfits
  rw [pathLabel, ← (replaced_self hnone).eq, takeBytes_eq_self hfits', String.ofList_toList]

/-- A label is what the path is with its identifiers replaced, cut at the last place between two
characters within 50 bytes. No identifier is in it, and it is its own label. -/
theorem pathLabel_bounded_and_stable (path : String) :
    ∃ replaced : String, (∀ out, Replaced path.toList out ↔ out = replaced.toList) ∧
      (∃ rest, replaced = pathLabel path ++ rest) ∧
      (pathLabel path).utf8ByteSize ≤ 50 ∧
      (∀ i ≤ 50, (String.Pos.Raw.mk i).IsValid replaced → i ≤ (pathLabel path).utf8ByteSize) ∧
      (∀ u ∈ uuid, ¬ u <:+: (pathLabel path).toList) ∧
      pathLabel (pathLabel path) = pathLabel path := by
  have hsize : (pathLabel path).utf8ByteSize ≤ 50 := utf8ByteSize_takeBytes 50 _
  have hnone : ∀ u ∈ uuid, ¬ u <:+: (pathLabel path).toList :=
    fun _ hu ↦ pathLabel_not_isInfix path hu
  refine ⟨String.ofList (replaceUuids 0 path.toList), ?_, ?_, hsize, ?_, hnone, ?_⟩
  · intro out
    rw [replaced_iff, String.toList_ofList]
  · obtain ⟨rest, hrest⟩ := pathLabel_isPrefix path
    refine ⟨String.ofList rest, ?_⟩
    rw [← hrest, String.ofList_append, String.ofList_toList]
  · intro i hi hvalid
    exact le_utf8ByteSize_takeBytes hi hvalid
  · exact pathLabel_eq_self hnone hsize

end Roster.Metrics
