import Roster.Json.Decoder

namespace Roster.Json

variable {α β ε : Type}

theorem ok_of_bind {x : Except ε α} {f : α → Except ε β} {b : β} (h : x >>= f = .ok b) :
    ∃ a, x = .ok a ∧ f a = .ok b := by
  cases x with
  | error e => cases h
  | ok a => exact ⟨a, rfl, h⟩

def Shape.Builds (s : Shape α) (P : α → Prop) : Prop :=
  ∀ v a, s.build v = .ok a → P a

namespace Shape.Builds

variable {P : α → Prop} {Q : β → Prop}

theorem any (s : Shape α) : s.Builds fun _ ↦ True :=
  fun _ _ _ ↦ trivial

theorem map {s : Shape α} {f : α → β} (hs : s.Builds P) (hf : ∀ a, P a → Q (f a)) :
    (f <$> s).Builds Q := by
  intro v b h
  have h : (s.build v).map f = .ok b := h
  cases ha : s.build v with
  | error e =>
    rw [ha] at h
    cases h
  | ok a =>
    rw [ha] at h
    cases h
    exact hf a (hs v a ha)

theorem seq {s : Shape (α → β)} {s' : Shape α} (hs : s.Builds fun f ↦ ∀ a, Q (f a)) :
    (s <*> s').Builds Q := by
  intro v b h
  obtain ⟨f, hf, h⟩ := ok_of_bind h
  obtain ⟨a, -, h⟩ := ok_of_bind h
  cases h
  exact hs v f hf a

theorem decode {s : Shape α} (hs : s.Builds P) {j : Json} {a : α} (h : s.decode j = .ok a) :
    P a := by
  unfold Shape.decode at h
  split at h
  · obtain ⟨v, -, h⟩ := ok_of_bind h
    exact hs _ a h
  · obtain ⟨v, -, h⟩ := ok_of_bind h
    exact hs _ a h
  · cases h

theorem decodeText {s : Shape α} (hs : s.Builds P) {bytes : Bytes} {a : α}
    (h : decodeText s.decode bytes = .ok a) : P a := by
  obtain ⟨b, hb, h⟩ := ok_of_bind h
  split at h
  · cases h
  · cases h
    exact hs.decode hb

end Shape.Builds

def Shape.Needs (s : Shape α) (P : Fields → Prop) : Prop :=
  ∀ v a, s.build v = .ok a → P v

namespace Shape.Needs

variable {P : Fields → Prop}

theorem left {s : Shape (α → β)} {s' : Shape α} (hs : s.Needs P) : (s <*> s').Needs P := by
  intro v b h
  obtain ⟨f, hf, -⟩ := ok_of_bind h
  exact hs v f hf

theorem right {s : Shape (α → β)} {s' : Shape α} (hs : s'.Needs P) : (s <*> s').Needs P := by
  intro v b h
  obtain ⟨f, -, h⟩ := ok_of_bind h
  obtain ⟨a, ha, -⟩ := ok_of_bind h
  exact hs v a ha

theorem required (name : String) (d : Decoder α) :
    (Shape.required name d).Needs fun v ↦ ∃ j a, v.values.lookup name = some j ∧ d j = .ok a := by
  intro v a h
  have h : (v.values.lookup name).elim (.error .wrongShape) d = .ok a := h
  cases hj : v.values.lookup name with
  | none =>
    rw [hj] at h
    cases h
  | some j =>
    rw [hj] at h
    exact ⟨j, a, rfl, h⟩

end Shape.Needs

namespace Shape

variable {fields : List Field} {name : String}

/-- Of the entries of an object, each known name keeps the value it was given first. -/
theorem lookup_readEntries (hnames : ∀ field ∈ fields, ∃ n, field.names = [n])
    (hname : ∃ field ∈ fields, field.names = [name]) {seen entries values : List (String × Json)}
    (h : readEntries fields seen entries = .ok values) :
    values.lookup name = (seen.lookup name).or (entries.lookup name) := by
  induction entries generalizing seen with
  | nil =>
    cases h
    rw [List.lookup_nil, Option.or_none]
  | cons e rest ih =>
    obtain ⟨key, j⟩ := e
    rw [readEntries] at h
    cases hfind : fields.find? (·.names.contains key) with
    | some field =>
      rw [hfind] at h
      obtain ⟨n, hn⟩ := hnames field (List.mem_of_find?_eq_some hfind)
      have hkey : n = key := by
        have hcontains := List.find?_some (p := fun f : Field ↦ f.names.contains key) hfind
        simpa [hn, eq_comm] using hcontains
      subst hkey
      simp only [hn, List.headD_cons] at h
      split at h
      · cases h
      · next hseen =>
        have hseen : seen.lookup n = none := Option.not_isSome_iff_eq_none.mp hseen
        obtain ⟨-, -, h⟩ := ok_of_bind h
        rw [ih h, List.lookup_cons, List.lookup_cons]
        by_cases heq : name = n
        · subst heq
          simp [hseen]
        · simp [beq_false_of_ne heq]
    | none =>
      rw [hfind] at h
      have hkey : name ≠ key := by
        rintro rfl
        obtain ⟨field, hfield, hn⟩ := hname
        have hnot := List.find?_eq_none.mp hfind field hfield
        simp [hn] at hnot
      dsimp only at h
      split at h
      · cases h
      · rw [ih h, List.lookup_cons, beq_false_of_ne hkey]

theorem readItems_eq_zip {items : List Json} {values : List (String × Json)}
    (h : readItems fields items = .ok values) :
    values = (fields.map fun field ↦ field.names.headD "").zip items := by
  induction fields generalizing items values with
  | nil =>
    cases items with
    | nil =>
      cases h
      rfl
    | cons j rest => cases h
  | cons field fields ih =>
    cases items with
    | nil =>
      rw [readItems] at h
      split at h
      · rw [ih h, List.zip_nil_right, List.zip_nil_right]
      · cases h
    | cons j rest =>
      obtain ⟨-, -, h⟩ := ok_of_bind h
      obtain ⟨others, hrest, h⟩ := ok_of_bind h
      cases h
      rw [List.map_cons, List.zip_cons_cons, ih hrest]

end Shape

end Roster.Json
