import Mathlib.Data.List.Nodup
import Roster.Proofs.Sql.Keeping

namespace Roster

namespace Sql

section Lists

variable {α β ι : Type} [DecidableEq ι] {records : List α} {id : α → ι} {f : α → β} {a : α} {i : ι}

theorem not_nodup_map_append (hf : (records.map f).Nodup) :
    ¬((records ++ [a]).map f).Nodup ↔ f a ∈ records.map f := by
  rw [List.map_append, List.map_singleton, ← List.concat_eq_append, List.nodup_concat]
  simp only [hf, and_true, not_not]

/-- After a change to the record with one id, a value repeats if another record has it. -/
theorem not_nodup_map_change {g : α → α} {v : β} (hid : (records.map id).Nodup)
    (hf : (records.map f).Nodup) (hg : ∀ a, f (g a) = v) :
    ¬((records.map fun a ↦ if id a = i then g a else a).map f).Nodup ↔
      i ∈ records.map id ∧ ∃ b ∈ records, id b ≠ i ∧ f b = v := by
  rw [List.map_map]
  constructor
  · intro hrepeats
    by_contra hfree
    refine hrepeats (hid.of_map.map_on fun a ha b hb hab ↦ ?_)
    simp only [Function.comp_apply] at hab
    split_ifs at hab with hai hbi hbi
    · exact List.inj_on_of_nodup_map hid ha hb (hai.trans hbi.symm)
    · rw [hg] at hab
      exact absurd ⟨List.mem_map.mpr ⟨a, ha, hai⟩, b, hb, hbi, hab.symm⟩ hfree
    · rw [hg] at hab
      exact absurd ⟨List.mem_map.mpr ⟨b, hb, hbi⟩, a, ha, hai, hab⟩ hfree
    · exact List.inj_on_of_nodup_map hf ha hb hab
  · rintro ⟨hi, b, hb, hbi, hbv⟩ hnodup
    obtain ⟨a, ha, hai⟩ := List.mem_map.mp hi
    have hvalues : (f ∘ fun a ↦ if id a = i then g a else a) a =
        (f ∘ fun a ↦ if id a = i then g a else a) b := by
      simp only [Function.comp_apply, if_pos hai, if_neg hbi, hg, hbv]
    have hab : a = b := List.inj_on_of_nodup_map hnodup ha hb hvalues
    exact hbi (hab ▸ hai)

theorem exists_mem_append {P : α → Prop} {records' : List α} (h : ∀ a ∈ records, ¬P a) :
    (∃ a ∈ records ++ records', P a) ↔ ∃ a ∈ records', P a := by
  constructor
  · rintro ⟨a, ha, hP⟩
    exact ⟨a, (List.mem_append.mp ha).resolve_left fun ha ↦ h a ha hP, hP⟩
  · rintro ⟨a, ha, hP⟩
    exact ⟨a, List.mem_append_right _ ha, hP⟩

theorem map_change {g : α → α} (hg : ∀ a, f (g a) = f a) :
    (records.map fun a ↦ if id a = i then g a else a).map f = records.map f := by
  rw [List.map_map]
  refine List.map_congr_left fun a _ ↦ ?_
  rw [Function.comp_apply]
  split
  · exact hg a
  · rfl

end Lists

section Cells

theorem Users.get_id (u : User) : (insert u).stored.kept.get "id" = .text u.id.text := by
  rw [insert_stored]
  rfl

theorem Users.get_field (u : User) (key : User.Key) :
    (insert u).stored.kept.get key.name = .text (u.get key) := by
  rw [insert_stored]
  cases key <;> rfl

variable (k : Kind)

theorem Circles.get_id (c : Circle) : (insert k c).stored.kept.get "id" = .text c.id.text := by
  rw [insert_stored]
  rfl

theorem Circles.get_field (c : Circle) (key : Circle.Key) :
    (insert k c).stored.kept.get key.text = .text (c.get key) := by
  rw [insert_stored]
  cases key <;> rfl

theorem Memberships.get_user (m : Membership) :
    (Circles.insertMembership k m).stored.kept.get "user_id" = .text m.userId.text := by
  rw [insert_stored]
  rfl

theorem Memberships.get_circle (m : Membership) :
    (Circles.insertMembership k m).stored.kept.get (column k) = .text m.circleId.text := by
  rw [insert_stored]
  cases k <;> rfl

section Finding

variable {α ι : Type} [DecidableEq ι] {records : List α} {cells : α → Cells} {id : α → ι} {i : ι}
variable {g : α → α} {s : Statement} {now : Timestamp}

theorem map_written (hfinds : ∀ a, s.finds (cells a) = decide (id a = i))
    (hwritten : ∀ a, (cells a).writtenBy now s = cells (g a)) :
    ((records.map cells).map fun row ↦ if s.finds row then row.writtenBy now s else row) =
      (records.map fun a ↦ if id a = i then g a else a).map cells := by
  rw [List.map_map, List.map_map]
  refine List.map_congr_left fun a _ ↦ ?_
  simp only [Function.comp_apply, hfinds, hwritten, decide_eq_true_eq]
  exact (apply_ite cells _ _ _).symm

theorem countP_finds_eq_zero (hfinds : ∀ a, s.finds (cells a) = decide (id a = i)) :
    (records.map cells).countP s.finds = 0 ↔ i ∉ records.map id := by
  rw [List.countP_map, List.countP_eq_zero]
  simp [hfinds]

end Finding

end Cells

structure Holdings where
  users : List User
  circles : Kind → List Circle
  memberships : Kind → List Membership

namespace Holdings

variable (h : Holdings) (k : Kind)

def rows : Rows
  | "users" => h.users.map fun u ↦ (Users.insert u).stored.kept
  | "groups" => (h.circles .group).map fun c ↦ (Circles.insert .group c).stored.kept
  | "teams" => (h.circles .team).map fun c ↦ (Circles.insert .team c).stored.kept
  | "user_groups" =>
    (h.memberships .group).map fun m ↦ (Circles.insertMembership .group m).stored.kept
  | "user_teams" =>
    (h.memberships .team).map fun m ↦ (Circles.insertMembership .team m).stored.kept
  | _ => []

theorem rows_users : h.rows "users" = h.users.map fun u ↦ (Users.insert u).stored.kept := rfl

theorem rows_circles :
    h.rows k.plural = (h.circles k).map fun c ↦ (Circles.insert k c).stored.kept := by
  cases k <;> rfl

theorem rows_memberships : h.rows (Memberships.table k) =
    (h.memberships k).map fun m ↦ (Circles.insertMembership k m).stored.kept := by
  cases k <;> rfl

def setUsers (users : List User) : Holdings :=
  { h with users := users }

def setCircles (circles : List Circle) : Holdings :=
  { h with circles := Function.update h.circles k circles }

def setMemberships (ms : List Membership) : Holdings :=
  { h with memberships := Function.update h.memberships k ms }

theorem rows_setUsers (users : List User) : (h.setUsers users).rows =
    Function.update h.rows "users" (users.map fun u ↦ (Users.insert u).stored.kept) := by
  symm
  refine Function.update_eq_iff.mpr ⟨rfl, fun table htable ↦ ?_⟩
  unfold rows
  split <;> first | rfl | exact absurd rfl htable

theorem rows_setCircles (circles : List Circle) : (h.setCircles k circles).rows =
    Function.update h.rows k.plural (circles.map fun c ↦ (Circles.insert k c).stored.kept) := by
  symm
  refine Function.update_eq_iff.mpr ⟨?_, fun table htable ↦ ?_⟩
  · simp only [rows_circles, setCircles, Function.update_self]
  · unfold rows
    cases k <;> split <;> first | rfl | exact absurd rfl htable

theorem rows_setMemberships (ms : List Membership) : (h.setMemberships k ms).rows =
    Function.update h.rows (Memberships.table k)
      (ms.map fun m ↦ (Circles.insertMembership k m).stored.kept) := by
  symm
  refine Function.update_eq_iff.mpr ⟨?_, fun table htable ↦ ?_⟩
  · simp only [rows_memberships, setMemberships, Function.update_self]
  · unfold rows
    cases k <;> split <;> first | rfl | exact absurd rfl htable

def changeUser (u : User) : Holdings :=
  h.setUsers (h.users.map fun v ↦
    if v.id = u.id then { u with id := v.id, createdAt := v.createdAt } else v)

def changeCircle (c : Circle) : Holdings :=
  h.setCircles k ((h.circles k).map fun d ↦
    if d.id = c.id then { c with id := d.id, createdAt := d.createdAt } else d)

def changePermission (user : UserId) (circle : CircleId) (p : Permission) (now : Timestamp) :
    Holdings :=
  h.setMemberships k ((h.memberships k).map fun m ↦
    if m.pair = (user, circle) then { m with permission := p, updatedAt := now } else m)

theorem finds_user (u v : User) :
    (Users.replace u).finds (Users.insert v).stored.kept = decide (v.id = u.id) := by
  rw [Statement.finds, Users.replace_compared]
  simp [Users.get_id, UserId.text_inj, Bool.beq_eq_decide_eq]

theorem finds_circle (c d : Circle) :
    (Circles.replace k c).finds (Circles.insert k d).stored.kept = decide (d.id = c.id) := by
  rw [Statement.finds, Circles.replace_compared]
  simp [Circles.get_id, CircleId.text_inj, Bool.beq_eq_decide_eq]

theorem finds_pair (m : Membership) (user : UserId) (circle : CircleId) (p : Permission) :
    (Memberships.setPermission k user circle p).finds (Circles.insertMembership k m).stored.kept =
      decide (m.pair = (user, circle)) := by
  rw [Statement.finds, Memberships.setPermission_compared]
  simp [Memberships.get_user, Memberships.get_circle, Membership.pair, UserId.text_inj,
    CircleId.text_inj, Bool.beq_eq_decide_eq]

variable {now : Timestamp}

theorem after_insertUser (u : User) :
    h.rows.after now (Users.insert u) = (h.setUsers (h.users ++ [u])).rows := by
  rw [Rows.after_of_insertion (Users.insert_write? u), rows_setUsers, List.map_append]
  rfl

theorem after_insertCircle (c : Circle) :
    h.rows.after now (Circles.insert k c) = (h.setCircles k (h.circles k ++ [c])).rows := by
  rw [Rows.after_of_insertion (Circles.insert_write? k c), rows_setCircles, List.map_append,
    rows_circles]
  rfl

theorem after_insertMembership (m : Membership) :
    h.rows.after now (Circles.insertMembership k m) =
      (h.setMemberships k (h.memberships k ++ [m])).rows := by
  rw [Rows.after_of_insertion (Circles.insertMembership_write? k m), rows_setMemberships,
    List.map_append, rows_memberships]
  rfl

theorem after_replaceUser (u : User) :
    h.rows.after now (Users.replace u) = (h.changeUser u).rows := by
  rw [Rows.after_of_change (Users.replace_write? u), changeUser, rows_setUsers, rows_users,
    map_written (finds_user u) (Users.stored_writtenBy · u now)]

theorem after_replaceCircle (c : Circle) :
    h.rows.after now (Circles.replace k c) = (h.changeCircle k c).rows := by
  rw [Rows.after_of_change (Circles.replace_write? k c), changeCircle, rows_setCircles,
    rows_circles, map_written (finds_circle k c) (Circles.stored_writtenBy k · c now)]

theorem after_setPermission (user : UserId) (circle : CircleId) (p : Permission) :
    h.rows.after now (Memberships.setPermission k user circle p) =
      (h.changePermission k user circle p now).rows := by
  rw [Rows.after_of_change (Memberships.setPermission_write? k user circle p), changePermission,
    rows_setMemberships, rows_memberships,
    map_written (finds_pair k · user circle p) (Memberships.stored_writtenBy k · user circle p now)]

theorem affected_replaceUser (u : User) :
    h.rows.affected (Users.replace u) = 0 ↔ u.id ∉ h.users.map User.id := by
  rw [Rows.affected_of_change (Users.replace_write? u), rows_users,
    countP_finds_eq_zero (finds_user u)]

theorem affected_replaceCircle (c : Circle) :
    h.rows.affected (Circles.replace k c) = 0 ↔ c.id ∉ (h.circles k).map Circle.id := by
  rw [Rows.affected_of_change (Circles.replace_write? k c), rows_circles,
    countP_finds_eq_zero (finds_circle k c)]

theorem holds_key {rows : Rows} {κ : Constraint} {columns : List String} {α β : Type}
    {records : List α} {cells : α → Cells} {f : α → β}
    (hform : κ.form = .unique columns ∨ κ.form = .primaryKey columns)
    (hrows : rows κ.table = records.map cells)
    (hf : ∀ a b, columns.map (cells a).get = columns.map (cells b).get ↔ f a = f b) :
    rows.holds κ = true ↔ (records.map f).Nodup := by
  have hholds : rows.holds κ =
      decide ((rows κ.table).map fun row ↦ columns.map row.get).Nodup := by
    rw [Rows.holds]
    rcases hform with hform | hform <;> rw [hform]
  rw [hholds, hrows, List.map_map, decide_eq_true_eq]
  simp only [List.Nodup, List.pairwise_map, Function.comp_apply, ne_eq, hf]

theorem holds_reference {rows : Rows} {κ : Constraint} {column target : String} {α β ι : Type}
    {records : List α} {cells : α → Cells} {targets : List β} {cells' : β → Cells} {ref : α → ι}
    {id : β → ι} (hform : κ.form = .reference column target)
    (hrows : rows κ.table = records.map cells) (htargets : rows target = targets.map cells')
    (hf : ∀ a b, (cells' b).get "id" = (cells a).get column ↔ id b = ref a) :
    rows.holds κ = true ↔ ∀ a ∈ records, ref a ∈ targets.map id := by
  rw [Rows.holds, hform]
  simp only [hrows, htargets, List.all_map, List.any_map, List.all_eq_true, List.any_eq_true,
    Function.comp_apply, beq_iff_eq, hf, List.mem_map]

theorem holds_userId :
    h.rows.holds (Schema.idKey "users") = true ↔ (h.users.map User.id).Nodup := by
  refine holds_key (.inr rfl) h.rows_users fun u v ↦ ?_
  simp [Users.get_id, UserId.text_inj]

theorem holds_userField (key : User.Key) :
    h.rows.holds (Schema.fieldKey "users" key.name) = true ↔ (h.users.map (·.get key)).Nodup := by
  refine holds_key (.inl rfl) h.rows_users fun u v ↦ ?_
  simp [Users.get_field]

theorem holds_circleId :
    h.rows.holds (Schema.idKey k.plural) = true ↔ ((h.circles k).map Circle.id).Nodup := by
  refine holds_key (.inr rfl) (h.rows_circles k) fun c d ↦ ?_
  simp [Circles.get_id, CircleId.text_inj]

theorem holds_circleField (key : Circle.Key) :
    h.rows.holds (Schema.fieldKey k.plural key.text) = true ↔
      ((h.circles k).map (·.get key)).Nodup := by
  refine holds_key (.inl rfl) (h.rows_circles k) fun c d ↦ ?_
  simp [Circles.get_field]

theorem holds_pair :
    h.rows.holds (Schema.pairKey k) = true ↔ ((h.memberships k).map Membership.pair).Nodup := by
  refine holds_key (.inr rfl) (h.rows_memberships k) fun m n ↦ ?_
  simp [Memberships.get_user, Memberships.get_circle, Membership.pair, UserId.text_inj,
    CircleId.text_inj]

theorem holds_user : h.rows.holds (Schema.joinKey k "user_id" "users") = true ↔
    ∀ m ∈ h.memberships k, m.userId ∈ h.users.map User.id := by
  refine holds_reference rfl (h.rows_memberships k) h.rows_users fun m u ↦ ?_
  simp [Memberships.get_user, Users.get_id, UserId.text_inj]

theorem holds_circle : h.rows.holds (Schema.joinKey k (Memberships.column k) k.plural) = true ↔
    ∀ m ∈ h.memberships k, m.circleId ∈ (h.circles k).map Circle.id := by
  refine holds_reference rfl (h.rows_memberships k) (h.rows_circles k) fun m c ↦ ?_
  simp [Memberships.get_circle, Circles.get_id, CircleId.text_inj]

inductive Breaks (h : Holdings) : Constraint → Prop
  | userId (hd : ¬(h.users.map User.id).Nodup) : h.Breaks (Schema.idKey "users")
  | userField (key : User.Key) (hd : ¬(h.users.map (·.get key)).Nodup) :
    h.Breaks (Schema.fieldKey "users" key.name)
  | circleId (k : Kind) (hd : ¬((h.circles k).map Circle.id).Nodup) :
    h.Breaks (Schema.idKey k.plural)
  | circleField (k : Kind) (key : Circle.Key) (hd : ¬((h.circles k).map (·.get key)).Nodup) :
    h.Breaks (Schema.fieldKey k.plural key.text)
  | pair (k : Kind) (hd : ¬((h.memberships k).map Membership.pair).Nodup) :
    h.Breaks (Schema.pairKey k)
  | user (k : Kind) {m : Membership} (hm : m ∈ h.memberships k)
    (hu : m.userId ∉ h.users.map User.id) : h.Breaks (Schema.joinKey k "user_id" "users")
  | circle (k : Kind) {m : Membership} (hm : m ∈ h.memberships k)
    (hc : m.circleId ∉ (h.circles k).map Circle.id) :
    h.Breaks (Schema.joinKey k (Memberships.column k) k.plural)

structure Sound (h : Holdings) : Prop where
  userIds : (h.users.map User.id).Nodup
  userFields : ∀ key, (h.users.map (User.get · key)).Nodup
  circleIds : ∀ k, ((h.circles k).map Circle.id).Nodup
  circleFields : ∀ k key, ((h.circles k).map (Circle.get · key)).Nodup
  pairs : ∀ k, ((h.memberships k).map Membership.pair).Nodup
  joinsUsers : ∀ k, ∀ m ∈ h.memberships k, m.userId ∈ h.users.map User.id
  joinsCircles : ∀ k, ∀ m ∈ h.memberships k, m.circleId ∈ (h.circles k).map Circle.id

variable {h k} {κ : Constraint}

theorem mem_violated : κ ∈ h.rows.violated ↔ h.Breaks κ := by
  rw [Rows.mem_violated, Schema.mem_constraints, ← Bool.not_eq_true]
  constructor
  · rintro ⟨hκ | ⟨k, hκ⟩ | ⟨k, hκ⟩, hbroken⟩
    · rcases List.mem_cons.mp hκ with rfl | hκ
      · exact .userId (mt h.holds_userId.mpr hbroken)
      · obtain ⟨key, -, rfl⟩ := List.mem_map.mp hκ
        exact .userField key (mt (h.holds_userField key).mpr hbroken)
    · rcases List.mem_cons.mp hκ with rfl | hκ
      · exact .circleId k (mt (h.holds_circleId k).mpr hbroken)
      · obtain ⟨key, -, rfl⟩ := List.mem_map.mp hκ
        exact .circleField k key (mt (h.holds_circleField k key).mpr hbroken)
    · simp only [Schema.membershipKeys, List.mem_cons, List.not_mem_nil, or_false] at hκ
      rcases hκ with rfl | rfl | rfl
      · exact .pair k (mt (h.holds_pair k).mpr hbroken)
      · have hlost := mt (h.holds_user k).mpr hbroken
        push Not at hlost
        obtain ⟨m, hm, hu⟩ := hlost
        exact .user k hm hu
      · have hlost := mt (h.holds_circle k).mpr hbroken
        push Not at hlost
        obtain ⟨m, hm, hc⟩ := hlost
        exact .circle k hm hc
  · intro hbreaks
    cases hbreaks with
    | userId hd => exact ⟨.inl List.mem_cons_self, mt h.holds_userId.mp hd⟩
    | userField key hd =>
      refine ⟨.inl (List.mem_cons_of_mem _ (List.mem_map_of_mem ?_)),
        mt (h.holds_userField key).mp hd⟩
      cases key <;> simp
    | circleId k hd => exact ⟨.inr (.inl ⟨k, List.mem_cons_self⟩), mt (h.holds_circleId k).mp hd⟩
    | circleField k key hd =>
      refine ⟨.inr (.inl ⟨k, List.mem_cons_of_mem _ (List.mem_map_of_mem ?_)⟩),
        mt (h.holds_circleField k key).mp hd⟩
      cases key <;> simp
    | pair k hd =>
      exact ⟨.inr (.inr ⟨k, by simp [Schema.membershipKeys]⟩), mt (h.holds_pair k).mp hd⟩
    | user k hm hu =>
      exact ⟨.inr (.inr ⟨k, by simp [Schema.membershipKeys]⟩),
        fun hholds ↦ hu ((h.holds_user k).mp hholds _ hm)⟩
    | circle k hm hc =>
      exact ⟨.inr (.inr ⟨k, by simp [Schema.membershipKeys]⟩),
        fun hholds ↦ hc ((h.holds_circle k).mp hholds _ hm)⟩

theorem Sound.violated_eq_nil (hs : h.Sound) : h.rows.violated = [] := by
  refine List.eq_nil_iff_forall_not_mem.mpr fun κ hκ ↦ ?_
  cases mem_violated.mp hκ with
  | userId hd => exact hd hs.userIds
  | userField key hd => exact hd (hs.userFields key)
  | circleId k hd => exact hd (hs.circleIds k)
  | circleField k key hd => exact hd (hs.circleFields k key)
  | pair k hd => exact hd (hs.pairs k)
  | user k hm hu => exact hu (hs.joinsUsers k _ hm)
  | circle k hm hc => exact hc (hs.joinsCircles k _ hm)

/-- Where only the users change and none is lost, their keys are all that can break. -/
theorem Sound.breaks_setUsers (hs : h.Sound) {users : List User}
    (hids : h.users.map User.id ⊆ users.map User.id) :
    (h.setUsers users).Breaks κ ↔ (κ = Schema.idKey "users" ∧ ¬(users.map User.id).Nodup) ∨
      ∃ key : User.Key, κ = Schema.fieldKey "users" key.name ∧
        ¬(users.map (·.get key)).Nodup := by
  constructor
  · intro hbreaks
    cases hbreaks with
    | userId hd => exact .inl ⟨rfl, hd⟩
    | userField key hd => exact .inr ⟨key, rfl, hd⟩
    | circleId k hd => exact absurd (hs.circleIds k) hd
    | circleField k key hd => exact absurd (hs.circleFields k key) hd
    | pair k hd => exact absurd (hs.pairs k) hd
    | user k hm hu => exact absurd (hids (hs.joinsUsers k _ hm)) hu
    | circle k hm hc => exact absurd (hs.joinsCircles k _ hm) hc
  · rintro (⟨rfl, hd⟩ | ⟨key, rfl, hd⟩)
    · exact .userId hd
    · exact .userField key hd

/-- Where only circles and memberships of one kind change, all that can break is about these. -/
theorem Sound.breaks_of_kind (hs : h.Sound) (h' : Holdings) (husers : h'.users = h.users)
    (hcircles : ∀ k', k' ≠ k → h'.circles k' = h.circles k')
    (hmemberships : ∀ k', k' ≠ k → h'.memberships k' = h.memberships k') :
    h'.Breaks κ ↔
      (κ = Schema.idKey k.plural ∧ ¬((h'.circles k).map Circle.id).Nodup) ∨
      (∃ key : Circle.Key, κ = Schema.fieldKey k.plural key.text ∧
        ¬((h'.circles k).map (·.get key)).Nodup) ∨
      (κ = Schema.pairKey k ∧ ¬((h'.memberships k).map Membership.pair).Nodup) ∨
      (κ = Schema.joinKey k "user_id" "users" ∧
        ∃ m ∈ h'.memberships k, m.userId ∉ h.users.map User.id) ∨
      (κ = Schema.joinKey k (Memberships.column k) k.plural ∧
        ∃ m ∈ h'.memberships k, m.circleId ∉ (h'.circles k).map Circle.id) := by
  constructor
  · intro hbreaks
    cases hbreaks with
    | userId hd => exact absurd hs.userIds (husers ▸ hd)
    | userField key hd => exact absurd (hs.userFields key) (husers ▸ hd)
    | circleId k' hd =>
      rcases eq_or_ne k' k with rfl | hk
      · exact .inl ⟨rfl, hd⟩
      · exact absurd (hs.circleIds k') (hcircles k' hk ▸ hd)
    | circleField k' key hd =>
      rcases eq_or_ne k' k with rfl | hk
      · exact .inr (.inl ⟨key, rfl, hd⟩)
      · exact absurd (hs.circleFields k' key) (hcircles k' hk ▸ hd)
    | pair k' hd =>
      rcases eq_or_ne k' k with rfl | hk
      · exact .inr (.inr (.inl ⟨rfl, hd⟩))
      · exact absurd (hs.pairs k') (hmemberships k' hk ▸ hd)
    | user k' hm hu =>
      rw [husers] at hu
      rcases eq_or_ne k' k with rfl | hk
      · exact .inr (.inr (.inr (.inl ⟨rfl, _, hm, hu⟩)))
      · exact absurd (hs.joinsUsers k' _ (hmemberships k' hk ▸ hm)) hu
    | circle k' hm hc =>
      rcases eq_or_ne k' k with rfl | hk
      · exact .inr (.inr (.inr (.inr ⟨rfl, _, hm, hc⟩)))
      · rw [hmemberships k' hk] at hm
        rw [hcircles k' hk] at hc
        exact absurd (hs.joinsCircles k' _ hm) hc
  · rintro (⟨rfl, hd⟩ | ⟨key, rfl, hd⟩ | ⟨rfl, hd⟩ | ⟨rfl, m, hm, hu⟩ | ⟨rfl, m, hm, hc⟩)
    · exact .circleId k hd
    · exact .circleField k key hd
    · exact .pair k hd
    · exact .user k hm (husers ▸ hu)
    · exact .circle k hm hc

theorem Sound.breaks_setCircles (hs : h.Sound) {circles : List Circle}
    (hids : (h.circles k).map Circle.id ⊆ circles.map Circle.id) :
    (h.setCircles k circles).Breaks κ ↔
      (κ = Schema.idKey k.plural ∧ ¬(circles.map Circle.id).Nodup) ∨
      ∃ key : Circle.Key, κ = Schema.fieldKey k.plural key.text ∧
        ¬(circles.map (·.get key)).Nodup := by
  have husers : ¬∃ m ∈ h.memberships k, m.userId ∉ h.users.map User.id := by
    rintro ⟨m, hm, hu⟩
    exact hu (hs.joinsUsers k m hm)
  have hcircles : ¬∃ m ∈ h.memberships k, m.circleId ∉ circles.map Circle.id := by
    rintro ⟨m, hm, hc⟩
    exact hc (hids (hs.joinsCircles k m hm))
  rw [hs.breaks_of_kind (h.setCircles k circles) rfl
    (fun k' hk ↦ Function.update_of_ne hk _ _) fun _ _ ↦ rfl]
  simp only [setCircles, Function.update_self, hs.pairs, husers, hcircles, not_true_eq_false,
    and_false, or_false]

theorem Sound.breaks_setMemberships (hs : h.Sound) {ms : List Membership} :
    (h.setMemberships k ms).Breaks κ ↔
      (κ = Schema.pairKey k ∧ ¬(ms.map Membership.pair).Nodup) ∨
      (κ = Schema.joinKey k "user_id" "users" ∧ ∃ m ∈ ms, m.userId ∉ h.users.map User.id) ∨
      (κ = Schema.joinKey k (Memberships.column k) k.plural ∧
        ∃ m ∈ ms, m.circleId ∉ (h.circles k).map Circle.id) := by
  rw [hs.breaks_of_kind (h.setMemberships k ms) rfl (fun _ _ ↦ rfl)
    fun k' hk ↦ Function.update_of_ne hk _ _]
  simp only [setMemberships, Function.update_self, hs.circleIds, hs.circleFields,
    not_true_eq_false, and_false, exists_false, false_or]

theorem Sound.violated_setMemberships (hs : h.Sound) {ms : List Membership}
    (hpairs : ms.map Membership.pair = (h.memberships k).map Membership.pair) :
    (h.setMemberships k ms).rows.violated = [] := by
  have hold {m : Membership} (hm : m ∈ ms) : ∃ n ∈ h.memberships k, n.pair = m.pair :=
    List.mem_map.mp (hpairs ▸ List.mem_map_of_mem hm)
  refine List.eq_nil_iff_forall_not_mem.mpr fun κ hκ ↦ ?_
  rw [mem_violated, hs.breaks_setMemberships, hpairs] at hκ
  rcases hκ with ⟨-, hd⟩ | ⟨-, m, hm, hu⟩ | ⟨-, m, hm, hc⟩
  · exact hd (hs.pairs k)
  · obtain ⟨n, hn, hpair⟩ := hold hm
    exact hu ((Prod.mk.inj hpair).1 ▸ hs.joinsUsers k n hn)
  · obtain ⟨n, hn, hpair⟩ := hold hm
    exact hc ((Prod.mk.inj hpair).2 ▸ hs.joinsCircles k n hn)

end Holdings

end Sql

end Roster
