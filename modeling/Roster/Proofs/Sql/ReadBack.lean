import Roster.Proofs.Sql.Reading
import Roster.Proofs.Sql.Written
import Roster.Store.Server

namespace Roster.Sql

variable {α : Type}

inductive Demand where
  | text
  | nonblank
  | permission
  | bool
  | time
  deriving DecidableEq, Repr

def Demand.IsMetBy : Demand → Value → Prop
  | text, .text _ | bool, .bool _ | time, .time _ => True
  | nonblank, .text s => Text.blank s = false
  | permission, .text s => s ∈ ["user", "admin", "owner"]
  | _, _ => False

section IsMetBy

variable {v : Value}

theorem Demand.text_isMetBy : text.IsMetBy v ↔ ∃ s, v = .text s := by
  cases v <;> simp [IsMetBy]

theorem Demand.bool_isMetBy : bool.IsMetBy v ↔ ∃ b, v = .bool b := by
  cases v <;> simp [IsMetBy]

theorem Demand.time_isMetBy : time.IsMetBy v ↔ ∃ t, v = .time t := by
  cases v <;> simp [IsMetBy]

theorem Demand.nonblank_isMetBy :
    nonblank.IsMetBy v ↔ ∃ s, v = .text s ∧ Text.blank s = false := by
  cases v <;> simp [IsMetBy]

theorem Demand.permission_isMetBy : permission.IsMetBy v ↔ ∃ p : Permission, v = .text p.name := by
  constructor
  · intro h
    cases v with
    | text s =>
      obtain rfl | rfl | rfl : s = "user" ∨ s = "admin" ∨ s = "owner" := by simpa [IsMetBy] using h
      · exact ⟨.user, rfl⟩
      · exact ⟨.admin, rfl⟩
      · exact ⟨.owner, rfl⟩
    | _ => exact h.elim
  · rintro ⟨p, rfl⟩
    cases p <;> simp [IsMetBy, Permission.name]

end IsMetBy

def Row.Meets (r : Row) (demands : List (String × Demand)) : Prop :=
  ∀ d ∈ demands, ∃ v, r.Bears d.1 v ∧ d.2.IsMetBy v

def Value.columnType : Value → ColumnType
  | text _ | null => .text
  | bool _ => .bool
  | int _ => .int8
  | time _ => .timestamptz

def Cells.row (cells : Cells) : Row where
  columns := cells.map fun e ↦ ⟨e.1, e.2.columnType⟩
  values := cells.map Prod.snd

theorem Cells.row_bearsAll {cells : Cells} (hnames : (cells.map Prod.fst).Nodup)
    (hvalues : ∀ e ∈ cells, e.2 ≠ .null) : cells.row.BearsAll cells := by
  intro e he
  have hrow : cells.row.cells = cells.map fun e ↦ (⟨e.1, e.2.columnType⟩, e.2) := by
    rw [Row.cells, row, List.zip_map']
  have hholds : e.2.columnType.holds e.2 = true := by
    have hvalue := hvalues e he
    cases hv : e.2 <;> first | rfl | exact absurd hv hvalue
  obtain ⟨before, after, rfl⟩ := List.append_of_mem he
  refine ⟨_, ⟨e.1, e.2.columnType⟩, _, hrow.trans List.map_append, rfl, hholds, ?_⟩
  rw [List.map_append, List.map_cons] at hnames
  have hafter := (List.nodup_cons.mp hnames.of_append_right).1
  intro cell hcell heq
  obtain ⟨other, hother, rfl⟩ := List.mem_map.mp hcell
  exact hafter (List.mem_map.mpr ⟨other, hother, heq⟩)

theorem Cells.under_empty (cells : Cells) : cells.under "" = cells := by
  simp [under]

theorem Cells.under_nodup {cells : Cells} (hnames : (cells.map Prod.fst).Nodup) (lead : String) :
    ((cells.under lead).map Prod.fst).Nodup := by
  have hmap : (cells.under lead).map Prod.fst = (cells.map Prod.fst).map (lead ++ ·) := by
    rw [under, List.map_map, List.map_map]
    rfl
  rw [hmap]
  exact hnames.map fun _ _ ↦ (String.append_right_inj lead).mp

/-- A way to read rows for the cells that records are stored as. -/
structure ReadsBack (read : Row → Query α) (cells : α → Cells) (demands : List (String × Demand)) :
    Prop where
  stored (a : α) : read (cells a).row = pure a
  eq_pure_iff (r : Row) (a : α) : read r = pure a ↔ r.BearsAll (cells a)
  read_iff (r : Row) : (∃ a, read r = pure a) ↔ r.Meets demands
  refused (r : Row) (h : ¬ r.Meets demands) : ∃ message, read r = throw (.storage message)

theorem ReadsBack.of_finds {read : Row → Query α} {cells : α → Cells}
    {demands : List (String × Demand)}
    (hfinds : ∀ r : Row, (read r).Finds fun a ↦ r.BearsAll (cells a))
    (hmeets : ∀ r : Row, (∃ a, r.BearsAll (cells a)) ↔ r.Meets demands)
    (hnames : ∀ a, ((cells a).map Prod.fst).Nodup) (hvalues : ∀ a, ∀ e ∈ cells a, e.2 ≠ .null) :
    ReadsBack read cells demands where
  stored a := (hfinds _).eq_pure_iff.mpr (Cells.row_bearsAll (hnames a) (hvalues a))
  eq_pure_iff r _ := (hfinds r).eq_pure_iff
  read_iff r := (exists_congr fun _ ↦ (hfinds r).eq_pure_iff).trans (hmeets r)
  refused r h := (hfinds r).refused fun a ha ↦ h ((hmeets r).mp ⟨a, ha⟩)

namespace Users

variable (lead : String)

def demands : List (String × Demand) :=
  [(lead ++ "id", .nonblank), (lead ++ "slug", .text), (lead ++ "username", .text),
    (lead ++ "email", .text), (lead ++ "fullname", .text), (lead ++ "password_hash", .text),
    (lead ++ "active", .bool), (lead ++ "admin", .bool), (lead ++ "created_at", .time),
    (lead ++ "updated_at", .time)]

theorem ofRow_finds (r : Row) :
    (ofRow lead r).Finds fun u ↦ r.BearsAll ((insert u).stored.under lead) := by
  rw [ofRow]
  -- One rule for each column in turn; whether the id does is looked at after the last of them.
  refine Query.Finds.congr (.bind (.get Cell.text_reads) fun id ↦
    .bind (.get Cell.text_reads) fun slug ↦
    .bind (.get Cell.text_reads) fun username ↦ .bind (.get Cell.text_reads) fun email ↦
    .bind (.get Cell.text_reads) fun fullname ↦ .bind (.get Cell.text_reads) fun hash ↦
    .bind (.get Cell.bool_reads) fun active ↦ .bind (.get Cell.bool_reads) fun admin ↦
    .bind (.get Cell.time_reads) fun created ↦ .bind (.get Cell.time_reads) fun updated ↦
    .ofOption ((UserId.ofText? id).map
      (User.mk · slug username email fullname hash active admin created updated)) ?_ ?_) fun u ↦ ?_
  · intro h
    rw [Option.map_eq_none_iff.mp h]
    exact ⟨_, rfl⟩
  · intro u h
    obtain ⟨i, hi, rfl⟩ := Option.map_eq_some_iff.mp h
    rw [hi]
  simp only [Row.BearsAll, insert_stored, Cells.under, List.map_cons, List.map_nil,
    List.forall_mem_cons, Option.map_eq_some_iff, UserId.ofText?_eq_some_iff]
  constructor
  · rintro ⟨_, hid, _, hslug, _, hname, _, hemail, _, hfullname, _, hhash, _, hactive, _, hadmin, _,
      hcreated, _, hupdated, i, rfl, rfl⟩
    exact ⟨hid, hslug, hname, hemail, hfullname, hhash, hactive, hadmin, hcreated, hupdated, by simp⟩
  · rintro ⟨hid, hslug, hname, hemail, hfullname, hhash, hactive, hadmin, hcreated, hupdated, -⟩
    exact ⟨_, hid, _, hslug, _, hname, _, hemail, _, hfullname, _, hhash, _, hactive, _, hadmin, _,
      hcreated, _, hupdated, u.id, rfl, rfl⟩

theorem exists_bearsAll_iff (r : Row) :
    (∃ u, r.BearsAll ((insert u).stored.under lead)) ↔ r.Meets (demands lead) := by
  simp only [Row.BearsAll, Row.Meets, insert_stored, demands, Cells.under, List.map_cons,
    List.map_nil, List.forall_mem_cons, Demand.text_isMetBy, Demand.bool_isMetBy, Demand.time_isMetBy,
    Demand.nonblank_isMetBy]
  constructor
  · rintro ⟨u, hid, hslug, hname, hemail, hfullname, hhash, hactive, hadmin, hcreated, hupdated, -⟩
    exact ⟨⟨_, hid, _, rfl, u.id.text_nonblank⟩, ⟨_, hslug, _, rfl⟩, ⟨_, hname, _, rfl⟩,
      ⟨_, hemail, _, rfl⟩, ⟨_, hfullname, _, rfl⟩, ⟨_, hhash, _, rfl⟩, ⟨_, hactive, _, rfl⟩,
      ⟨_, hadmin, _, rfl⟩, ⟨_, hcreated, _, rfl⟩, ⟨_, hupdated, _, rfl⟩, by simp⟩
  · rintro ⟨⟨_, hid, id, rfl, hblank⟩, ⟨_, hslug, slug, rfl⟩, ⟨_, hname, name, rfl⟩,
      ⟨_, hemail, email, rfl⟩, ⟨_, hfullname, fullname, rfl⟩, ⟨_, hhash, hash, rfl⟩,
      ⟨_, hactive, active, rfl⟩, ⟨_, hadmin, admin, rfl⟩, ⟨_, hcreated, created, rfl⟩,
      ⟨_, hupdated, updated, rfl⟩, -⟩
    exact ⟨⟨⟨id, hblank⟩, slug, name, email, fullname, hash, active, admin, created, updated⟩, hid,
      hslug, hname, hemail, hfullname, hhash, hactive, hadmin, hcreated, hupdated, by simp⟩

theorem ofRow_readsBack :
    ReadsBack (ofRow lead) (fun u ↦ (insert u).stored.under lead) (demands lead) := by
  refine .of_finds (ofRow_finds lead) (exists_bearsAll_iff lead) (fun u ↦ ?_) fun u ↦ ?_
  · have hnames : columnNames.Nodup := by decide
    exact Cells.under_nodup (insert_stored u ▸ hnames) lead
  · simp [insert_stored, Cells.under]

structure RoundTrip : Prop where
  createSends (u : User) : ∃ next, Store.Server.answer (.createUser u) = .ask (insert u) next
  updateSends (u : User) : ∃ next, Store.Server.answer (.updateUser u) = .ask (replace u) next
  inserted : ReadsBack (ofRow "") (fun u ↦ (insert u).stored) (demands "")
  selected (u : User) (condition value : String) :
    (selectWhere condition value).shows (insert u).stored = (insert u).stored
  listed (u : User) (l : Listing) : (selectPage l).shows (insert u).stored = (insert u).stored
  changed (old u : User) : (insert old).stored.updatedBy (replace u) =
    (insert { u with id := old.id, createdAt := old.createdAt }).stored
  compared (u : User) : (replace u).compared = [("id", .text u.id.text)]

theorem roundTrip : RoundTrip := by
  refine
    { createSends := fun u ↦ ⟨_, rfl⟩
      updateSends := fun u ↦ ⟨_, rfl⟩
      inserted := ?_
      selected := selectWhere_shows
      listed := selectPage_shows
      changed := stored_updatedBy
      compared := replace_compared }
  have h := ofRow_readsBack ""
  simpa only [Cells.under_empty] using h

end Users

namespace Circles

variable (k : Kind) (lead : String)

def demands : List (String × Demand) :=
  [(lead ++ "id", .nonblank), (lead ++ "slug", .text), (lead ++ "name", .text),
    (lead ++ "created_at", .time), (lead ++ "updated_at", .time)]

theorem ofRow_finds (r : Row) :
    (ofRow k lead r).Finds fun c ↦ r.BearsAll ((insert k c).stored.under lead) := by
  rw [ofRow]
  refine Query.Finds.congr (.bind (.get Cell.text_reads) fun id ↦
    .bind (.get Cell.text_reads) fun slug ↦
    .bind (.get Cell.text_reads) fun name ↦ .bind (.get Cell.time_reads) fun created ↦
    .bind (.get Cell.time_reads) fun updated ↦
    .ofOption ((CircleId.ofText? id).map (Circle.mk · slug name created updated)) ?_ ?_) fun c ↦ ?_
  · intro h
    rw [Option.map_eq_none_iff.mp h]
    exact ⟨_, rfl⟩
  · intro c h
    obtain ⟨i, hi, rfl⟩ := Option.map_eq_some_iff.mp h
    rw [hi]
  simp only [Row.BearsAll, insert_stored, Cells.under, List.map_cons, List.map_nil,
    List.forall_mem_cons, Option.map_eq_some_iff, CircleId.ofText?_eq_some_iff]
  constructor
  · rintro ⟨_, hid, _, hslug, _, hname, _, hcreated, _, hupdated, i, rfl, rfl⟩
    exact ⟨hid, hslug, hname, hcreated, hupdated, by simp⟩
  · rintro ⟨hid, hslug, hname, hcreated, hupdated, -⟩
    exact ⟨_, hid, _, hslug, _, hname, _, hcreated, _, hupdated, c.id, rfl, rfl⟩

theorem exists_bearsAll_iff (r : Row) :
    (∃ c, r.BearsAll ((insert k c).stored.under lead)) ↔ r.Meets (demands lead) := by
  simp only [Row.BearsAll, Row.Meets, insert_stored, demands, Cells.under, List.map_cons,
    List.map_nil, List.forall_mem_cons, Demand.text_isMetBy, Demand.time_isMetBy,
    Demand.nonblank_isMetBy]
  constructor
  · rintro ⟨c, hid, hslug, hname, hcreated, hupdated, -⟩
    exact ⟨⟨_, hid, _, rfl, c.id.text_nonblank⟩, ⟨_, hslug, _, rfl⟩, ⟨_, hname, _, rfl⟩,
      ⟨_, hcreated, _, rfl⟩, ⟨_, hupdated, _, rfl⟩, by simp⟩
  · rintro ⟨⟨_, hid, id, rfl, hblank⟩, ⟨_, hslug, slug, rfl⟩, ⟨_, hname, name, rfl⟩,
      ⟨_, hcreated, created, rfl⟩, ⟨_, hupdated, updated, rfl⟩, -⟩
    exact ⟨⟨⟨id, hblank⟩, slug, name, created, updated⟩, hid, hslug, hname, hcreated, hupdated,
      by simp⟩

theorem ofRow_readsBack :
    ReadsBack (ofRow k lead) (fun c ↦ (insert k c).stored.under lead) (demands lead) := by
  refine .of_finds (ofRow_finds k lead) (exists_bearsAll_iff k lead) (fun c ↦ ?_) fun c ↦ ?_
  · have hnames : columnNames.Nodup := by decide
    exact Cells.under_nodup (insert_stored k c ▸ hnames) lead
  · simp [insert_stored, Cells.under]

structure RoundTrip : Prop where
  createSends (c : Circle) (owner : Option Membership) : ∃ next,
    Store.Server.answer (.createCircle k c owner) = .ask .begin next ∧
      ∀ begun, ∃ next', next (.ok begun) = .ask (insert k c) next' ∧
        ∀ m ∈ owner, ∀ stored, ∃ next'', next' (.ok stored) = .ask (insertMembership k m) next''
  updateSends (c : Circle) : ∃ next, Store.Server.answer (.updateCircle k c) = .ask (replace k c) next
  inserted : ReadsBack (ofRow k "") (fun c ↦ (insert k c).stored) (demands "")
  selected (c : Circle) (condition value : String) :
    (selectWhere k condition value).shows (insert k c).stored = (insert k c).stored
  listed (c : Circle) (l : Listing) : (selectPage k l).shows (insert k c).stored = (insert k c).stored
  changed (old c : Circle) : (insert k old).stored.updatedBy (replace k c) =
    (insert k { c with id := old.id, createdAt := old.createdAt }).stored
  compared (c : Circle) : (replace k c).compared = [("id", .text c.id.text)]

theorem roundTrip : RoundTrip k := by
  refine
    { createSends := fun c owner ↦ ⟨_, rfl, fun begun ↦ ⟨_, rfl, ?_⟩⟩
      updateSends := fun c ↦ ⟨_, rfl⟩
      inserted := ?_
      selected := selectWhere_shows k
      listed := selectPage_shows k
      changed := stored_updatedBy k
      compared := replace_compared k }
  · rintro m rfl stored
    exact ⟨_, rfl⟩
  · have h := ofRow_readsBack k ""
    simpa only [Cells.under_empty] using h

end Circles

namespace Memberships

variable (k : Kind)

def demands : List (String × Demand) :=
  [("user_id", .nonblank), ("container_id", .nonblank), ("perm", .permission),
    ("m_created_at", .time), ("m_updated_at", .time)]

theorem ofRow_finds (r : Row) : (ofRow k r).Finds fun m ↦ r.BearsAll (shownCells m) := by
  rw [ofRow]
  refine Query.Finds.congr (.bind (.get Cell.text_reads) fun user ↦
    .bind (.get Cell.text_reads) fun circle ↦
    .bind (.get Cell.text_reads) fun permission ↦ .bind (.get Cell.time_reads) fun created ↦
    .bind (.get Cell.time_reads) fun updated ↦
    .ofOption (do
      let user ← UserId.ofText? user
      let circle ← CircleId.ofText? circle
      let permission ← Permission.ofName? permission
      return ⟨user, circle, permission, created, updated⟩) ?_ ?_) fun m ↦ ?_
  · cases UserId.ofText? user with
    | none => exact fun _ ↦ ⟨_, rfl⟩
    | some user => cases CircleId.ofText? circle with
      | none => exact fun _ ↦ ⟨_, rfl⟩
      | some circle => cases Permission.ofName? permission with
        | none => exact fun _ ↦ ⟨_, rfl⟩
        | some permission => exact nofun
  · simp only [Option.bind_eq_bind, Option.bind_eq_some_iff]
    rintro m ⟨_, huser, _, hcircle, _, hpermission, hm⟩
    cases hm
    rw [huser, hcircle, hpermission]
  simp only [Row.BearsAll, shownCells, List.forall_mem_cons, Option.bind_eq_bind,
    Option.bind_eq_some_iff, UserId.ofText?_eq_some_iff, CircleId.ofText?_eq_some_iff,
    Permission.ofName?_eq_some_iff]
  constructor
  · rintro ⟨_, huser, _, hcircle, _, hpermission, _, hcreated, _, hupdated, _, rfl, _, rfl, _, rfl,
      hm⟩
    cases hm
    exact ⟨huser, hcircle, hpermission, hcreated, hupdated, by simp⟩
  · rintro ⟨huser, hcircle, hpermission, hcreated, hupdated, -⟩
    exact ⟨_, huser, _, hcircle, _, hpermission, _, hcreated, _, hupdated, _, rfl, _, rfl, _, rfl,
      rfl⟩

theorem exists_bearsAll_iff (r : Row) : (∃ m, r.BearsAll (shownCells m)) ↔ r.Meets demands := by
  simp only [Row.BearsAll, Row.Meets, shownCells, demands, List.forall_mem_cons,
    Demand.time_isMetBy, Demand.permission_isMetBy, Demand.nonblank_isMetBy]
  constructor
  · rintro ⟨m, huser, hcircle, hpermission, hcreated, hupdated, -⟩
    exact ⟨⟨_, huser, _, rfl, m.userId.text_nonblank⟩, ⟨_, hcircle, _, rfl, m.circleId.text_nonblank⟩,
      ⟨_, hpermission, _, rfl⟩, ⟨_, hcreated, _, rfl⟩, ⟨_, hupdated, _, rfl⟩, by simp⟩
  · rintro ⟨⟨_, huser, user, rfl, hblank⟩, ⟨_, hcircle, circle, rfl, hblank'⟩,
      ⟨_, hpermission, permission, rfl⟩, ⟨_, hcreated, created, rfl⟩, ⟨_, hupdated, updated, rfl⟩, -⟩
    exact ⟨⟨⟨user, hblank⟩, ⟨circle, hblank'⟩, permission, created, updated⟩, huser, hcircle,
      hpermission, hcreated, hupdated, by simp⟩

theorem ofRow_readsBack : ReadsBack (ofRow k) shownCells demands := by
  refine .of_finds (ofRow_finds k) exists_bearsAll_iff (fun m ↦ ?_) fun m ↦ ?_
  · exact (show ["user_id", "container_id", "perm", "m_created_at", "m_updated_at"].Nodup by decide)
  · simp [shownCells]

def memberDemands : List (String × Demand) :=
  demands ++ Users.demands "u_" ++ Circles.demands "c_"

theorem memberOfRow_finds (r : Row) :
    (memberOfRow k r).Finds fun m ↦ r.BearsAll (memberCells k m) := by
  rw [memberOfRow]
  refine Query.Finds.congr (.bind (ofRow_finds k r) fun m ↦ .bind (Users.ofRow_finds "u_" r) fun u ↦
    .bind (Circles.ofRow_finds k "c_" r) fun c ↦ .pure (Member.mk m u c)) fun m ↦ ?_
  simp only [Row.BearsAll, memberCells, List.forall_mem_append]
  constructor
  · rintro ⟨m, hm, u, hu, c, hc, rfl⟩
    exact ⟨⟨hm, hu⟩, hc⟩
  · rintro ⟨⟨hm, hu⟩, hc⟩
    exact ⟨_, hm, _, hu, _, hc, rfl⟩

theorem exists_bearsAll_memberCells_iff (r : Row) :
    (∃ m, r.BearsAll (memberCells k m)) ↔ r.Meets memberDemands := by
  have hmembership := exists_bearsAll_iff r
  have huser := Users.exists_bearsAll_iff "u_" r
  have hcircle := Circles.exists_bearsAll_iff k "c_" r
  simp only [Row.BearsAll, Row.Meets, memberCells, memberDemands, List.forall_mem_append] at *
  rw [← hmembership, ← huser, ← hcircle]
  constructor
  · rintro ⟨m, ⟨hm, hu⟩, hc⟩
    exact ⟨⟨⟨_, hm⟩, _, hu⟩, _, hc⟩
  · rintro ⟨⟨⟨m, hm⟩, u, hu⟩, c, hc⟩
    exact ⟨⟨m, u, c⟩, ⟨hm, hu⟩, hc⟩

theorem memberOfRow_readsBack : ReadsBack (memberOfRow k) (memberCells k) memberDemands := by
  refine .of_finds (memberOfRow_finds k) (exists_bearsAll_memberCells_iff k) (fun m ↦ ?_) fun m ↦ ?_
  · have hnames : (memberCells k m).map Prod.fst =
        ["user_id", "container_id", "perm", "m_created_at", "m_updated_at"] ++
          Users.columnNames.map ("u_" ++ ·) ++ Circles.columnNames.map ("c_" ++ ·) := by
      rw [memberCells, Users.insert_stored, Circles.insert_stored]
      rfl
    rw [hnames]
    decide
  · simp [memberCells, shownCells, Users.insert_stored, Circles.insert_stored, Cells.under]

structure RoundTrip : Prop where
  createSends (m : Membership) : ∃ next,
    Store.Server.answer (.insertMembership k m) = .ask (Circles.insertMembership k m) next
  updateSends (user : UserId) (circle : CircleId) (p : Permission) (now : Timestamp) : ∃ next,
    Store.Server.answer (.updatePermission k user circle p now) =
      .ask (setPermission k user circle p) next
  ofPair (user : UserId) (circle : CircleId) :
    ReadsBack (ofRow k)
      (fun m ↦ (selectPair k user circle).shows (Circles.insertMembership k m).stored) demands
  ofPage (v : View) (id : String) (l : Listing) :
    ReadsBack (memberOfRow k) (fun m ↦ (selectPage k v id l).shows (storedCells k m)) memberDemands
  unnamed (m : Membership) (r : Row)
    (hnames : r.columns.map (·.name) = (Circles.insertMembership k m).stored.map Prod.fst) :
    ∃ message, ofRow k r = throw (.storage message)
  changed (m : Membership) (user : UserId) (circle : CircleId) (p : Permission) :
    (Circles.insertMembership k m).stored.updatedBy (setPermission k user circle p) =
      (Circles.insertMembership k { m with permission := p }).stored
  compared (user : UserId) (circle : CircleId) (p : Permission) :
    (setPermission k user circle p).compared =
      [("user_id", .text user.text), (column k, .text circle.text)]

theorem roundTrip : RoundTrip k := by
  refine
    { createSends := fun m ↦ ⟨_, rfl⟩
      updateSends := fun user circle p now ↦ ⟨_, rfl⟩
      ofPair := fun user circle ↦ ?_
      ofPage := fun v id l ↦ ?_
      unnamed := fun m r hnames ↦ ?_
      changed := stored_updatedBy k
      compared := setPermission_compared k }
  · simp only [selectPair_shows]
    exact ofRow_readsBack k
  · simp only [selectPage_shows]
    exact memberOfRow_readsBack k
  -- The insertion has no column that is named as the id of the circle is read.
  · refine (ofRow_readsBack k).refused r fun h ↦ ?_
    obtain ⟨v, hv, -⟩ := h ("container_id", .nonblank) (by simp [demands])
    have hmem := hv.mem_columns
    rw [hnames, insert_stored] at hmem
    cases k <;> simp [column, Kind.name] at hmem

end Memberships

/-- What is written of users, circles and memberships is what is read back, by itself or joined, and
an update puts each value in the column that it is read from. Whatever else is in a row, a record is
read only if the row has all that it asks for; otherwise the storage fails. -/
theorem written_reads_back (k : Kind) :
    Users.RoundTrip ∧ Circles.RoundTrip k ∧ Memberships.RoundTrip k :=
  ⟨Users.roundTrip, Circles.roundTrip k, Memberships.roundTrip k⟩

example : Circles.ofRow .team "" (Cells.row [("id", .text " "), ("slug", .text "core"),
      ("name", .text "Core"), ("created_at", .time ⟨0, 0⟩), ("updated_at", .time ⟨0, 0⟩)]) =
    throw (.storage "Invalid team ID in database: cannot be blank") := rfl

theorem Memberships.insertion_names_not_read :
    let m : Membership := .new ⟨"u-1", by decide⟩ ⟨"g-1", by decide⟩ .user ⟨0, 0⟩
    let r := (Circles.insertMembership .group m).stored.row
    r.columns.map (·.name) = ["user_id", "group_id", "perm", "created_at", "updated_at"] ∧
      ofRow .group r ≠ pure m ∧
      ofRow .group r =
        throw (.storage "Failed to read membership row: no column found for name: container_id") := by
  intro m r
  have hr : r = Cells.row [("user_id", .text "u-1"), ("group_id", .text "g-1"),
      ("perm", .text "user"), ("created_at", .time ⟨0, 0⟩), ("updated_at", .time ⟨0, 0⟩)] :=
    congrArg Cells.row (insert_stored .group m)
  have hread : ofRow .group r =
      throw (.storage "Failed to read membership row: no column found for name: container_id") := by
    rw [hr]
    rfl
  refine ⟨by rw [hr]; rfl, ?_, hread⟩
  rw [hread]
  exact Query.throw_ne_pure _ m

end Roster.Sql
