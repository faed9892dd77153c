import Roster.Listing
import Mathlib.Data.List.Nodup

namespace Roster

open Std (OrientedCmp TransCmp)

section Comparisons

variable {α β : Type} {cmp : α → α → Ordering}

theorem SortOrder.apply_transCmp (o : SortOrder) [TransCmp cmp] :
    TransCmp fun a b ↦ o.apply (cmp a b) := by
  cases o with
  | asc => assumption
  | desc =>
    have hswap : (fun a b ↦ (cmp a b).swap) = fun a b ↦ cmp b a := by
      funext a b
      exact OrientedCmp.eq_swap.symm
    exact hswap ▸ TransCmp.opposite

theorem SortOrder.apply_eq_eq {o : SortOrder} {c : Ordering} : o.apply c = .eq ↔ c = .eq := by
  cases o <;> cases c <;> decide

theorem SortOrder.apply_then (o : SortOrder) (c c' : Ordering) :
    o.apply (c.then c') = (o.apply c).then (o.apply c') := by
  cases o with
  | asc => rfl
  | desc => exact Ordering.swap_then c c'

theorem transCmp_on (f : β → α) (h : TransCmp cmp) : TransCmp fun a b ↦ cmp (f a) (f b) where
  eq_swap := h.eq_swap
  isLE_trans := h.isLE_trans

end Comparisons

namespace Listing

variable {α : Type} {isMatch : α → Bool} {compare : α → α → Ordering} {records records' : List α}

def window (l : Listing) (limit offset : Nat) : Listing :=
  { l with limit := limit, offset := offset }

def arranged (isMatch : α → Bool) (compare : α → α → Ordering) (records : List α) : List α :=
  (records.filter isMatch).mergeSort fun a b ↦ (compare a b).isLE

theorem arranged_perm : (arranged isMatch compare records).Perm (records.filter isMatch) :=
  List.mergeSort_perm ..

theorem mem_arranged {a : α} :
    a ∈ arranged isMatch compare records ↔ a ∈ records ∧ isMatch a = true :=
  arranged_perm.mem_iff.trans List.mem_filter

theorem arranged_nodup (h : records.Nodup) : (arranged isMatch compare records).Nodup :=
  arranged_perm.nodup_iff.mpr (h.filter _)

/-- A page holds the positions from the offset on, as many as the limit says. -/
theorem page_eq (l : Listing) (isMatch : α → Bool) (compare : α → α → Ordering)
    (records : List α) :
    l.page isMatch compare records =
      ⟨(arranged isMatch compare records).extract l.offset (l.offset + l.limit),
        (arranged isMatch compare records).length⟩ := by
  rw [List.extract_eq_take_drop, Nat.add_sub_cancel_left, arranged_perm.length_eq]
  rfl

theorem arranged_pairwise [TransCmp compare] :
    (arranged isMatch compare records).Pairwise fun a b ↦ (compare a b).isLE = true := by
  refine List.pairwise_mergeSort (fun a b c ↦ TransCmp.isLE_trans) (fun a b ↦ ?_) _
  have hswap : compare b a = (compare a b).swap := OrientedCmp.eq_swap
  rw [hswap]
  cases compare a b <;> rfl

/-- If no two records compare as equal, the arrangement does not depend on the order in which they
come. -/
theorem arranged_of_perm [TransCmp compare] (hperm : records.Perm records')
    (hinj : ∀ a ∈ records, ∀ b ∈ records, compare a b = .eq → a = b) :
    arranged isMatch compare records' = arranged isMatch compare records := by
  have hrearranged : (arranged isMatch compare records').Perm
      (arranged isMatch compare records) :=
    arranged_perm.trans ((hperm.symm.filter isMatch).trans arranged_perm.symm)
  refine hrearranged.eq_of_pairwise (fun a b ha hb hab hba ↦ ?_) arranged_pairwise
    arranged_pairwise
  have ha' := (mem_arranged.mp (hrearranged.mem_iff.mp ha)).1
  exact hinj a ha' b (mem_arranged.mp hb).1 (OrientedCmp.isLE_antisymm hab hba)

/-- Pages of equal size, one after the other, are the beginning of the list. -/
theorem flatMap_extract (a : List α) (limit n : Nat) :
    (List.range n).flatMap (fun i ↦ a.extract (i * limit) (i * limit + limit)) =
      a.take (n * limit) := by
  induction n with
  | zero => simp
  | succ n ih =>
    rw [List.range_succ, List.flatMap_append, ih, List.flatMap_singleton,
      List.extract_eq_take_drop, Nat.add_sub_cancel_left, ← List.take_add, Nat.succ_mul]

end Listing

end Roster
