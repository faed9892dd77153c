import Roster.Proofs.Listing.Collection

namespace Roster.Collection

open Store (Tables)

variable {t t' : Tables} (c : Collection) (l : Listing)

theorem mem_arranged (ht : t.Integrity) {a : c.Record} :
    a ∈ c.arranged t l ↔ c.Holds t a ∧ c.isMatch l a = true := by
  rw [arranged, Listing.mem_arranged, mem_contents ht]

theorem arranged_nodup (ht : t.Integrity) : (c.arranged t l).Nodup :=
  Listing.arranged_nodup (contents_nodup ht c)

theorem arranged_rearranged (ht : t.Integrity) (h : t.Rearranged t') :
    c.arranged t' l = c.arranged t l := by
  refine Listing.arranged_of_perm (contents_perm ht h c) fun a ha b hb hab ↦ ?_
  exact eq_of_key_eq ht ((mem_contents ht).mp ha) ((mem_contents ht).mp hb)
    (compare_eq_eq.mp hab).2

theorem arranged_pairwise (t : Tables) :
    (c.arranged t l).Pairwise fun a b ↦ (c.compare l a b).isLE = true :=
  Listing.arranged_pairwise

theorem arranged_pairwise_column (t : Tables) :
    (c.arranged t l).Pairwise fun a b ↦ (l.order.apply (c.column l a b)).isLE = true := by
  refine (c.arranged_pairwise l t).imp fun {a b} h ↦ ?_
  rw [compare, SortOrder.apply_then, Ordering.isLE_then_iff_and] at h
  exact h.1

/-- The pages of one size, as many as it takes, are together the whole arrangement. -/
theorem mapM_page_window (t : Tables) (limit n : Nat) (hn : (c.arranged t l).length ≤ n * limit) :
    ∃ pages, (List.range n).mapM (fun i ↦ c.page t (l.window limit (i * limit))) = .ok pages ∧
      pages.flatMap (·.records) = c.arranged t l := by
  simp only [page_window]
  refine ⟨_, List.mapM_pure, ?_⟩
  rw [List.flatMap_map, Listing.flatMap_extract, List.take_of_length_le hn]

/-- Every list has one arrangement of what it holds and matches, each record once and sorted as is
asked for. In whatever order the tables are visited, a page is a stretch of it, and its length is
the total; pages of one size that reach its end are together the arrangement. -/
theorem pages_cut_one_arrangement (ht : t.Reachable) :
    ∃ arrangement : List c.Record,
      arrangement.Nodup ∧
      (∀ a, a ∈ arrangement ↔ c.Holds t a ∧ c.isMatch l a = true) ∧
      arrangement.Pairwise (fun a b ↦ (l.order.apply (c.column l a b)).isLE = true) ∧
      ∀ t', t.Rearranged t' →
        (∀ limit offset, c.page t' (l.window limit offset) =
          .ok ⟨arrangement.extract offset (offset + limit), arrangement.length⟩) ∧
        ∀ limit n, arrangement.length ≤ n * limit → ∃ pages,
          (List.range n).mapM (fun i ↦ c.page t' (l.window limit (i * limit))) = .ok pages ∧
            pages.flatMap (·.records) = arrangement := by
  refine ⟨c.arranged t l, c.arranged_nodup l ht.integrity, fun a ↦ c.mem_arranged l ht.integrity,
    c.arranged_pairwise_column l t, fun t' ht' ↦ ?_⟩
  rw [← c.arranged_rearranged l ht.integrity ht']
  exact ⟨c.page_window t' l, c.mapM_page_window l t'⟩

theorem pages_cut_one_arrangement_of_equals :
    let ada : User := .new ⟨"a", by decide⟩ ⟨0, 0⟩ "ada" "ada@example.org" "h"
    let bob : User := .new ⟨"b", by decide⟩ ⟨0, 0⟩ "bob" "bob@example.org" "h"
    let t := Tables.empty.after [.createUser ada, .createUser bob]
    let l : Listing := ⟨"", some "active", .asc, 1, 0⟩
    t.Reachable ∧ ∃ arrangement : List User,
      arrangement.Nodup ∧
      (∀ a, a ∈ arrangement ↔ users.Holds t a ∧ users.isMatch l a = true) ∧
      arrangement.Pairwise (fun a b ↦ (l.order.apply (users.column l a b)).isLE = true) ∧
      ∀ t', t.Rearranged t' →
        (∀ limit offset, users.page t' (l.window limit offset) =
          .ok ⟨arrangement.extract offset (offset + limit), arrangement.length⟩) ∧
        ∀ limit n, arrangement.length ≤ n * limit → ∃ pages,
          (List.range n).mapM (fun i ↦ users.page t' (l.window limit (i * limit))) = .ok pages ∧
            pages.flatMap (·.records) = arrangement := by
  intro ada bob t l
  have ht : t.Reachable :=
    ⟨[.createUser ada, .createUser bob], by simp [Store.Call.OwnerFits], rfl⟩
  exact ⟨ht, pages_cut_one_arrangement users l ht⟩

end Roster.Collection
