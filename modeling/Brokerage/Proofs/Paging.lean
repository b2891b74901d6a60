import Brokerage.Page
import Mathlib.Algebra.Order.Floor.Div

/-!
# Page after page

Two numbers of 32 bits have a product of 64 bits, so a page says that items come after it exactly if
its number times its size is less than the number of all items (`hasNext_iff`). Hence a caller who
starts with page 1 and goes on as long as a page says so (`Visit`) gets each item once and in order,
and stops at the last page (`Serves.exists_visit`).
-/

namespace Brokerage.Page

variable {α : Type} {items : List α} {perPage n : UInt32} {serve : UInt32 → Page α}
  {pages pages' : List (Page α)}

/-! ### The next page -/

theorem mul_lt (a b : UInt32) : a.toNat * b.toNat < 2 ^ 64 :=
  calc a.toNat * b.toNat < 2 ^ 32 * 2 ^ 32 := Nat.mul_lt_mul_of_lt_of_lt a.toNat_lt b.toNat_lt
    _ = 2 ^ 64 := by decide

/-- The product is never cut off. -/
theorem toNat_mul (a b : UInt32) : (a.toUInt64 * b.toUInt64).toNat = a.toNat * b.toNat := by
  rw [UInt64.toNat_mul, UInt32.toNat_toUInt64, UInt32.toNat_toUInt64]
  exact Nat.mod_eq_of_lt (mul_lt a b)

/-- **Items come after a page exactly if the pages up to it hold less than all.** -/
theorem hasNext_iff (p : Page α) :
    p.hasNext = true ↔ p.page.toNat * p.perPage.toNat < p.total.toNat := by
  rw [hasNext, decide_eq_true_iff, UInt64.lt_iff_toNat_lt, toNat_mul]

/-! ### Asking for all pages -/

/-- What a caller gets who asks for page `n`, and for the next one as long as there is one. -/
inductive Visit (serve : UInt32 → Page α) : UInt32 → List (Page α) → Prop where
  | last {n : UInt32} (ended : (serve n).hasNext = false) : Visit serve n [serve n]
  | more {n : UInt32} {pages : List (Page α)} (goesOn : (serve n).hasNext = true)
      (rest : Visit serve (n + 1) pages) : Visit serve n (serve n :: pages)

/-- A caller gets nothing else. -/
theorem Visit.unique (visit : Visit serve n pages) (visit' : Visit serve n pages') :
    pages' = pages := by
  induction visit generalizing pages' with
  | last ended =>
    cases visit' with
    | last => rfl
    | more goesOn => exact absurd (ended.symm.trans goesOn) Bool.false_ne_true
  | more goesOn rest ih =>
    cases visit' with
    | last ended => exact absurd (ended.symm.trans goesOn) Bool.false_ne_true
    | more _ rest' => rw [ih rest']

/-- A backend that has these items: each page has those up to its number times its size, without
those of the pages in front of it. -/
structure Serves (items : List α) (perPage : UInt32) (serve : UInt32 → Page α) : Prop where
  slice : ∀ n, 1 ≤ n → (serve n).items =
    (items.take (n.toNat * perPage.toNat)).drop ((n.toNat - 1) * perPage.toNat)
  total : ∀ n, 1 ≤ n → (serve n).total.toNat = items.length
  page : ∀ n, 1 ≤ n → (serve n).page = n ∧ (serve n).perPage = perPage

/-- How many pages there are to be asked for: the first one is, even if it is empty. -/
def count (total perPage : Nat) : Nat := max 1 (total ⌈/⌉ perPage)

theorem lt_count_iff {total perPage n : Nat} (positive : 0 < perPage) (start : 1 ≤ n) :
    n < count total perPage ↔ n * perPage < total := by
  have le : total ⌈/⌉ perPage ≤ n ↔ total ≤ perPage * n := ceilDiv_le_iff_le_mul positive
  rw [Nat.mul_comm] at le
  rw [count]
  omega

/-- There is a page after page `n` exactly if it is not the last one. -/
theorem Serves.hasNext_iff (serves : Serves items perPage serve) (positive : 0 < perPage.toNat)
    (start : 1 ≤ n) :
    (serve n).hasNext = true ↔ n.toNat < count items.length perPage.toNat := by
  obtain ⟨page, size⟩ := serves.page n start
  rw [Page.hasNext_iff, page, size, serves.total n start,
    lt_count_iff positive (UInt32.le_iff_toNat_le.mp start)]

/-- The items of a page and those behind it are all but those in front of it. -/
theorem Serves.items_append (serves : Serves items perPage serve) (start : 1 ≤ n) :
    (serve n).items ++ items.drop (n.toNat * perPage.toNat) =
      items.drop ((n.toNat - 1) * perPage.toNat) := by
  have before : (n.toNat - 1) * perPage.toNat ≤ n.toNat * perPage.toNat :=
    Nat.mul_le_mul_right _ (Nat.sub_le _ _)
  have size : n.toNat * perPage.toNat =
      (n.toNat - 1) * perPage.toNat +
        (n.toNat * perPage.toNat - (n.toNat - 1) * perPage.toNat) := by
    omega
  rw [serves.slice n start, List.drop_take]
  conv_lhs => rw [size, ← List.drop_drop]
  rw [Nat.add_sub_cancel_left]
  exact List.take_append_drop _ _

/-- The number of the page after one that is not the last of those that can be asked for. -/
theorem toNat_succ {n : UInt32} {count : Nat} (below : n.toNat < count) (fits : count < 2 ^ 32) :
    (n + 1).toNat = n.toNat + 1 := by
  rw [UInt32.toNat_add]
  exact Nat.mod_eq_of_lt (Nat.lt_of_le_of_lt below fits)

/-- From page `n` on, a caller gets the items that are not in front of it, on all pages from
there to the last one. -/
theorem Serves.exists_visit_from (serves : Serves items perPage serve)
    (positive : 0 < perPage.toNat)
    (fits : count items.length perPage.toNat < 2 ^ 32) (m : Nat) (start : 1 ≤ n)
    (left : n.toNat + m = count items.length perPage.toNat) :
    ∃ pages, Visit serve n pages ∧ pages.map (·.page.toNat) = List.range' n.toNat (m + 1) ∧
      pages.flatMap (·.items) = items.drop ((n.toNat - 1) * perPage.toNat) := by
  -- on the number of pages behind page `n`
  induction m generalizing n with
  | zero =>
    have noNext : ¬ (serve n).hasNext = true := by
      rw [serves.hasNext_iff positive start]
      omega
    refine ⟨[serve n], .last (Bool.eq_false_iff.mpr noNext), ?_, ?_⟩
    · rw [List.map_singleton, (serves.page n start).1]
      rfl
    · have all : items.length ≤ n.toNat * perPage.toNat := by
        have last : ¬ n.toNat < count items.length perPage.toNat ↔
            ¬ n.toNat * perPage.toNat < items.length :=
          (lt_count_iff positive (UInt32.le_iff_toNat_le.mp start)).not
        omega
      have behind := serves.items_append start
      rwa [List.drop_of_length_le all, List.append_nil,
        ← List.flatMap_singleton Page.items] at behind
  | succ m ih =>
    have below : n.toNat < count items.length perPage.toNat := by omega
    have next := toNat_succ below fits
    have later : 1 ≤ n + 1 := by
      rw [UInt32.le_iff_toNat_le, next]
      exact Nat.succ_le_succ (Nat.zero_le _)
    obtain ⟨pages, visit, asked, found⟩ := ih later (by omega)
    refine ⟨serve n :: pages, .more ((serves.hasNext_iff positive start).mpr below) visit, ?_, ?_⟩
    · rw [List.map_cons, asked, (serves.page n start).1, next]
      rfl
    · rw [List.flatMap_cons, found, next, Nat.add_sub_cancel]
      exact serves.items_append start

/-- **Paging.** Whatever the numbers on a page are, the product that is compared is not cut off, and
items come after the page exactly if it is less than the number of all items. So a caller who asks a
backend for its items, page after page from the first one on as long as there is a next one, asks
for each page once, gets each item once and in order, and gets nothing else; provided that the
pages can be numbered at all. -/
theorem paging :
    (∀ p : Page α, p.page.toNat * p.perPage.toNat < 2 ^ 64 ∧
      (p.page.toUInt64 * p.perPage.toUInt64).toNat = p.page.toNat * p.perPage.toNat ∧
      (p.hasNext = true ↔ p.page.toNat * p.perPage.toNat < p.total.toNat)) ∧
    ∀ (items : List α) (perPage : UInt32) (serve : UInt32 → Page α), 1 ≤ perPage →
      items.length ⌈/⌉ perPage.toNat < 2 ^ 32 → Serves items perPage serve →
      ∃ pages, (∀ pages', Visit serve 1 pages' ↔ pages' = pages) ∧
        pages.length = max 1 (items.length ⌈/⌉ perPage.toNat) ∧
        pages.map (·.page.toNat) = List.range' 1 pages.length ∧
        pages.flatMap (·.items) = items := by
  refine ⟨fun p => ⟨mul_lt _ _, toNat_mul _ _, hasNext_iff p⟩, ?_⟩
  intro items perPage serve size fits serves
  have positive : 0 < perPage.toNat := UInt32.le_iff_toNat_le.mp size
  have fits : count items.length perPage.toNat < 2 ^ 32 := max_lt (by decide) fits
  have first : (1 : UInt32).toNat + (count items.length perPage.toNat - 1) =
      count items.length perPage.toNat := Nat.add_sub_cancel' (Nat.le_max_left 1 _)
  obtain ⟨pages, visit, asked, found⟩ := serves.exists_visit_from positive fits _ (le_refl 1) first
  have length : pages.length = count items.length perPage.toNat := by
    rw [← List.length_map (·.page.toNat), asked, List.length_range']
    exact (Nat.add_comm _ _).trans first
  refine ⟨pages, fun pages' => ⟨visit.unique, ?_⟩, length, ?_, ?_⟩
  · rintro rfl
    exact visit
  · rw [asked, length]
    congr 1
    have one : (1 : UInt32).toNat = 1 := rfl
    omega
  · simpa using found

namespace Sample

/-- Seven items, three on a page. -/
def sevenItems (n : UInt32) : Page Nat where
  items := ([0, 1, 2, 3, 4, 5, 6].take (n.toNat * 3)).drop ((n.toNat - 1) * 3)
  total := 7
  page := n
  perPage := 3

end Sample

/-- Seven items come on three pages, of which the last one is short. -/
theorem paging_short :
    (1 : UInt32) ≤ 3 ∧ [0, 1, 2, 3, 4, 5, 6].length ⌈/⌉ (3 : UInt32).toNat < 2 ^ 32 ∧
    Serves [0, 1, 2, 3, 4, 5, 6] 3 Sample.sevenItems ∧
    ∃ pages, (∀ pages', Visit Sample.sevenItems 1 pages' ↔ pages' = pages) ∧ pages.length = 3 ∧
      pages.map (·.page.toNat) = [1, 2, 3] ∧ pages.flatMap (·.items) = [0, 1, 2, 3, 4, 5, 6] := by
  have serves : Serves [0, 1, 2, 3, 4, 5, 6] 3 Sample.sevenItems :=
    ⟨fun n _ => rfl, fun n _ => rfl, fun n _ => ⟨rfl, rfl⟩⟩
  have fits : [0, 1, 2, 3, 4, 5, 6].length ⌈/⌉ (3 : UInt32).toNat < 2 ^ 32 := by decide
  obtain ⟨pages, all, length, asked, found⟩ :=
    paging.2 [0, 1, 2, 3, 4, 5, 6] 3 Sample.sevenItems (by decide) fits serves
  have three : pages.length = 3 := length
  rw [three] at asked
  exact ⟨by decide, fits, serves, pages, all, three, asked, found⟩

end Brokerage.Page
