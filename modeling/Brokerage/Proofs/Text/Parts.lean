import Brokerage.Text.Parts

/-!
# Parts of a text

Where a text is cut depends on its separators alone. None of them is inside a part of it
(`not_mem_of_mem_splitOn`), and a text without any goes on with the last part
(`exists_splitOn_append`). Cut once, a text is what it was cut into and the separator between
(`of_cut_eq_some`).
-/

namespace Brokerage.Text

variable {α : Type} {a : α} {as bs : List α}

/-! ### All separators -/

/-- A part holds no separator. -/
theorem of_mem_splitOnP {sep : α → Bool} (part : bs ∈ as.splitOnP sep) :
    ∀ b ∈ bs, sep b = false := by
  induction as generalizing bs with
  | nil =>
    rw [List.splitOnP_nil, List.mem_singleton] at part
    rw [part]
    exact nofun
  | cons a as ih =>
    rw [List.splitOnP_cons_eq_if_modifyHead] at part
    split at part
    · rcases List.mem_cons.mp part with rfl | later
      · exact nofun
      · exact ih later
    · next plain =>
      -- `a` has gone to the front of the first of the other parts
      obtain ⟨first, rest, parts⟩ := List.exists_cons_of_ne_nil (List.splitOnP_ne_nil sep as)
      rw [parts, List.modifyHead_cons, List.mem_cons] at part
      rcases part with rfl | later
      · have inside := ih (parts ▸ List.mem_cons_self)
        exact List.forall_mem_cons.mpr ⟨Bool.eq_false_iff.mpr plain, inside⟩
      · exact ih (parts ▸ List.mem_cons_of_mem _ later)

theorem not_mem_of_mem_splitOn [BEq α] [ReflBEq α] (part : bs ∈ as.splitOn a) : a ∉ bs := by
  intro there
  rw [List.splitOn_eq_splitOnP] at part
  have apart := of_mem_splitOnP part a there
  rw [beq_self_eq_true] at apart
  cases apart

/-- What holds no separator makes the last part longer. -/
theorem exists_splitOn_append [BEq α] [LawfulBEq α] (absent : a ∉ bs) (as : List α) :
    ∃ front last, as.splitOn a = front ++ [last] ∧
      (as ++ bs).splitOn a = front ++ [last ++ bs] := by
  induction as with
  | nil => exact ⟨[], [], rfl, List.splitOn_eq_singleton absent⟩
  | cons c as ih =>
    obtain ⟨front, last, parts, longer⟩ := ih
    rw [List.cons_append, List.splitOn_cons_eq_if_modifyHead,
      List.splitOn_cons_eq_if_modifyHead, parts, longer]
    split
    · exact ⟨[] :: front, last, rfl, rfl⟩
    · cases front with
      | nil => exact ⟨[], c :: last, rfl, rfl⟩
      | cons part front => exact ⟨(c :: part) :: front, last, rfl, rfl⟩

/-! ### The first separator -/

theorem cut_of_not_mem [DecidableEq α] (absent : a ∉ as) : cut a as = (as, none) := by
  induction as with
  | nil => rfl
  | cons b as ih =>
    rw [List.mem_cons, not_or] at absent
    rw [cut, if_neg (Ne.symm absent.1), ih absent.2]

/-- A text is cut at the first separator. -/
theorem cut_append_cons [DecidableEq α] (absent : a ∉ bs) (as : List α) :
    cut a (bs ++ a :: as) = (bs, some as) := by
  induction bs with
  | nil => rw [List.nil_append, cut, if_pos rfl]
  | cons b bs ih =>
    rw [List.mem_cons, not_or] at absent
    rw [List.cons_append, cut, if_neg (Ne.symm absent.1), ih absent.2]

/-- What a text was cut into are its parts in front of the first separator and behind it. -/
theorem of_cut_eq_some [DecidableEq α] {front back : List α}
    (split : cut a as = (front, some back)) : a ∉ front ∧ as = front ++ a :: back := by
  by_cases there : a ∈ as
  · obtain ⟨bs, cs, rfl, absent⟩ := List.eq_append_cons_of_mem there
    rw [cut_append_cons absent] at split
    cases split
    exact ⟨absent, rfl⟩
  · rw [cut_of_not_mem there] at split
    cases split

end Brokerage.Text
