/-!
# Lists of entries under keys

What is found in a list of entries when one is put in front or all under a key are taken out. Tables
and trees of files are such lists.
-/

namespace Brokerage

variable {α β : Type} [DecidableEq α] [BEq α] [LawfulBEq α]

theorem lookup_cons (key other : α) (b : β) (entries : List (α × β)) :
    ((key, b) :: entries).lookup other = if other = key then some b else entries.lookup other := by
  rw [List.lookup_cons]
  by_cases same : other = key
  · rw [if_pos same, beq_iff_eq.mpr same]
  · rw [if_neg same, beq_false_of_ne same]

theorem lookup_filter_ne (key other : α) (entries : List (α × β)) :
    (entries.filter (fun entry => entry.1 != key)).lookup other =
      if other = key then none else entries.lookup other := by
  induction entries with
  | nil => simp
  | cons entry rest ih =>
    obtain ⟨k, b⟩ := entry
    rw [List.filter_cons, lookup_cons]
    by_cases gone : k = key
    · subst gone
      rw [if_neg (by simp), ih]
      split <;> rfl
    · rw [if_pos (by simpa using gone), lookup_cons, ih]
      by_cases here : other = k
      · rw [if_pos here, if_pos here, if_neg (here ▸ gone)]
      · rw [if_neg here, if_neg here]

end Brokerage
