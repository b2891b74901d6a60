import Brokerage.Text.Blank
import Mathlib.Data.List.DropRight
import Mathlib.Data.List.TakeWhile

/-!
# Blanks around a text

Trimming takes blanks away from both ends of a text and nothing else (`exists_eq_append_stripBy`),
and it goes on until a character at either end is none (`ends_stripBy`). So there is nothing left
to trim of what was trimmed (`trim_trim`), blanks that are put around a text make no difference
(`stripBy_padded`), and nothing is left of a text exactly if it is all blanks
(`trim_eq_empty_iff`).
-/

namespace Brokerage.Text

variable {p : Char → Bool} {c : Char} {cs : List Char}

/-- No character that `p` holds of is at either end. -/
def Ends (p : Char → Bool) (cs : List Char) : Prop :=
  (∀ c ∈ cs.head?, p c = false) ∧ ∀ c ∈ cs.getLast?, p c = false

/-! ### What is taken away -/

theorem stripBy_eq (p : Char → Bool) (cs : List Char) :
    stripBy p cs = (cs.dropWhile p).rdropWhile p := rfl

/-- What is at the front is taken away first. -/
theorem stripBy_cons (here : p c = true) (cs : List Char) : stripBy p (c :: cs) = stripBy p cs := by
  rw [stripBy, List.dropWhile_cons_of_pos here, stripBy]

/-- So is what is at the back. -/
theorem stripBy_concat (here : p c = true) (cs : List Char) :
    stripBy p (cs ++ [c]) = stripBy p cs := by
  rw [stripBy_eq, stripBy_eq, List.dropWhile_append]
  split
  · next empty =>
    rw [List.isEmpty_iff.mp empty, List.dropWhile_cons_of_pos here, List.dropWhile_nil]
  · exact List.rdropWhile_concat_pos p _ c here

/-- **What is put around a text is taken away again.** -/
theorem stripBy_padded {front back : List Char} (inFront : ∀ c ∈ front, p c = true)
    (inBack : ∀ c ∈ back, p c = true) (cs : List Char) :
    stripBy p (front ++ cs ++ back) = stripBy p cs := by
  induction back using List.reverseRecOn with
  | nil =>
    rw [List.append_nil]
    induction front with
    | nil => rfl
    | cons c front ih =>
      rw [List.cons_append, stripBy_cons (inFront c List.mem_cons_self)]
      exact ih fun d there => inFront d (List.mem_cons_of_mem _ there)
  | append_singleton back c ih =>
    rw [← List.append_assoc, stripBy_concat (inBack c (by simp))]
    exact ih fun d there => inBack d (List.mem_append_left _ there)

/-- **Nothing is taken away but what `p` holds of**, and that at the ends. -/
theorem exists_eq_append_stripBy (p : Char → Bool) (cs : List Char) :
    ∃ front back, cs = front ++ stripBy p cs ++ back ∧ (∀ c ∈ front, p c = true) ∧
      ∀ c ∈ back, p c = true := by
  refine ⟨cs.takeWhile p, (cs.dropWhile p).rtakeWhile p, ?_, ?_, ?_⟩
  · rw [stripBy_eq, List.append_assoc, List.rdropWhile_append_rtakeWhile,
      List.takeWhile_append_dropWhile]
  · intro c there
    exact List.mem_takeWhile_imp there
  · intro c there
    exact List.mem_rtakeWhile_imp there

/-- What is left was there before. -/
theorem mem_of_mem_stripBy (there : c ∈ stripBy p cs) : c ∈ cs := by
  obtain ⟨front, back, whole, -, -⟩ := exists_eq_append_stripBy p cs
  rw [whole]
  exact List.mem_append_left _ (List.mem_append_right _ there)

/-- **It goes on to the first character on either side that `p` does not hold of.** -/
theorem ends_stripBy (p : Char → Bool) (cs : List Char) : Ends p (stripBy p cs) := by
  constructor
  · intro c first
    -- the first character that is left is the first one behind those at the front
    obtain ⟨back, whole⟩ : stripBy p cs <+: cs.dropWhile p := List.rdropWhile_prefix p _
    rw [Option.mem_def, List.head?_eq_some_iff] at first
    obtain ⟨rest, left⟩ := first
    have head : (cs.dropWhile p).head? = some c := by
      rw [← whole, left]
      rfl
    have stops := List.head?_dropWhile_not p cs
    rw [head] at stops
    exact Bool.eq_false_iff.mpr (by simpa using stops)
  · intro c last
    rw [Option.mem_def, stripBy, List.getLast?_reverse] at last
    have stops := List.head?_dropWhile_not p (cs.dropWhile p).reverse
    rw [last] at stops
    exact Bool.eq_false_iff.mpr (by simpa using stops)

/-! ### What is left -/

/-- Nothing is taken away where `p` holds of no end. -/
theorem stripBy_of_ends (ends : Ends p cs) : stripBy p cs = cs := by
  have front : cs.dropWhile p = cs := by
    cases cs with
    | nil => rfl
    | cons c rest => rw [List.dropWhile_cons_of_neg (by simp [ends.1 c rfl])]
  have back : cs.reverse.dropWhile p = cs.reverse := by
    cases reversed : cs.reverse with
    | nil => rfl
    | cons c rest =>
      have last : cs.getLast? = some c := by
        rw [← List.head?_reverse, reversed]
        rfl
      rw [List.dropWhile_cons_of_neg (by simp [ends.2 c last])]
  rw [stripBy, front, back, List.reverse_reverse]

/-- Behind what is taken away from the front, a text stays that starts and ends with another
character. -/
theorem stripBy_append {back : List Char} (filled : back ≠ []) (ends : Ends p back)
    (front : List Char) : stripBy p (front ++ back) = front.dropWhile p ++ back := by
  induction front with
  | nil => exact stripBy_of_ends ends
  | cons c front ih =>
    by_cases here : p c = true
    · rw [List.cons_append, stripBy_cons here, ih, List.dropWhile_cons_of_pos here]
    · rw [List.dropWhile_cons_of_neg here]
      refine stripBy_of_ends ⟨?_, ?_⟩
      · rintro _ ⟨⟩
        exact Bool.eq_false_iff.mpr here
      · rw [List.getLast?_append_of_ne_nil _ filled]
        exact ends.2

theorem stripBy_of_none (kept : ∀ c ∈ cs, p c = false) : stripBy p cs = cs :=
  stripBy_of_ends ⟨fun c first => kept c (List.mem_of_head? first),
    fun c last => kept c (List.mem_of_getLast? last)⟩

theorem stripBy_eq_nil_iff : stripBy p cs = [] ↔ ∀ c ∈ cs, p c = true := by
  constructor
  · intro nothing c there
    obtain ⟨front, back, whole, inFront, inBack⟩ := exists_eq_append_stripBy p cs
    rw [nothing, List.append_nil] at whole
    rw [whole] at there
    rcases List.mem_append.mp there with first | last
    · exact inFront c first
    · exact inBack c last
  · intro all
    rw [stripBy_eq, List.dropWhile_eq_nil_iff.mpr all, List.rdropWhile_nil]

/-! ### Trimmed texts -/

theorem toList_trim (s : String) : (trim s).toList = stripBy isBlank s.toList := by
  rw [trim, String.toList_ofList]

/-- A text that starts and ends with no blank is left as it is. -/
theorem trim_of_ends {s : String} (ends : Ends isBlank s.toList) : trim s = s := by
  rw [trim, stripBy_of_ends ends, String.ofList_toList]

/-- **Of what was trimmed there is nothing left to trim.** -/
theorem trim_trim (s : String) : trim (trim s) = trim s := by
  refine trim_of_ends ?_
  rw [toList_trim]
  exact ends_stripBy isBlank s.toList

/-- A text that is all blanks. The empty text is one. -/
def Blank (s : String) : Prop := ∀ c ∈ s.toList, isBlank c = true

-- the characters of the text are looked at, not all that there are
instance (s : String) : Decidable (Blank s) := List.decidableBAll _ s.toList

/-- **Nothing is left of a text exactly if it is all blanks.** -/
theorem trim_eq_empty_iff {s : String} : trim s = "" ↔ Blank s := by
  rw [← String.toList_inj, toList_trim]
  exact stripBy_eq_nil_iff

theorem nonBlank?_eq (s : String) : nonBlank? s = if Blank s then none else some (trim s) := by
  rw [nonBlank?]
  exact if_congr trim_eq_empty_iff rfl rfl

theorem nonBlank?_eq_some_iff {s v : String} : nonBlank? s = some v ↔ ¬Blank s ∧ trim s = v := by
  rw [nonBlank?_eq]
  split
  · next blank => exact iff_of_false nofun fun other => other.1 blank
  · next filled => rw [Option.some_inj, and_iff_right filled]

end Brokerage.Text
