import Brokerage.Text.Lowercase
import Mathlib.Data.List.Basic

/-!
# Lower case inside a text

The lower case of a character does not depend on the characters around it, unless it is a capital
sigma: that one ends a word or does not (`endsWord`). So a text that stands inside another one has
the same lower case there as alone exactly if each of its capital sigmas ends a word in both or in
neither (`lowerWithin_eq_lowerFrom_iff`).
-/

namespace Brokerage.Text

variable {before before' after after' needle text : List Char} {c : Char}

/-- True if a capital sigma between two texts, the nearest character before it first, is the last
letter of a word. -/
def endsWord (before after : List Char) : Bool :=
  meetsCased before && !meetsCased after

/-- The lower case of characters that stand between others, the nearest one before them first. -/
def lowerWithin (before : List Char) : List Char → List Char → List Char
  | [], _ => []
  | c :: rest, after => lowerAt before c (rest ++ after) ++ lowerWithin (c :: before) rest after

/-- With nothing behind them they are in the lower case that they have at the end of a text. -/
theorem lowerWithin_nil (before cs : List Char) :
    lowerWithin before cs [] = lowerFrom before cs := by
  induction cs generalizing before with
  | nil => rfl
  | cons c rest ih => rw [lowerWithin, lowerFrom, ih, List.append_nil]

/-- The lower case of a text is made of those of its parts. -/
theorem lowerFrom_append (before cs after : List Char) :
    lowerFrom before (cs ++ after) =
      lowerWithin before cs after ++ lowerFrom (cs.reverse ++ before) after := by
  induction cs generalizing before with
  | nil => rfl
  | cons c rest ih =>
    rw [List.cons_append, lowerFrom, ih, lowerWithin, List.reverse_cons, List.append_assoc,
      List.append_assoc]
    rfl

/-! ### The capital sigma -/

theorem lowerAt_sigma (before after : List Char) :
    lowerAt before 'Σ' after = [if endsWord before after then 'ς' else 'σ'] := by
  rw [lowerAt, if_pos rfl, endsWord]

/-- Any other character has one lower case everywhere. -/
theorem lowerAt_of_ne (other : c ≠ 'Σ') : lowerAt before c after = lowerAt before' c after' := by
  rw [lowerAt, lowerAt, if_neg other, if_neg other]

/-- In two places a character has the same lower case exactly if it is not a capital sigma that
ends a word in one place only. -/
theorem lowerAt_eq_iff : lowerAt before c after = lowerAt before' c after' ↔
    (c = 'Σ' → endsWord before after = endsWord before' after') := by
  by_cases sigma : c = 'Σ'
  · subst sigma
    rw [lowerAt_sigma, lowerAt_sigma]
    cases endsWord before after <;> cases endsWord before' after' <;> decide
  · exact iff_of_true (lowerAt_of_ne sigma) fun same => absurd same sigma

theorem length_lowerAt (before before' : List Char) (c : Char) (after after' : List Char) :
    (lowerAt before c after).length = (lowerAt before' c after').length := by
  by_cases sigma : c = 'Σ'
  · rw [sigma, lowerAt_sigma, lowerAt_sigma]
    rfl
  · rw [lowerAt_of_ne sigma]

/-- **In two places a text has the same lower case exactly if each of its capital sigmas ends a
word in both or in neither.** -/
theorem lowerWithin_eq_iff :
    lowerWithin before needle after = lowerWithin before' needle after' ↔
      ∀ n, needle[n]? = some 'Σ' →
        endsWord ((needle.take n).reverse ++ before) (needle.drop (n + 1) ++ after) =
          endsWord ((needle.take n).reverse ++ before') (needle.drop (n + 1) ++ after') := by
  induction needle generalizing before before' with
  | nil => simp [lowerWithin]
  | cons c rest ih =>
    have lengths := length_lowerAt before before' c (rest ++ after) (rest ++ after')
    have parts : lowerWithin before (c :: rest) after = lowerWithin before' (c :: rest) after' ↔
        lowerAt before c (rest ++ after) = lowerAt before' c (rest ++ after') ∧
          lowerWithin (c :: before) rest after = lowerWithin (c :: before') rest after' := by
      rw [lowerWithin, lowerWithin]
      exact ⟨fun same => List.append_inj same lengths, fun ⟨one, others⟩ => by rw [one, others]⟩
    -- what stands before the rest is `c` and what stands before `c`
    have around (n : Nat) (before : List Char) :
        ((c :: rest).take (n + 1)).reverse ++ before = (rest.take n).reverse ++ c :: before := by
      rw [List.take_succ_cons, List.reverse_cons, List.append_assoc]
      rfl
    rw [parts, lowerAt_eq_iff, ih]
    constructor
    · rintro ⟨first, others⟩ n sigma
      cases n with
      | zero => exact first (Option.some.inj sigma)
      | succ n =>
        rw [around, around]
        exact others n sigma
    · intro all
      refine ⟨fun sigma => all 0 (congrArg some sigma), fun n sigma => ?_⟩
      have here := all (n + 1) sigma
      rwa [around, around] at here

/-! ### One text inside another -/

/-- True if the character at a place of a text ends a word there. -/
def endsWordAt (text : List Char) (n : Nat) : Bool :=
  endsWord (text.take n).reverse (text.drop (n + 1))

theorem endsWordAt_between {n : Nat} (inside : n < needle.length) :
    endsWordAt (before ++ needle ++ after) (before.length + n) =
      endsWord ((needle.take n).reverse ++ before.reverse) (needle.drop (n + 1) ++ after) := by
  have front : (before ++ needle ++ after).take (before.length + n) = before ++ needle.take n := by
    rw [List.append_assoc, List.take_length_add_append,
      List.take_append_of_le_length (Nat.le_of_lt inside)]
  have back : (before ++ needle ++ after).drop (before.length + n + 1) =
      needle.drop (n + 1) ++ after := by
    rw [List.append_assoc, Nat.add_assoc, List.drop_length_add_append,
      List.drop_append_of_le_length inside]
  rw [endsWordAt, front, back, List.reverse_append]

/-- Each capital sigma of a text that stands between two others ends a word there exactly if it
does so in the text alone. -/
def SameSigmas (before needle after : List Char) : Prop :=
  ∀ n < needle.length, needle[n]? = some 'Σ' →
    endsWordAt (before ++ needle ++ after) (before.length + n) = endsWordAt needle n

instance (before needle after : List Char) : Decidable (SameSigmas before needle after) :=
  inferInstanceAs (Decidable (∀ n < needle.length, needle[n]? = some 'Σ' →
    endsWordAt (before ++ needle ++ after) (before.length + n) = endsWordAt needle n))

/-- **A text has the same lower case between two others as alone exactly if its capital
sigmas mean the same.** -/
theorem lowerWithin_eq_lowerFrom_iff :
    lowerWithin before.reverse needle after = lowerFrom [] needle ↔
      SameSigmas before needle after := by
  rw [← lowerWithin_nil, lowerWithin_eq_iff]
  have alone {n : Nat} (inside : n < needle.length) : endsWordAt needle n =
      endsWord ((needle.take n).reverse ++ []) (needle.drop (n + 1) ++ []) := by
    rw [endsWordAt, List.append_nil, List.append_nil]
  constructor
  · intro same n inside sigma
    rw [endsWordAt_between inside, alone inside]
    exact same n sigma
  · intro same n sigma
    have inside : n < needle.length := (List.getElem?_eq_some_iff.mp sigma).1
    rw [← endsWordAt_between inside, ← alone inside]
    exact same n inside sigma

/-- Its lower case then stands in the lower case of the whole. -/
theorem lower_infix_of_sameSigmas (same : SameSigmas before needle after) :
    lowerFrom [] needle <:+: lowerFrom [] (before ++ needle ++ after) := by
  refine ⟨lowerWithin [] before (needle ++ after),
    lowerFrom (needle.reverse ++ (before.reverse ++ [])) after, ?_⟩
  rw [List.append_assoc before, lowerFrom_append, lowerFrom_append, List.append_nil,
    lowerWithin_eq_lowerFrom_iff.mpr same, List.append_assoc]

end Brokerage.Text
