import Brokerage.Text.Numeral
import Mathlib.Algebra.Group.Nat.Defs
import Mathlib.Data.Nat.Basic

/-!
# What a numeral is

Digits are read from left to right, and each step either goes on with a larger number or ends with
the first thing that is wrong. So a text is read exactly if it consists of digits, with a plus
sign in front if one likes, and their value fits in 64 bits (`readNumeral_eq_ok_iff`); and what is
reported of any other text is what comes first in it (`readNumeral_eq_error_iff`).
-/

namespace Brokerage.Text

variable {s : String} {n m : Nat} {cs : List Char} {fault : NumeralFault}

/-- The characters behind a plus sign, if there is one in front. -/
def unsigned (s : String) : List Char :=
  if s.toList.head? = some '+' then s.toList.tail else s.toList

/-- Characters that are all digits. -/
def Digits (cs : List Char) : Prop := ∀ c ∈ cs, c.isDigit = true

/-- A text that writes a number of at most 64 bits in digits. -/
structure IsNumeral (s : String) (n : Nat) : Prop where
  nonempty : unsigned s ≠ []
  digits : Digits (unsigned s)
  value : Nat.ofDigitChars 10 (unsigned s) 0 = n
  fits : n < 2 ^ 64

/-- What is wrong with characters behind digits whose value is `n`: the first of them that is no
digit, or the digits up to the first whose value is too large. -/
inductive WrongBehind (n : Nat) (cs : List Char) : NumeralFault → Prop where
  | digit {front : List Char} {c : Char} {rest : List Char} (parts : cs = front ++ c :: rest)
      (digits : Digits front) (fits : Nat.ofDigitChars 10 front n < 2 ^ 64)
      (other : c.isDigit = false) : WrongBehind n cs .digit
  | tooLarge {front rest : List Char} (parts : cs = front ++ rest) (digits : Digits front)
      (large : 2 ^ 64 ≤ Nat.ofDigitChars 10 front n) : WrongBehind n cs .tooLarge

/-- What is wrong with a text that is no numeral. -/
inductive Wrong (s : String) : NumeralFault → Prop where
  | empty (nothing : s = "") : Wrong s .empty
  | sign (alone : s = "+") : Wrong s .digit
  | inside {fault : NumeralFault} (wrong : WrongBehind 0 (unsigned s) fault) : Wrong s fault

/-! ### Digits -/

/-- A digit makes a number ten times as large, and adds its own value. -/
theorem ofDigitChars_cons (c : Char) (cs : List Char) (n : Nat) :
    Nat.ofDigitChars 10 (c :: cs) n = Nat.ofDigitChars 10 cs (n * 10 + (c.toNat - 0x30)) := by
  rw [Nat.ofDigitChars_cons, Nat.mul_comm]
  rfl

/-- The value only grows. -/
theorem le_ofDigitChars (cs : List Char) (n : Nat) : n ≤ Nat.ofDigitChars 10 cs n := by
  induction cs generalizing n with
  | nil => exact Nat.le_refl n
  | cons c rest ih =>
    rw [ofDigitChars_cons]
    have here := ih (n * 10 + (c.toNat - 0x30))
    omega

/-- One step of reading. -/
theorem readDigits_cons (n : Nat) (c : Char) (cs : List Char) :
    readDigits n (c :: cs) =
      if c.isDigit then
        if n * 10 + (c.toNat - 0x30) < 2 ^ 64 then readDigits (n * 10 + (c.toNat - 0x30)) cs
        else .error .tooLarge
      else .error .digit := rfl

theorem readDigits_eq_ok_iff (fits : n < 2 ^ 64) :
    readDigits n cs = .ok m ↔ Digits cs ∧ Nat.ofDigitChars 10 cs n = m ∧ m < 2 ^ 64 := by
  induction cs generalizing n with
  | nil =>
    constructor
    · rintro ⟨⟩
      exact ⟨nofun, rfl, fits⟩
    · rintro ⟨-, rfl, -⟩
      rfl
  | cons c rest ih =>
    rw [readDigits_cons, ofDigitChars_cons]
    constructor
    · intro read
      split at read
      · next digit =>
        split at read
        · next small =>
          obtain ⟨digits, value, room⟩ := (ih small).mp read
          exact ⟨List.forall_mem_cons.mpr ⟨digit, digits⟩, value, room⟩
        · cases read
      · cases read
    · rintro ⟨digits, value, room⟩
      obtain ⟨digit, digits⟩ := List.forall_mem_cons.mp digits
      -- a value that fits in the end has fitted all along
      have small : n * 10 + (c.toNat - 0x30) < 2 ^ 64 := by
        have grown := le_ofDigitChars rest (n * 10 + (c.toNat - 0x30))
        omega
      rw [if_pos digit, if_pos small]
      exact (ih small).mpr ⟨digits, value, room⟩

theorem WrongBehind.of_readDigits (fits : n < 2 ^ 64) (read : readDigits n cs = .error fault) :
    WrongBehind n cs fault := by
  induction cs generalizing n with
  | nil => cases read
  | cons c rest ih =>
    rw [readDigits_cons] at read
    split at read
    · next digit =>
      have one : Digits [c] := by
        rw [Digits, List.forall_mem_singleton]
        exact digit
      split at read
      · next small =>
        -- what is wrong behind the digit is wrong with the digit in front as well
        cases ih small read with
        | digit parts digits fits other =>
          refine .digit (by rw [parts, ← List.cons_append])
            (List.forall_mem_cons.mpr ⟨digit, digits⟩)
            ?_ other
          rwa [ofDigitChars_cons]
        | tooLarge parts digits large =>
          refine .tooLarge (by rw [parts, ← List.cons_append])
            (List.forall_mem_cons.mpr ⟨digit, digits⟩) ?_
          rwa [ofDigitChars_cons]
      · next large =>
        cases read
        refine .tooLarge (List.singleton_append ..).symm one ?_
        rw [ofDigitChars_cons]
        exact Nat.le_of_not_lt large
    · next other =>
      cases read
      exact .digit (List.nil_append _).symm nofun fits (Bool.eq_false_iff.mpr other)

/-- Digits that are read go on as digits with a value that fits, or the text is not read. -/
theorem readDigits_append {front rest : List Char} (digits : Digits front)
    (fits : Nat.ofDigitChars 10 front n < 2 ^ 64) :
    readDigits n (front ++ rest) = readDigits (Nat.ofDigitChars 10 front n) rest := by
  induction front generalizing n with
  | nil => rfl
  | cons c front ih =>
    obtain ⟨digit, digits⟩ := List.forall_mem_cons.mp digits
    rw [ofDigitChars_cons] at fits ⊢
    have small : n * 10 + (c.toNat - 0x30) < 2 ^ 64 := by
      have grown := le_ofDigitChars front (n * 10 + (c.toNat - 0x30))
      omega
    rw [List.cons_append, readDigits_cons, if_pos digit, if_pos small]
    exact ih digits fits

/-- **Nothing is wrong with digits but what is reported.** -/
theorem readDigits_eq_error_iff (fits : n < 2 ^ 64) :
    readDigits n cs = .error fault ↔ WrongBehind n cs fault := by
  constructor
  · exact .of_readDigits fits
  · rintro (⟨rfl, digits, room, other⟩ | ⟨rfl, digits, large⟩)
    · rw [readDigits_append digits room, readDigits_cons, other]
      rfl
    · next front rest =>
      -- the first of the digits at which the value is too large comes before anything else
      induction front generalizing n with
      | nil => exact absurd fits (Nat.not_lt.mpr large)
      | cons c front ih =>
        obtain ⟨digit, digits⟩ := List.forall_mem_cons.mp digits
        rw [ofDigitChars_cons] at large
        rw [List.cons_append, readDigits_cons, if_pos digit]
        split
        · next small => exact ih small digits large
        · rfl

/-! ### Texts -/

/-- What is read are the characters behind the sign, if there are any. -/
theorem readNumeral_eq (s : String) :
    readNumeral s =
      if s = "" then .error .empty
      else if s = "+" then .error .digit
      else readDigits 0 (unsigned s) := by
  have empty : s = "" ↔ s.toList = [] := String.toList_eq_nil_iff.symm
  have plus : s = "+" ↔ s.toList = ['+'] := by rw [← String.toList_inj]; rfl
  unfold unsigned readNumeral
  rw [if_congr empty rfl (if_congr plus rfl rfl)]
  generalize s.toList = cs
  cases cs with
  | nil => rfl
  | cons c rest =>
    by_cases sign : c = '+'
    · subst sign
      cases rest <;> simp [readNumeralChars]
    · have other : readNumeralChars (c :: rest) = readDigits 0 (c :: rest) := by
        unfold readNumeralChars
        split <;> simp_all
      simp [other, sign]

/-- A sign is nothing to read on its own. -/
theorem unsigned_eq_nil_iff : unsigned s = [] ↔ s = "" ∨ s = "+" := by
  rw [← String.toList_inj, ← String.toList_inj, unsigned]
  cases s.toList with
  | nil => simp
  | cons c rest => by_cases sign : c = '+' <;> simp [sign]

/-- **What is read is a numeral, and its value fits.** -/
theorem readNumeral_eq_ok_iff : readNumeral s = .ok n ↔ IsNumeral s n := by
  rw [readNumeral_eq]
  constructor
  · intro read
    split at read
    · cases read
    split at read
    · cases read
    · next nonempty alone =>
      obtain ⟨digits, value, fits⟩ := (readDigits_eq_ok_iff (by decide)).mp read
      exact ⟨fun empty => (unsigned_eq_nil_iff.mp empty).elim nonempty alone, digits, value, fits⟩
  · rintro ⟨nonempty, digits, value, fits⟩
    obtain ⟨filled, signed⟩ := not_or.mp (mt unsigned_eq_nil_iff.mpr nonempty)
    rw [if_neg filled, if_neg signed]
    exact (readDigits_eq_ok_iff (by decide)).mpr ⟨digits, value, fits⟩

/-- **What is not read is reported for what is wrong with it.** -/
theorem readNumeral_eq_error_iff : readNumeral s = .error fault ↔ Wrong s fault := by
  have zero : 0 < 2 ^ 64 := by decide
  constructor
  · intro read
    rw [readNumeral_eq] at read
    split at read
    · next nothing =>
      cases read
      exact .empty nothing
    split at read
    · next alone =>
      cases read
      exact .sign alone
    · exact .inside ((readDigits_eq_error_iff zero).mp read)
  · rintro (rfl | rfl | wrong)
    · rfl
    · rfl
    · -- nothing is wrong inside of a text with nothing in it
      have nonempty : unsigned s ≠ [] := by
        intro empty
        rw [empty] at wrong
        exact nomatch (readDigits_eq_error_iff zero).mpr wrong
      obtain ⟨filled, signed⟩ := not_or.mp (mt unsigned_eq_nil_iff.mpr nonempty)
      rw [readNumeral_eq, if_neg filled, if_neg signed]
      exact (readDigits_eq_error_iff zero).mpr wrong

end Brokerage.Text
