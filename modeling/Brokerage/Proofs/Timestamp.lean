import Brokerage.Timestamp
import Mathlib.Data.List.TakeWhile

/-!
# Written time stamps

A time stamp is read as it was written, its offset and all nine places of its second included
(`parse?_write`). The parts of a fixed width are read digit by digit (`readDigits_padded`). Of a
fraction the zeros at the end are not written; they add nothing to its value
(`fractionValue_dropZeros`).
-/

namespace Brokerage.Timestamp

/-! ### Digits -/

section Digits

variable {width n : Nat} {c : Char}

theorem digit?_digitChar : ∀ d < 10, digit? (Nat.digitChar d) = some d := by decide

theorem digit?_of_mem_padded (h : c ∈ Text.padded width n) : (digit? c).isSome = true := by
  induction width generalizing n with
  | zero => cases h
  | succ width ih =>
    rw [Text.padded, List.mem_append, List.mem_singleton] at h
    rcases h with before | rfl
    · exact ih before
    · rw [digit?_digitChar _ (Nat.mod_lt _ (by decide))]
      rfl

/-- Digits are taken off the front one after another. -/
theorem readDigits_add (w k m : Nat) (cs : List Char) :
    readDigits (w + k) m cs = (readDigits w m cs).bind fun r => readDigits k r.1 r.2 := by
  induction w generalizing m cs with
  | zero =>
    rw [Nat.zero_add]
    rfl
  | succ w ih =>
    rw [Nat.add_right_comm]
    cases cs with
    | nil => rfl
    | cons c cs =>
      rw [readDigits, readDigits]
      cases digit? c with
      | none => rfl
      | some d => exact ih _ _

/-- A number of a fixed width is read as it was written, and what follows it is left. -/
theorem readDigits_padded (width m : Nat) (fits : n < Nat.pow 10 width) (rest : List Char) :
    readDigits width m (Text.padded width n ++ rest) = some (m * Nat.pow 10 width + n, rest) := by
  induction width generalizing n rest with
  | zero =>
    have zero : n = 0 := Nat.lt_one_iff.mp fits
    simp [Text.padded, readDigits, zero]
  | succ width ih =>
    have last := digit?_digitChar (n % 10) (Nat.mod_lt _ (by decide))
    have wider : Nat.pow 10 (width + 1) = Nat.pow 10 width * 10 := rfl
    rw [wider] at fits ⊢
    have front : n / 10 < Nat.pow 10 width := Nat.div_lt_of_lt_mul (Nat.mul_comm .. ▸ fits)
    rw [readDigits_add, Text.padded, List.append_assoc, List.singleton_append,
      ih front, Option.bind_some]
    simp only [readDigits, last, Option.some.injEq, Prod.mk.injEq, and_true]
    rw [← Nat.mul_assoc]
    omega

end Digits

/-! ### Fractions -/

section Fraction

theorem fractionValue_append (unit : Nat) (cs ds : List Char) :
    fractionValue unit (cs ++ ds) =
      fractionValue unit cs + fractionValue (unit / Nat.pow 10 cs.length) ds := by
  induction cs generalizing unit with
  | nil => simp [fractionValue]
  | cons c cs ih =>
    have wider : Nat.pow 10 (c :: cs).length = 10 * Nat.pow 10 cs.length := Nat.mul_comm ..
    rw [List.cons_append, fractionValue, fractionValue, ih, wider, Nat.div_div_eq_div_mul,
      Nat.add_assoc]

theorem length_padded (width n : Nat) : (Text.padded width n).length = width := by
  induction width generalizing n with
  | zero => rfl
  | succ width ih => rw [Text.padded, List.length_append, ih, List.length_singleton]

/-- The digits of a number, read as a fraction whose last place counts `unit`. -/
theorem fractionValue_padded (unit width n : Nat) (fits : n < Nat.pow 10 (width + 1)) :
    fractionValue (unit * Nat.pow 10 width) (Text.padded (width + 1) n) = unit * n := by
  induction width generalizing unit n with
  | zero =>
    have digit := digit?_digitChar n (by simpa using fits)
    have small : n % 10 = n := Nat.mod_eq_of_lt (by simpa using fits)
    simp [Text.padded, fractionValue, small, digit, Nat.mul_comm]
  | succ width ih =>
    have last := digit?_digitChar (n % 10) (Nat.mod_lt _ (by decide))
    have wider : Nat.pow 10 (width + 1) = 10 * Nat.pow 10 width := Nat.mul_comm ..
    have front : n / 10 < Nat.pow 10 (width + 1) :=
      Nat.div_lt_of_lt_mul (Nat.mul_comm (Nat.pow 10 (width + 1)) 10 ▸ fits)
    have place : unit * Nat.pow 10 (width + 1) / Nat.pow 10 (width + 1) = unit :=
      Nat.mul_div_cancel _ (Nat.zero_lt_of_lt front)
    have scale : unit * Nat.pow 10 (width + 1) = unit * 10 * Nat.pow 10 width := by
      rw [wider, Nat.mul_assoc]
    rw [Text.padded, fractionValue_append, length_padded, place, scale, ih _ _ front]
    simp only [fractionValue, last, Option.getD_some, Nat.add_zero]
    calc unit * 10 * (n / 10) + n % 10 * unit
        = unit * (10 * (n / 10) + n % 10) := by
          rw [Nat.mul_add, Nat.mul_assoc, Nat.mul_comm unit (n % 10)]
      _ = unit * n := by rw [Nat.div_add_mod]

/-- Nothing but zeros is dropped. -/
theorem exists_zeros (ds : List Char) :
    ∃ zeros, (∀ c ∈ zeros, c = '0') ∧ Text.dropZeros ds ++ zeros = ds := by
  refine ⟨(ds.reverse.takeWhile (· == '0')).reverse, fun c there => ?_, ?_⟩
  · simpa using List.mem_takeWhile_imp (List.mem_reverse.mp there)
  · rw [Text.dropZeros, ← List.reverse_append, List.takeWhile_append_dropWhile,
      List.reverse_reverse]

theorem fractionValue_zeros (unit : Nat) {zeros : List Char} (h : ∀ c ∈ zeros, c = '0') :
    fractionValue unit zeros = 0 := by
  induction zeros generalizing unit with
  | nil => rfl
  | cons c zeros ih =>
    obtain rfl := h c List.mem_cons_self
    rw [fractionValue, ih _ fun c there => h c (List.mem_cons_of_mem _ there)]
    simp [digit?]

theorem fractionValue_dropZeros (unit : Nat) (ds : List Char) :
    fractionValue unit (Text.dropZeros ds) = fractionValue unit ds := by
  obtain ⟨zeros, all, whole⟩ := exists_zeros ds
  have value := fractionValue_append unit (Text.dropZeros ds) zeros
  rw [whole, fractionValue_zeros _ all, Nat.add_zero] at value
  exact value.symm

/-- A fraction is read as it was written, if no digit follows it. -/
theorem readFraction_writeFraction {nanosecond : Nat} (fits : nanosecond < 1_000_000_000) {c : Char}
    (noDigit : digit? c = none) (noPoint : c ≠ '.') (rest : List Char) :
    readFraction (writeFraction nanosecond ++ c :: rest) = some (nanosecond, c :: rest) := by
  rw [writeFraction]
  split
  · next zero => simp [readFraction, noPoint, zero]
  · next positive =>
    have value :
        fractionValue 100_000_000 (Text.dropZeros (Text.padded 9 nanosecond)) = nanosecond := by
      rw [fractionValue_dropZeros]
      exact (fractionValue_padded 1 8 nanosecond fits).trans (Nat.one_mul _)
    have nonempty : Text.dropZeros (Text.padded 9 nanosecond) ≠ [] := by
      intro empty
      rw [empty] at value
      exact positive value.symm
    have digits : ∀ c ∈ Text.dropZeros (Text.padded 9 nanosecond), (digit? c).isSome = true := by
      intro c there
      obtain ⟨zeros, -, whole⟩ := exists_zeros (Text.padded 9 nanosecond)
      exact digit?_of_mem_padded (whole ▸ List.mem_append_left _ there)
    have taken : (Text.dropZeros (Text.padded 9 nanosecond) ++ c :: rest).takeWhile
        (fun c => (digit? c).isSome) = Text.dropZeros (Text.padded 9 nanosecond) := by
      rw [List.takeWhile_append_of_pos digits, List.takeWhile_cons_of_neg (by simp [noDigit]),
        List.append_nil]
    have left : (Text.dropZeros (Text.padded 9 nanosecond) ++ c :: rest).dropWhile
        (fun c => (digit? c).isSome) = c :: rest := by
      rw [List.dropWhile_append_of_pos digits, List.dropWhile_cons_of_neg (by simp [noDigit])]
    rw [List.cons_append, readFraction, if_pos rfl]
    simp only [taken, left, if_neg nonempty, value]

end Fraction

/-! ### Offsets -/

/-- An offset starts with a character that is no part of a fraction. -/
theorem exists_writeOffset (minutes : Int) :
    ∃ c cs, writeOffset minutes = c :: cs ∧ digit? c = none ∧ c ≠ '.' := by
  rw [writeOffset]
  split
  · exact ⟨'Z', [], rfl, by decide, by decide⟩
  split
  · exact ⟨'-', _, rfl, by decide, by decide⟩
  · exact ⟨'+', _, rfl, by decide, by decide⟩

/-- The hours and minutes of an offset, after its sign. -/
theorem readOffset_signed {sign : Char} (isSign : sign = '+' ∨ sign = '-') {hours minutes : Nat}
    (day : hours < 24) (hour : minutes < 60) :
    readOffset (sign :: (Text.padded 2 hours ++ ':' :: Text.padded 2 minutes)) =
      some (
        if sign = '-' then -((hours * 60 + minutes : Nat) : Int)
        else (hours * 60 + minutes : Nat), []) := by
  have front : readDigits 2 0 (Text.padded 2 hours ++ ':' :: Text.padded 2 minutes) =
      some (hours, ':' :: Text.padded 2 minutes) := by
    rw [readDigits_padded 2 0 (show hours < 100 by omega), Nat.zero_mul, Nat.zero_add]
  have back : readDigits 2 0 (Text.padded 2 minutes) = some (minutes, []) := by
    have read := readDigits_padded 2 0 (show minutes < 100 by omega) []
    rwa [List.append_nil, Nat.zero_mul, Nat.zero_add] at read
  rcases isSign with rfl | rfl
  · simp [readOffset, front, readMark, back, day, hour]
  · simp [readOffset, front, readMark, back, day, hour]

/-- An offset of whole minutes below a day is read as it was written. -/
theorem readOffset_writeOffset {minutes : Int} (fits : minutes.natAbs < 24 * 60) :
    readOffset (writeOffset minutes) = some (minutes, []) := by
  have total : minutes.natAbs / 60 * 60 + minutes.natAbs % 60 = minutes.natAbs :=
    Nat.div_add_mod' ..
  rw [writeOffset]
  split
  · next zero =>
    rw [zero]
    rfl
  split
  · next behind =>
    rw [readOffset_signed (.inr rfl) (by omega) (by omega), total, if_pos rfl,
      Int.ofNat_natAbs_of_nonpos (Int.le_of_lt behind), Int.neg_neg]
  · next ahead =>
    rw [readOffset_signed (.inl rfl) (by omega) (by omega), total, if_neg (by decide),
      Int.natAbs_of_nonneg (Int.not_lt.mp ahead)]

/-! ### Time stamps -/

theorem daysIn_le (year : Int) (month : Nat) : Calendar.daysIn year month ≤ 31 := by
  rw [Calendar.daysIn]
  split
  · split <;> decide
  · split <;> decide

/-- A clock that shows no leap second shows the moment itself. -/
theorem ofClock?_reading (t : Timestamp) : ofClock? t.reading = some t := by
  have second : t.reading.second < 60 := t.isValid.2.2.2.2.2.1
  rw [ofClock?, if_neg (Nat.ne_of_lt second), ofReading?, dif_pos t.isValid]

/-- **A time stamp is read as it was written**, with its offset. -/
theorem parse?_write (t : Timestamp) : parse? t.write = some t := by
  obtain ⟨year, ⟨-, month⟩, ⟨-, day⟩, hour, minute, second, nanosecond, offset⟩ := t.isValid
  have day : t.reading.day ≤ 31 := Nat.le_trans day (daysIn_le _ _)
  have number (width : Nat) {n : Nat} (fits : n < Nat.pow 10 width) (rest : List Char) :
      readDigits width 0 (Text.padded width n ++ rest) = some (n, rest) := by
    rw [readDigits_padded width 0 fits, Nat.zero_mul, Nat.zero_add]
  have separator (rest : List Char) : readSeparator ('T' :: rest) = some rest := rfl
  have fraction :
      readFraction (writeFraction t.reading.nanosecond ++ writeOffset t.reading.offset) =
        some (t.reading.nanosecond, writeOffset t.reading.offset) := by
    obtain ⟨c, cs, written, noDigit, noPoint⟩ := exists_writeOffset t.reading.offset
    rw [written]
    exact readFraction_writeFraction nanosecond noDigit noPoint cs
  rw [parse?, write, String.toList_ofList, writeChars]
  simp only [number 4 (show t.reading.year < 10000 by omega),
    number 2 (show t.reading.month < 100 by omega), number 2 (show t.reading.day < 100 by omega),
    number 2 (show t.reading.hour < 100 by omega), number 2 (show t.reading.minute < 100 by omega),
    number 2 (show t.reading.second < 100 by omega), readMark, separator, fraction,
    readOffset_writeOffset offset, Option.bind_eq_bind, Option.bind_some, if_true]
  exact ofClock?_reading t

end Brokerage.Timestamp
