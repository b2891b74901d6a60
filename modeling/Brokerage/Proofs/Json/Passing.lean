import Brokerage.Proofs.Json.Grammar

/-!
# Passing over what is written

Whatever is written for a tree is passed over, and nothing behind it is touched
(`skipValue_of_writes`). The brackets that are open do not matter for a value in them: passing
over a value takes some steps and then goes on behind it (`Passes`). For a list or an object these
are the steps for its parts, and one for each of its brackets and commas.
-/

namespace Brokerage.Json

variable {bs rest ws : Bytes} {v : Tree}

/-! ### Strings -/

theorem skipQuoted_plain {b : UInt8} (plain : IsPlain b) (rest : Bytes) :
    skipQuoted (b :: rest) = skipQuoted rest := by
  obtain ⟨noMark, noEscape, visible⟩ := plain
  rw [skipQuoted.eq_def]
  simp only [if_neg noMark, if_neg noEscape, if_neg visible]

/-- The letter of a code makes no short escape. -/
theorem ne_of_shortEscape? {b c : UInt8} (known : shortEscape? b = some c) : b ≠ 0x75 := by
  rintro rfl
  cases known

theorem skipQuoted_short {b c : UInt8} (known : shortEscape? b = some c) (rest : Bytes) :
    skipQuoted (backslash :: b :: rest) = skipQuoted rest := by
  rw [skipQuoted.eq_def]
  simp only [show backslash ≠ quoteMark by decide, if_false, if_true,
    if_neg (ne_of_shortEscape? known), known, Option.isSome_some]

theorem skipQuoted_code {h₁ h₂ h₃ h₄ : UInt8} {n : Nat} (known : hex4? h₁ h₂ h₃ h₄ = some n)
    (rest : Bytes) :
    skipQuoted (backslash :: 0x75 :: h₁ :: h₂ :: h₃ :: h₄ :: rest) = skipQuoted rest := by
  rw [skipQuoted.eq_def]
  simp only [show backslash ≠ quoteMark by decide, if_false, if_true, known, Option.isSome_some]

/-- A string is passed over up to and with its closing mark. -/
theorem skipQuoted_literal (l : Literal) (rest : Bytes) :
    skipQuoted (Literal.bytes l ++ quoteMark :: rest) = .ok rest := by
  induction l with
  | nil =>
    show skipQuoted (quoteMark :: rest) = _
    rw [skipQuoted.eq_def]
    rfl
  | cons piece l ih =>
    rw [Literal.bytes_cons, List.append_assoc]
    cases piece with
    | plain b isPlain => exact (skipQuoted_plain isPlain _).trans ih
    | short b c known => exact (skipQuoted_short known _).trans ih
    | code h₁ h₂ h₃ h₄ n known => exact (skipQuoted_code known _).trans ih

/-! ### Numbers -/

/-- A run of digits ends where something else comes. -/
theorem dropWhile_digits {ds : Bytes} (digits : ∀ d ∈ ds, isDigit d = true)
    (ends : ∀ b ∈ rest.head?, isDigit b = false) : (ds ++ rest).dropWhile isDigit = rest := by
  rw [List.dropWhile_append_of_pos digits]
  cases rest with
  | nil => rfl
  | cons b rest => rw [List.dropWhile_cons_of_neg (by simp [ends b rfl])]

theorem takeWhile_digits {ds : Bytes} (digits : ∀ d ∈ ds, isDigit d = true)
    (ends : ∀ b ∈ rest.head?, isDigit b = false) : (ds ++ rest).takeWhile isDigit = ds := by
  rw [List.takeWhile_append_of_pos digits]
  cases rest with
  | nil => exact List.append_nil ds
  | cons b rest => rw [List.takeWhile_cons_of_neg (by simp [ends b rfl]), List.append_nil]

theorem Stops.ends (stops : Stops rest) : ∀ b ∈ rest.head?, isDigit b = false :=
  fun b there => (stops b there).1

/-- A sign is passed over, if there is one, and then digits. -/
theorem skipExponent_digits {sign ds : Bytes} (signs : sign ∈ [[], [0x2B], [0x2D]])
    (digits : IsDigits ds) (stops : Stops rest) :
    skipExponent (sign ++ (ds ++ rest)) = .ok rest := by
  obtain ⟨d, ds, rfl⟩ := List.exists_cons_of_ne_nil digits.1
  obtain ⟨digit, digits⟩ := List.forall_mem_cons.mp digits.2
  have apart : d ≠ 0x2B ∧ d ≠ 0x2D := by
    constructor <;> rintro rfl <;> exact absurd digit (by decide)
  have behind := dropWhile_digits digits stops.ends
  simp only [List.mem_cons, List.not_mem_nil, or_false] at signs
  rcases signs with rfl | rfl | rfl <;>
    simp [skipExponent, apart, digit, behind]

namespace Numeral

variable (n : Numeral)

/-- Behind the digits of a number there is neither a digit nor, behind those of
its fraction, a point. -/
theorem exponent_head (stops : Stops rest) :
    ∀ b ∈ (n.exponent ++ rest).head?, b ≠ 0x2E ∧ isDigit b = false := by
  intro b first
  rcases n.isExponent with noExponent | ⟨letter', sign, ds, spelt, letter, -, -⟩
  · rw [noExponent, List.nil_append] at first
    exact ⟨(stops b first).2.1, (stops b first).1⟩
  · rw [spelt, List.cons_append] at first
    cases first
    exact apart_of_isExponentLetter letter

theorem fraction_head (stops : Stops rest) :
    ∀ b ∈ (n.fraction ++ (n.exponent ++ rest)).head?, isDigit b = false := by
  intro b first
  rcases n.isFraction with noFraction | ⟨ds, spelt, -⟩
  · rw [noFraction, List.nil_append] at first
    exact (n.exponent_head stops b first).2
  · rw [spelt, List.cons_append] at first
    cases first
    decide

end Numeral

/-- The exponent is passed over, if there is one. -/
theorem skipExponent_numeral (n : Numeral) (stops : Stops rest) :
    (match n.exponent ++ rest with
      | b :: bs => if isExponentLetter b then skipExponent bs else .ok (b :: bs)
      | [] => .ok []) = .ok rest := by
  rcases n.isExponent with noExponent | ⟨letter, sign, ds, spelt, isLetter, signs, digits⟩
  · rw [noExponent, List.nil_append]
    cases rest with
    | nil => rfl
    | cons b rest =>
      dsimp only
      rw [(stops b rfl).2.2]
      rfl
  · rw [spelt, List.cons_append, List.append_assoc]
    dsimp only
    rw [isLetter, if_pos rfl]
    exact skipExponent_digits signs digits stops

/-- Passing over the rest of a number: the fraction and the exponent. -/
theorem skipFraction_numeral (n : Numeral) (stops : Stops rest) :
    skipFraction (n.fraction ++ (n.exponent ++ rest)) = .ok rest := by
  have exponent := skipExponent_numeral n stops
  have head := n.exponent_head stops
  generalize n.exponent ++ rest = back at *
  rcases n.isFraction with absent | ⟨ds, point, digits⟩
  · rw [absent, List.nil_append, skipFraction.eq_def]
    cases back with
    | nil => exact exponent
    | cons b bs => simpa only [if_neg (head b rfl).1] using exponent
  · obtain ⟨d, ds, rfl⟩ := List.exists_cons_of_ne_nil digits.1
    obtain ⟨digit, digits⟩ := List.forall_mem_cons.mp digits.2
    have behind := dropWhile_digits digits fun b first => (head b first).2
    rw [point]
    simp only [List.cons_append, skipFraction, if_true, digit, behind]
    cases back with
    | nil => exact exponent
    | cons b bs => exact exponent

/-- The first digit of a number, and those behind it. -/
theorem Numeral.whole_cons (n : Numeral) :
    ∃ d ds, n.whole = d :: ds ∧ isDigit d = true ∧ (∀ d ∈ ds, isDigit d = true) ∧
      (d = 0x30 → ds = []) := by
  obtain ⟨⟨filled, digits⟩, zero⟩ := n.isWhole
  obtain ⟨d, ds, whole⟩ := List.exists_cons_of_ne_nil filled
  rw [whole] at digits zero
  obtain ⟨digit, digits⟩ := List.forall_mem_cons.mp digits
  refine ⟨d, ds, whole, digit, digits, ?_⟩
  rintro rfl
  exact (List.cons.inj (zero rfl)).2

/-- A number is passed over behind its sign. -/
theorem skipNumber_numeral (n : Numeral) (stops : Stops rest) :
    skipNumber (n.unsigned ++ rest) = .ok rest := by
  obtain ⟨d, ds, whole, digit, digits, zero⟩ := n.whole_cons
  have fraction := skipFraction_numeral n stops
  have head := n.fraction_head stops
  unfold Numeral.unsigned
  rw [whole, List.append_assoc, List.append_assoc, List.cons_append]
  generalize n.fraction ++ (n.exponent ++ rest) = back at *
  rw [skipNumber.eq_def]
  dsimp only
  split
  · next same =>
    obtain rfl := zero same
    cases back with
    | nil => exact fraction
    | cons b bs => simpa [head b rfl] using fraction
  · simpa only [if_pos digit, dropWhile_digits digits head] using fraction

/-! ### The first byte -/

/-- What tells a digit from all other first bytes of a value. -/
theorem apart_of_isDigit {b : UInt8} (digit : isDigit b = true) :
    isSpace b = false ∧ opened? b = none ∧ b ≠ 0x6E ∧ b ≠ 0x74 ∧ b ≠ 0x66 ∧ b ≠ 0x2D ∧
      b ≠ quoteMark ∧ b ≠ Bracket.array.close := by
  have ne (c : UInt8) (other : isDigit c = false) : b ≠ c := by
    rintro rfl
    exact Bool.false_ne_true (other.symm.trans digit)
  refine ⟨?_, ?_, ne _ rfl, ne _ rfl, ne _ rfl, ne _ rfl, ne _ rfl, ne _ rfl⟩
  · rw [Bool.eq_false_iff]
    intro space
    exact Bool.false_ne_true ((stops_of_isSpace space).1.symm.trans digit)
  · rw [opened?, if_neg (ne _ rfl), if_neg (ne _ rfl)]

/-- The first byte of what is written says what it is. -/
structure Starts (v : Tree) (b : UInt8) : Prop where
  solid : isSpace b = false
  open_ : b ≠ Bracket.array.close
  null : b = 0x6E ↔ v = .null
  text : b = quoteMark ↔ ∃ l, v = .text l
  list : opened? b = some .array ↔ ∃ items, v = .list items
  object : opened? b = some .object ↔ ∃ members, v = .object members
  minus : b = 0x2D ↔ ∃ n, v = .number n ∧ n.negative = true
  digit : isDigit b = true ↔ ∃ n, v = .number n ∧ n.negative = false

theorem starts_of_writes (writes : Writes v bs) : ∃ b tail, bs = b :: tail ∧ Starts v b := by
  cases writes
  case number n =>
    unfold Numeral.bytes
    split
    · next negative =>
      refine ⟨0x2D, _, rfl, ?_⟩
      constructor <;> simp [isSpace, opened?, quoteMark, isDigit, Bracket.close, negative]
    · next positive =>
      obtain ⟨d, ds, whole, digit, -, -⟩ := n.whole_cons
      obtain ⟨solid, closed, noNull, -, -, noMinus, noMark, open_⟩ := apart_of_isDigit digit
      refine ⟨d, _, by rw [Numeral.unsigned, whole]; rfl, ?_⟩
      constructor <;> simp [*]
  -- all others have a first byte of their own
  all_goals
    refine ⟨_, _, rfl, ?_⟩
    constructor <;> simp [isSpace, opened?, quoteMark, isDigit, Bracket.close]

/-! ### Values without parts -/

theorem readWord_append (w rest : Bytes) : readWord w (w ++ rest) = .ok rest := by
  induction w with
  | nil => rfl
  | cons b w ih =>
    rw [List.cons_append, readWord, if_pos rfl]
    exact ih

/-- A value without parts is passed over at once. -/
structure IsScalar (bs : Bytes) (b : UInt8) (tail : Bytes) : Prop where
  bytes : bs = b :: tail
  solid : isSpace b = false
  closed : opened? b = none
  skips : ∀ rest, Stops rest → skipScalar b (tail ++ rest) = .ok rest

theorem isScalar_number (n : Numeral) : ∃ b tail, IsScalar n.bytes b tail := by
  unfold Numeral.bytes
  split
  · refine ⟨_, _, rfl, by decide, by decide, fun rest stops => ?_⟩
    exact skipNumber_numeral n stops
  · obtain ⟨d, ds, whole, digit, -, -⟩ := n.whole_cons
    obtain ⟨solid, closed, noNull, noTrue, noFalse, noMinus, -, -⟩ := apart_of_isDigit digit
    have skips (rest : Bytes) (stops : Stops rest) := skipNumber_numeral n stops
    unfold Numeral.unsigned at skips ⊢
    rw [whole] at skips ⊢
    refine ⟨d, _, rfl, solid, closed, fun rest stops => ?_⟩
    rw [skipScalar, if_neg noNull, if_neg noTrue, if_neg noFalse, if_neg noMinus, if_pos digit]
    exact skips rest stops

theorem isScalar_text (l : Literal) : ∃ b tail,
    IsScalar (quoteMark :: (Literal.bytes l ++ [quoteMark])) b tail := by
  refine ⟨_, _, rfl, by decide, by decide, fun rest _ => ?_⟩
  show skipQuoted _ = _
  rw [List.append_assoc]
  exact skipQuoted_literal l rest

theorem isScalar_null : ∃ b tail, IsScalar (word "null") b tail :=
  ⟨0x6E, word "ull", rfl, by decide, by decide, fun rest _ => readWord_append (word "ull") rest⟩

theorem isScalar_bool (b : Bool) :
    ∃ first tail, IsScalar (if b then word "true" else word "false") first tail := by
  cases b with
  | true =>
    exact ⟨0x74, word "rue", rfl, by decide, by decide,
      fun rest _ => readWord_append (word "rue") rest⟩
  | false =>
    exact ⟨0x66, word "alse", rfl, by decide, by decide,
      fun rest _ => readWord_append (word "alse") rest⟩

/-! ### Values with parts -/

/-- Passing over the value takes some steps, whatever brackets are open. -/
def Passes (bs : Bytes) : Prop :=
  ∃ k ≤ 2 * bs.length, ∀ n open_ ws rest, Blank ws → Stops rest →
    skipInside (n + k) open_ (ws ++ (bs ++ rest)) = skipRest n open_ rest

theorem passes_of_scalar (scalar : ∃ b tail, IsScalar bs b tail) : Passes bs := by
  obtain ⟨b, tail, rfl, solid, closed, skips⟩ := scalar
  refine ⟨1, by rw [List.length_cons]; omega, fun n open_ ws rest blank stops => ?_⟩
  rw [List.cons_append, skipInside, skipSpace_blank_cons blank solid]
  simp only [closed, skips rest stops]

/-- A part of a list or an object is passed over, its name included. -/
structure PassesPart (bracket : Bracket) (bs : Bytes) : Prop where
  first : ∃ b tail, bs = b :: tail ∧ isSpace b = false ∧ b ≠ bracket.close
  passes : ∃ k ≤ 2 * bs.length, ∀ n open_ ws rest, Blank ws → Stops rest →
    ∃ behind, skipName bracket (ws ++ (bs ++ rest)) = .ok behind ∧
      skipInside (n + k) (bracket :: open_) behind = skipRest n (bracket :: open_) rest

section Parts

variable {α : Type} {written : α → Bytes → Prop} {bracket : Bracket} {as : List α}

theorem isSpace_close (bracket : Bracket) : isSpace bracket.close = false := by
  cases bracket <;> decide

theorem close_ne_comma (bracket : Bracket) : bracket.close ≠ 0x2C := by
  cases bracket <;> decide

/-- The parts behind the first one, and the closing bracket. -/
theorem skipRest_spaced (parts : ∀ a ∈ as, ∀ bs, written a bs → PassesPart bracket bs)
    (spaced : Spaced written bracket.close false as bs) :
    ∃ k ≤ 2 * bs.length, ∀ n open_ rest,
      skipRest (n + k) (bracket :: open_) (bs ++ rest) = skipRest n open_ rest := by
  generalize first : false = later at spaced
  induction spaced with
  | nil blank =>
    refine ⟨1, by simp; omega, fun n open_ rest => ?_⟩
    rw [List.append_assoc, List.singleton_append, skipRest,
      skipSpace_blank_cons blank (isSpace_close bracket)]
    simp only [if_neg (close_ne_comma bracket), if_true]
  | @cons _ ws bs cs a as separates here rest ih =>
    subst first
    obtain ⟨part, others⟩ := List.forall_mem_cons.mp parts
    obtain ⟨front, back, rfl, blank, blank'⟩ := separates
    obtain ⟨-, k, few, passes⟩ := part bs here
    obtain ⟨m, few', behind⟩ := ih others rfl
    -- one step for the comma, and then those for the part and for what comes behind it
    refine ⟨m + k + 1, ?_, fun n open_ rest' => ?_⟩
    · simp only [List.length_append, List.length_cons]
      omega
    · obtain ⟨named, name, skips⟩ := passes (n + m) open_ back _ blank' (rest.stops rest')
      rw [show n + (m + k + 1) = n + m + k + 1 by omega]
      simp only [List.append_assoc, List.cons_append]
      rw [skipRest, skipSpace_blank_cons blank (by decide)]
      simp only [if_true, name, skips, behind]

/-- All parts, and the closing bracket. -/
theorem skipFirst_spaced (parts : ∀ a ∈ as, ∀ bs, written a bs → PassesPart bracket bs)
    (spaced : Spaced written bracket.close true as bs) :
    ∃ k ≤ 2 * bs.length + 1, ∀ n open_ rest,
      skipFirst (n + k) bracket open_ (bs ++ rest) = skipRest n open_ rest := by
  cases spaced with
  | nil blank =>
    refine ⟨1, by simp, fun n open_ rest => ?_⟩
    rw [List.append_assoc, List.singleton_append, skipFirst,
      skipSpace_blank_cons blank (isSpace_close bracket)]
    simp only [if_true]
  | @cons _ ws bs cs a as blank here rest =>
    obtain ⟨part, others⟩ := List.forall_mem_cons.mp parts
    obtain ⟨⟨b, tail, rfl, solid, open_⟩, k, few, passes⟩ := part bs here
    obtain ⟨m, few', behind⟩ := skipRest_spaced others rest
    refine ⟨m + k + 1, ?_, fun n brackets rest' => ?_⟩
    · simp only [List.length_append]
      omega
    · obtain ⟨named, name, skips⟩ := passes (n + m) brackets [] _ blank_nil (rest.stops rest')
      rw [List.nil_append] at name
      rw [show n + (m + k + 1) = n + m + k + 1 by omega]
      simp only [List.append_assoc, List.cons_append] at name ⊢
      rw [skipFirst, skipSpace_blank_cons blank solid]
      simp only [if_neg open_, name, skips, behind]

end Parts

theorem readColon_blank (blank : Blank ws) (rest : Bytes) :
    readColon (ws ++ 0x3A :: rest) = .ok rest := by
  rw [readColon, skipSpace_blank_cons blank (by decide)]
  rfl

/-- An element of a list has no name. -/
theorem passesPart_element (writes : Writes v bs) (passes : Passes bs) : PassesPart .array bs := by
  obtain ⟨b, tail, same, starts⟩ := starts_of_writes writes
  obtain ⟨k, few, skips⟩ := passes
  refine ⟨⟨b, tail, same, starts.solid, starts.open_⟩, k, few,
    fun n open_ ws rest blank stops => ?_⟩
  exact ⟨_, rfl, skips n _ ws rest blank stops⟩

/-- A member of an object has a name. -/
theorem passesPart_member {m : Literal × Tree} (values : ∀ bs, Writes m.2 bs → Passes bs)
    (member : WritesMember Writes m bs) : PassesPart .object bs := by
  obtain @⟨l, v, ws, ws', bs, blank, blank', value⟩ := member
  obtain ⟨k, few, skips⟩ := values bs value
  refine ⟨⟨_, _, rfl, by decide, by decide⟩, k, ?_, fun n open_ space rest spaces stops => ?_⟩
  · simp only [List.length_append, List.length_cons]
    omega
  · refine ⟨ws' ++ (bs ++ rest), ?_, skips n _ ws' rest blank' stops⟩
    simp only [List.append_assoc, List.cons_append]
    rw [skipName, skipSpace_blank_cons spaces (by decide)]
    simp only [if_true, skipQuoted_literal, readColon_blank blank]

theorem passes_of_writes (writes : Writes v bs) : Passes bs := by
  induction v using Tree.induction generalizing bs with
  | null =>
    cases writes
    exact passes_of_scalar isScalar_null
  | bool b =>
    cases writes with
    | true => exact passes_of_scalar (isScalar_bool true)
    | false => exact passes_of_scalar (isScalar_bool false)
  | number n =>
    cases writes
    exact passes_of_scalar (isScalar_number n)
  | text l =>
    cases writes
    exact passes_of_scalar (isScalar_text l)
  | list items ih =>
    cases writes with
    | list parts =>
      obtain ⟨k, few, skips⟩ := skipFirst_spaced
        (fun v there bs writes => passesPart_element writes (ih v there writes)) parts
      refine ⟨k + 1, by simp only [List.length_cons]; omega, fun n open_ ws rest blank _ => ?_⟩
      rw [List.cons_append, ← Nat.add_assoc, skipInside, skipSpace_blank_cons blank (by decide)]
      exact skips n open_ rest
  | object members ih =>
    cases writes with
    | object parts =>
      obtain ⟨k, few, skips⟩ := skipFirst_spaced
        (fun m there bs member => passesPart_member (fun bs value => ih m there value) member) parts
      refine ⟨k + 1, by simp only [List.length_cons]; omega, fun n open_ ws rest blank _ => ?_⟩
      rw [List.cons_append, ← Nat.add_assoc, skipInside, skipSpace_blank_cons blank (by decide)]
      exact skips n open_ rest

/-- **Whatever is written for a tree is passed over**, up to the first byte behind it. -/
theorem skipValue_of_writes (writes : Writes v bs) (blank : Blank ws) (stops : Stops rest) :
    skipValue (ws ++ (bs ++ rest)) = .ok rest := by
  obtain ⟨k, few, skips⟩ := passes_of_writes writes
  obtain ⟨n, enough⟩ : ∃ n, 2 * (ws ++ (bs ++ rest)).length + 2 = n + 1 + k := by
    refine ⟨2 * (ws ++ (bs ++ rest)).length + 1 - k, ?_⟩
    simp only [List.length_append]
    omega
  rw [skipValue, enough, skips (n + 1) [] ws rest blank stops]
  rfl

end Brokerage.Json
