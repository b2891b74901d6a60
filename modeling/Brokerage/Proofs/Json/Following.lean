import Brokerage.Proofs.Json.Passing

/-!
# Readers that follow the grammar

What a reader makes of a text depends on the tree in it alone: not on white space, and not on what
comes behind it (`Follows`). If it fails on one writing of a tree, it fails on all of them. There is
one rule for each reader of a common shape. What is read is named by the tree it is read from, so a
rule gives the value or the failure at the same time.
-/

namespace Brokerage.Json

variable {α β : Type} {read : Reader α} {f : Tree → Option α} {v : Tree} {bs rest ws : Bytes}

/-! ### Following -/

/-- Of a tree `v` a reader makes `f v`, wherever the tree is written, and
leaves what is behind it. -/
def Follows (read : Reader α) (f : Tree → Option α) : Prop :=
  ∀ ⦃v : Tree⦄ ⦃ws bs rest : Bytes⦄, Blank ws → Writes v bs → Stops rest →
    (read (ws ++ (bs ++ rest))).toOption = (f v).map (·, rest)

/-- What a reader makes of a tree. -/
def meaning (read : Reader α) (v : Tree) : Option α :=
  (read v.write).toOption.map Prod.fst

/-- A reader that makes the same of all writings of a tree. -/
def Steady (read : Reader α) : Prop := Follows read (meaning read)

theorem Follows.meaning_eq (follows : Follows read f) : meaning read = f := by
  funext v
  have here := follows blank_nil v.writes_write stops_nil
  rw [List.nil_append, List.append_nil] at here
  rw [meaning, here]
  cases f v <;> rfl

theorem Follows.steady (follows : Follows read f) : Steady read := by
  unfold Steady
  rwa [follows.meaning_eq]

theorem toOption_map (g : α → β) (read : Reader α) (bs : Bytes) :
    (Reader.map g read bs).toOption = (read bs).toOption.map fun p => (g p.1, p.2) := by
  unfold Reader.map
  cases read bs <;> rfl

theorem toOption_exceptMap {γ : Type} (g : β → γ) (found : Except Fault β) :
    (found.map g).toOption = found.toOption.map g := by
  cases found <;> rfl

theorem toOption_filterMap (g : α → Option β) (read : Reader α) (bs : Bytes) :
    (Reader.filterMap g read bs).toOption =
      (read bs).toOption.bind fun p => (g p.1).map (·, p.2) := by
  unfold Reader.filterMap
  cases read bs with
  | error e => rfl
  | ok p =>
    obtain ⟨a, rest⟩ := p
    simp only [Except.toOption, Option.bind_some]
    cases g a <;> rfl

/-- Both sides fail, or both find the same. -/
theorem cases_of_toOption {found : Except Fault (α × Bytes)} {value : Option α}
    (same : found.toOption = value.map (·, rest)) :
    (value = none ∧ ∃ e, found = .error e) ∨ ∃ a, value = some a ∧ found = .ok (a, rest) := by
  cases found with
  | error e =>
    cases value with
    | none => exact .inl ⟨rfl, e, rfl⟩
    | some a => cases same
  | ok p =>
    cases value with
    | none => cases same
    | some a =>
      cases same
      exact .inr ⟨a, rfl, rfl⟩

theorem Follows.map (follows : Follows read f) (g : α → β) :
    Follows (Reader.map g read) fun v => (f v).map g := by
  intro v ws bs rest blank writes stops
  rw [toOption_map, follows blank writes stops, Option.map_map, Option.map_map]
  rfl

theorem Follows.filterMap (follows : Follows read f) (g : α → Option β) :
    Follows (Reader.filterMap g read) fun v => (f v).bind g := by
  intro v ws bs rest blank writes stops
  rw [toOption_filterMap, follows blank writes stops]
  show _ = Option.map _ ((f v).bind g)
  cases f v with
  | none => rfl
  | some a => rfl

/-! ### Texts -/

theorem toOption_prepend (front : Bytes) (found : Except Fault (Bytes × Bytes)) :
    (prepend front found).toOption = found.toOption.map fun p => (front ++ p.1, p.2) := by
  cases found <;> rfl

/-- The bytes of a short escape. -/
theorem readQuotedBytes_of_short {b c : UInt8} (known : shortEscape? b = some c) (rest : Bytes) :
    readQuotedBytes (backslash :: b :: rest) = prepend [c] (readQuotedBytes rest) := by
  rw [readQuotedBytes.eq_def]
  simp only [show backslash ≠ quoteMark by decide, if_false, if_true,
    if_neg (ne_of_shortEscape? known), known]

/-- The code of a whole character. -/
theorem readQuotedBytes_of_whole {h₁ h₂ h₃ h₄ : UInt8} {n : Nat}
    (known : hex4? h₁ h₂ h₃ h₄ = some n)
    (noLow : isLowSurrogate n = false) (noHigh : isHighSurrogate n = false) (rest : Bytes) :
    readQuotedBytes (backslash :: 0x75 :: h₁ :: h₂ :: h₃ :: h₄ :: rest) =
      prepend (charBytes n) (readQuotedBytes rest) := by
  rw [readQuotedBytes.eq_def]
  simp only [show backslash ≠ quoteMark by decide, if_false, if_true, known, noLow, noHigh,
    Bool.false_eq_true]

/-- The second half of a character is not read on its own. -/
theorem readQuotedBytes_of_low {h₁ h₂ h₃ h₄ : UInt8} {n : Nat} (known : hex4? h₁ h₂ h₃ h₄ = some n)
    (low : isLowSurrogate n = true) (rest : Bytes) :
    readQuotedBytes (backslash :: 0x75 :: h₁ :: h₂ :: h₃ :: h₄ :: rest) = .error .malformed := by
  rw [readQuotedBytes.eq_def]
  simp only [show backslash ≠ quoteMark by decide, if_false, if_true, known, low]

/-- The first half of a character is read with the second one. -/
theorem readQuotedBytes_of_pair {h₁ h₂ h₃ h₄ l₁ l₂ l₃ l₄ : UInt8} {n m : Nat}
    (known : hex4? h₁ h₂ h₃ h₄ = some n) (noLow : isLowSurrogate n = false)
    (high : isHighSurrogate n = true) (known' : hex4? l₁ l₂ l₃ l₄ = some m) (rest : Bytes) :
    readQuotedBytes (backslash :: 0x75 :: h₁ :: h₂ :: h₃ :: h₄ :: backslash :: 0x75 :: l₁ :: l₂ ::
      l₃ :: l₄ :: rest) =
      if isLowSurrogate m then prepend (charBytes (pairCode n m)) (readQuotedBytes rest)
      else .error .malformed := by
  rw [readQuotedBytes.eq_def]
  simp only [show backslash ≠ quoteMark by decide, if_false, if_true, known, noLow, high,
    Bool.false_eq_true, and_self, known']

/-- The first half of a character is not read on its own. -/
theorem toOption_readQuotedBytes_of_high {h₁ h₂ h₃ h₄ s : UInt8} {n : Nat}
    (known : hex4? h₁ h₂ h₃ h₄ = some n) (noLow : isLowSurrogate n = false)
    (high : isHighSurrogate n = true) (rest : Bytes)
    (other : ∀ u after, rest = u :: after → ¬ (s = backslash ∧ u = 0x75)) :
    (readQuotedBytes (backslash :: 0x75 :: h₁ :: h₂ :: h₃ :: h₄ :: s :: rest)).toOption = none := by
  rw [readQuotedBytes.eq_def]
  simp only [show backslash ≠ quoteMark by decide, if_false, if_true, known, noLow, high,
    Bool.false_eq_true]
  cases rest with
  | nil =>
    dsimp only
    split <;> rfl
  | cons u after =>
    dsimp only
    rw [if_neg (other u after rfl)]
    rfl

theorem bytes_code {h₁ h₂ h₃ h₄ : UInt8} {n : Nat} (known : hex4? h₁ h₂ h₃ h₄ = some n)
    (l : Literal) (rest : Bytes) :
    Literal.bytes (.code h₁ h₂ h₃ h₄ n known :: l) ++ rest =
      backslash :: 0x75 :: h₁ :: h₂ :: h₃ :: h₄ :: (Literal.bytes l ++ rest) := by
  rw [Literal.bytes_cons, List.append_assoc]
  rfl

/-- Behind the code of a first half, only another code can be read. -/
theorem no_code_next {l : Literal}
    (other : ∀ h₁ h₂ h₃ h₄ m (known : hex4? h₁ h₂ h₃ h₄ = some m) (l' : List Piece),
      l = .code h₁ h₂ h₃ h₄ m known :: l' → False) (rest : Bytes) :
    ∃ s back, Literal.bytes l ++ quoteMark :: rest = s :: back ∧
      ∀ u after, back = u :: after → ¬ (s = backslash ∧ u = 0x75) := by
  cases l with
  | nil => exact ⟨quoteMark, rest, rfl, fun _ _ _ both => absurd both.1 (by decide)⟩
  | cons piece l =>
    rw [Literal.bytes_cons, List.append_assoc]
    cases piece with
    | plain b isPlain => exact ⟨b, _, rfl, fun _ _ _ both => isPlain.2.1 both.1⟩
    | short b c known =>
      refine ⟨backslash, _, rfl, fun u after back both => ?_⟩
      obtain ⟨rfl, -⟩ := List.cons.inj back
      exact ne_of_shortEscape? known both.2
    | code h₁ h₂ h₃ h₄ m known => exact absurd rfl (other h₁ h₂ h₃ h₄ m known l)

/-- **A string is read for what it stands for**, up to and with its closing mark. -/
theorem readQuotedBytes_literal (l : Literal) (rest : Bytes) :
    (readQuotedBytes (Literal.bytes l ++ quoteMark :: rest)).toOption =
      (Literal.content? l).map (·, rest) := by
  have behind {l : Literal} (front : Bytes)
      (ih : (readQuotedBytes (Literal.bytes l ++ quoteMark :: rest)).toOption =
        (Literal.content? l).map (·, rest)) :
      (prepend front (readQuotedBytes (Literal.bytes l ++ quoteMark :: rest))).toOption =
        ((Literal.content? l).map (front ++ ·)).map (·, rest) := by
    rw [toOption_prepend, ih, Option.map_map, Option.map_map]
    rfl
  fun_induction Literal.content? l with
  | case1 =>
    show (readQuotedBytes (quoteMark :: rest)).toOption = _
    rw [readQuotedBytes.eq_def]
    rfl
  | case2 b isPlain l ih =>
    have one : ∀ b' ∈ [b], IsPlain b' := List.forall_mem_singleton.mpr isPlain
    rw [Literal.bytes_cons, List.append_assoc, Piece.bytes, readQuotedBytes_plain one]
    exact behind [b] ih
  | case3 b c known l ih =>
    rw [Literal.bytes_cons, List.append_assoc, Piece.bytes, List.cons_append, List.singleton_append,
      readQuotedBytes_of_short known]
    exact behind [c] ih
  | case4 h₁ h₂ h₃ h₄ n known l low =>
    rw [bytes_code, readQuotedBytes_of_low known low]
    rfl
  | case5 h₁ h₂ h₃ h₄ n known noLow high l₁ l₂ l₃ l₄ m known' l low ih =>
    rw [bytes_code, bytes_code,
      readQuotedBytes_of_pair known (Bool.eq_false_iff.mpr noLow) high known', if_pos low]
    exact behind _ ih
  | case6 h₁ h₂ h₃ h₄ n known noLow high l₁ l₂ l₃ l₄ m known' l noLow' =>
    rw [bytes_code, bytes_code,
      readQuotedBytes_of_pair known (Bool.eq_false_iff.mpr noLow) high known', if_neg noLow']
    rfl
  | case7 h₁ h₂ h₃ h₄ n known l noLow high other =>
    obtain ⟨s, back, next, apart⟩ := no_code_next other rest
    rw [bytes_code, next]
    exact toOption_readQuotedBytes_of_high known (Bool.eq_false_iff.mpr noLow) high back apart
  | case8 h₁ h₂ h₃ h₄ n known l noLow noHigh ih =>
    rw [bytes_code, readQuotedBytes_of_whole known (Bool.eq_false_iff.mpr noLow)
      (Bool.eq_false_iff.mpr noHigh)]
    exact behind _ ih

theorem readQuoted_literal (l : Literal) (rest : Bytes) :
    (readQuoted (Literal.bytes l ++ quoteMark :: rest)).toOption =
      (Literal.text? l).map (·, rest) := by
  unfold readQuoted Literal.text?
  rcases cases_of_toOption (readQuotedBytes_literal l rest) with
    ⟨unread, e, failed⟩ | ⟨bytes, content, found⟩
  · rw [unread, failed]
    rfl
  · rw [content, found]
    simp only [Option.bind_some]
    cases Text.decode? bytes <;> rfl

/-- The text that a tree is. -/
def Tree.text? : Tree → Option String
  | .text l => Literal.text? l
  | _ => none

theorem follows_readText : Follows readText Tree.text? := by
  intro v ws bs rest blank writes stops
  obtain ⟨b, tail, rfl, starts⟩ := starts_of_writes writes
  rw [List.cons_append, readText, skipSpace_blank_cons blank starts.solid]
  dsimp only
  split
  · next mark =>
    obtain ⟨l, rfl⟩ := starts.text.mp mark
    cases writes
    rw [List.append_assoc]
    exact readQuoted_literal l rest
  · next mark =>
    have other : v.text? = none := by
      cases v with
      | text l => exact absurd (starts.text.mpr ⟨l, rfl⟩) mark
      | _ => rfl
    rw [other]
    rfl

/-! ### Numbers -/

section Numbers

variable (negative : Bool) (s : Nat) (e : Int)

/-- What is read off the front of the bytes is the same whatever comes behind them. -/
def Framed (read : Bytes → Except Fault (α × Bytes)) (front : Bytes) : Prop :=
  ∀ ⦃rest : Bytes⦄, Stops rest →
    (read (front ++ rest)).toOption = (read front).toOption.map fun p => (p.1, rest)

/-- A run of digits ends where the bytes do. -/
theorem span_all {ds : Bytes} (digits : ∀ d ∈ ds, isDigit d = true) :
    ds.takeWhile isDigit = ds ∧ ds.dropWhile isDigit = [] := by
  have taken : (ds ++ []).takeWhile isDigit = ds := takeWhile_digits digits nofun
  have left : (ds ++ []).dropWhile isDigit = [] := dropWhile_digits digits nofun
  rw [List.append_nil] at taken left
  exact ⟨taken, left⟩

theorem framed_readExponent {sign ds : Bytes} (signs : sign ∈ [[], [0x2B], [0x2D]])
    (digits : IsDigits ds) : Framed (readExponent negative s e) (sign ++ ds) := by
  intro rest stops
  obtain ⟨d, ds, rfl⟩ := List.exists_cons_of_ne_nil digits.1
  have digits := digits.2
  have digit := digits d List.mem_cons_self
  have apart : d ≠ 0x2B ∧ d ≠ 0x2D := by
    constructor <;> rintro rfl <;> exact absurd digit (by decide)
  have taken := takeWhile_digits digits stops.ends
  have left := dropWhile_digits digits stops.ends
  obtain ⟨taken', left'⟩ := span_all digits
  rw [List.cons_append] at taken left
  simp only [List.mem_cons, List.not_mem_nil, or_false] at signs
  have minus : (0x2D : UInt8) ≠ 0x2B := by decide
  rcases signs with rfl | rfl | rfl <;>
    simp only [readExponent, List.nil_append, List.cons_append, if_neg apart.1, if_neg apart.2,
      if_neg minus, if_true, digit, taken, left, taken', left']
  all_goals
    split
    · split <;> rfl
    · split <;> rfl

variable (n : Numeral)

theorem framed_readScale : Framed (readScale negative s e) n.exponent := by
  intro rest stops
  rcases n.isExponent with noExponent | ⟨letter, sign, ds, spelt, isLetter, signs, digits⟩
  · rw [noExponent, List.nil_append]
    have ends : (readScale negative s e []).toOption.map (fun p => (p.1, rest)) =
        ((signed negative s e).map (·, rest)).toOption := by
      show ((signed negative s e).map (·, [])).toOption.map _ = _
      cases signed negative s e <;> rfl
    rw [ends]
    cases rest with
    | nil => rfl
    | cons b rest => simp only [readScale, (stops b rfl).2.2, Bool.false_eq_true, if_false]
  · have exponent := framed_readExponent negative s e signs digits stops
    rw [spelt, List.cons_append]
    simpa only [readScale, if_pos isLetter] using exponent

/-- A whole number ends where it stops. -/
theorem readFraction_stops (dropped : Nat) (stops : Stops rest) :
    (readFraction negative s dropped rest).toOption =
      (if dropped = 0 then some (wholeNumber negative s)
        else (signed negative s dropped).toOption).map (·, rest) := by
  have ends : (if dropped = 0 then Except.ok (wholeNumber negative s, rest)
      else (signed negative s dropped).map (·, rest)).toOption =
      (if dropped = 0 then some (wholeNumber negative s)
        else (signed negative s dropped).toOption).map (·, rest) := by
    split
    · rfl
    · cases signed negative s dropped <;> rfl
  rw [← ends]
  cases rest with
  | nil => rfl
  | cons b rest =>
    obtain ⟨-, noPoint, noLetter⟩ := stops b rfl
    simp only [readFraction, if_neg noPoint, noLetter, Bool.false_eq_true, if_false]

theorem framed_readFraction (dropped : Nat) :
    Framed (readFraction negative s dropped) (n.fraction ++ n.exponent) := by
  intro rest stops
  have head := n.exponent_head stops
  have head' := n.exponent_head stops_nil
  rw [List.append_nil] at head'
  rcases n.isFraction with absent | ⟨ds, point, filled, digits⟩
  · rw [absent, List.nil_append]
    rcases n.isExponent with noExponent | ⟨letter, sign, ds, spelt, isLetter, signs, digits⟩
    · rw [noExponent, List.nil_append, readFraction_stops negative s dropped stops,
        readFraction_stops negative s dropped stops_nil, Option.map_map]
      rfl
    · have exponent := framed_readExponent negative s dropped signs digits stops
      rw [spelt, List.cons_append]
      have noPoint := (apart_of_isExponentLetter isLetter).1
      simpa only [readFraction, if_neg noPoint, if_pos isLetter] using exponent
  · have taken := takeWhile_digits digits fun b first => (head b first).2
    have left := dropWhile_digits digits fun b first => (head b first).2
    have taken' := takeWhile_digits digits fun b first => (head' b first).2
    have left' := dropWhile_digits digits fun b first => (head' b first).2
    rw [point]
    simp only [List.cons_append, List.append_assoc, readFraction, if_true, taken, left, taken',
      left', if_neg filled]
    exact framed_readScale negative _ _ n stops

/-- Behind the whole part of a number its fraction is read. -/
theorem exists_readNumber :
    ∃ s dropped, ∀ back, (∀ b ∈ back.head?, isDigit b = false) →
      readNumber negative (n.whole ++ back) = readFraction negative s dropped back := by
  obtain ⟨d, ds, whole, digit, digits, zero⟩ := n.whole_cons
  rw [whole]
  by_cases same : d = 0x30
  · obtain rfl := zero same
    subst same
    refine ⟨0, 0, fun back head => ?_⟩
    cases back with
    | nil => rfl
    | cons b back =>
      show (if isDigit b then _ else _) = _
      rw [head b rfl]
      rfl
  · have all : ∀ x ∈ d :: ds, isDigit x = true := List.forall_mem_cons.mpr ⟨digit, digits⟩
    refine ⟨(absorb 0 (d :: ds)).1, (d :: ds).length - (absorb 0 (d :: ds)).2, fun back head => ?_⟩
    rw [List.cons_append, readNumber.eq_def]
    simp only [if_neg same, if_pos digit, ← List.cons_append, takeWhile_digits all head,
      dropWhile_digits all head]

/-- What is read of a number is the same whatever comes behind it. -/
theorem framed_readNumber : Framed (readNumber negative) n.unsigned := by
  intro rest stops
  obtain ⟨s, dropped, fraction⟩ := exists_readNumber negative n
  have head := n.fraction_head stops
  have head' := n.fraction_head stops_nil
  rw [List.append_nil] at head'
  have framed := framed_readFraction negative s n dropped stops
  unfold Numeral.unsigned
  rw [List.append_assoc] at framed ⊢
  rw [List.append_assoc, fraction _ head, fraction _ head']
  exact framed

end Numbers

/-- The natural number within the bound that a tree is. -/
def Tree.nat? (bound : Nat) : Tree → Option Nat
  | .number n => n.value?.bind (Number.nat? bound)
  | _ => none

theorem follows_readNat (bound : Nat) : Follows (readNat bound) (Tree.nat? bound) := by
  intro v ws bs rest blank writes stops
  have number (n : Numeral) :
      (Reader.filterMap (Number.nat? bound) (readNumber n.negative) (n.unsigned ++ rest)).toOption =
        (Tree.nat? bound (.number n)).map (·, rest) := by
    rw [toOption_filterMap, framed_readNumber n.negative n stops, Tree.nat?, Numeral.value?]
    cases (readNumber n.negative n.unsigned).toOption <;> rfl
  obtain ⟨b, tail, rfl, starts⟩ := starts_of_writes writes
  rw [List.cons_append, readNat, skipSpace_blank_cons blank starts.solid]
  dsimp only
  split
  · next minus =>
    obtain ⟨n, rfl, negative⟩ := starts.minus.mp minus
    have here := number n
    rw [negative] at here
    generalize bytes : b :: tail = bs at writes
    cases writes
    rw [Numeral.bytes, if_pos negative, List.singleton_append] at bytes
    rwa [(List.cons.inj bytes).2]
  split
  · next digit =>
    obtain ⟨n, rfl, positive⟩ := starts.digit.mp digit
    have here := number n
    rw [positive] at here
    generalize bytes : b :: tail = bs at writes
    cases writes
    rw [Numeral.bytes, positive, if_neg Bool.false_ne_true, List.nil_append] at bytes
    rwa [← List.cons_append, bytes]
  · next minus digit =>
    have other : v.nat? bound = none := by
      cases v with
      | number n =>
        cases sign : n.negative with
        | true => exact absurd (starts.minus.mpr ⟨n, rfl, sign⟩) minus
        | false => exact absurd (starts.digit.mpr ⟨n, rfl, sign⟩) digit
      | _ => rfl
    rw [other]
    rfl

/-! ### Values that may be absent -/

/-- What a tree is if `null` is nothing. -/
def Tree.optional (f : Tree → Option α) : Tree → Option (Option α)
  | .null => some none
  | v => (f v).map some

theorem Tree.optional_of_ne {v : Tree} (other : v ≠ .null) (f : Tree → Option α) :
    v.optional f = (f v).map some := by
  cases v with
  | null => exact absurd rfl other
  | _ => rfl

/-- Behind its first byte, `null` is the rest of the word. -/
theorem tail_of_null {b : UInt8} {tail : Bytes} (writes : Writes .null (b :: tail)) :
    tail = word "ull" := by
  generalize bytes : b :: tail = bs at writes
  cases writes
  exact (List.cons.inj bytes).2

theorem follows_readOption (follows : Follows read f) :
    Follows (readOption read) (Tree.optional f) := by
  intro v ws bs rest blank writes stops
  obtain ⟨b, tail, rfl, starts⟩ := starts_of_writes writes
  have here := follows.map some blank_nil writes stops
  rw [List.cons_append, readOption, skipSpace_blank_cons blank starts.solid]
  dsimp only
  split
  · next null =>
    obtain rfl := starts.null.mp null
    obtain rfl := tail_of_null writes
    rw [readWord_append]
    rfl
  · next null =>
    rw [Tree.optional_of_ne (mt starts.null.mpr null)]
    exact here

/-- Nothing, if a tree is `null`. -/
def Tree.null? : Tree → Option Unit
  | .null => some ()
  | _ => none

theorem follows_readNull : Follows readNull Tree.null? := by
  intro v ws bs rest blank writes stops
  obtain ⟨b, tail, rfl, starts⟩ := starts_of_writes writes
  rw [List.cons_append, readNull, skipSpace_blank_cons blank starts.solid]
  dsimp only
  split
  · next null =>
    obtain rfl := starts.null.mp null
    obtain rfl := tail_of_null writes
    rw [readWord_append]
    rfl
  · next null =>
    cases v with
    | null => exact absurd (starts.null.mpr rfl) null
    | _ => rfl

/-! ### Lists -/

theorem closeBracket_blank (bracket : Bracket) (blank : Blank ws) (rest : Bytes) :
    closeBracket bracket (ws ++ bracket.close :: rest) = .ok rest := by
  rw [closeBracket, skipSpace_blank_cons blank (isSpace_close bracket)]
  exact if_pos rfl

/-- A bracket is not closed as long as a part comes next. -/
theorem closeBracket_separated {first : Bool} {bracket : Bracket} {b : UInt8}
    (separates : Separates first ws) (solid : isSpace b = false) (other : b ≠ bracket.close)
    (rest : Bytes) : (closeBracket bracket (ws ++ b :: rest)).toOption = none := by
  cases first with
  | true =>
    rw [closeBracket, skipSpace_blank_cons separates solid]
    simp only [if_neg other]
    rfl
  | false =>
    obtain ⟨front, back, rfl, blank, -⟩ := separates
    rw [List.append_assoc, List.cons_append, closeBracket, skipSpace_blank_cons blank (by decide)]
    simp only [if_neg (close_ne_comma bracket).symm]
    rfl

theorem nextElement_close (first : Bool) (blank : Blank ws) (rest : Bytes) :
    nextElement first (ws ++ Bracket.array.close :: rest) = .ok none := by
  rw [nextElement, skipSpace_blank_cons blank (by decide)]
  exact if_pos rfl

theorem nextElement_separated {first : Bool} {b : UInt8} (separates : Separates first ws)
    (solid : isSpace b = false) (open_ : b ≠ Bracket.array.close) (rest : Bytes) :
    nextElement first (ws ++ b :: rest) = .ok (some (b :: rest)) := by
  cases first with
  | true =>
    rw [nextElement, skipSpace_blank_cons separates solid]
    simp only [if_neg open_, if_true]
  | false =>
    obtain ⟨front, back, rfl, blank, blank'⟩ := separates
    rw [List.append_assoc, List.cons_append, nextElement, skipSpace_blank_cons blank (by decide)]
    simp only [if_neg (close_ne_comma .array).symm, Bool.false_eq_true, if_false, if_true,
      skipSpace_blank_cons blank' solid, if_neg open_]

/-- The items that a tree is, as far as it is a list. -/
def Tree.list? (f : Tree → Option α) : Tree → Option (List α)
  | .list items => items.mapM f
  | _ => none

theorem follows_readElements (follows : Follows read f) {items : List Tree} {n : Nat} {first : Bool}
    (spaced : Spaced Writes Bracket.array.close first items bs) (enough : items.length < n) :
    (readElements read n first (bs ++ rest)).toOption = (items.mapM f).map (·, rest) := by
  induction spaced generalizing n with
  | nil blank =>
    obtain ⟨n, rfl⟩ := Nat.exists_eq_add_one_of_ne_zero (Nat.ne_of_gt enough)
    rw [List.append_assoc, List.singleton_append, readElements, nextElement_close _ blank]
    simp only [closeBracket_blank .array blank]
    rfl
  | @cons first ws bs cs v items separates here later ih =>
    obtain ⟨n, rfl⟩ := Nat.exists_eq_add_one_of_ne_zero (Nat.ne_of_gt (Nat.zero_lt_of_lt enough))
    have next := follows blank_nil here (later.stops rest)
    have others := ih (Nat.lt_of_succ_lt_succ enough)
    obtain ⟨b, tail, rfl, starts⟩ := starts_of_writes here
    rw [List.append_assoc, List.append_assoc, List.cons_append, readElements,
      nextElement_separated separates starts.solid starts.open_, List.mapM_cons]
    rw [List.nil_append, List.cons_append] at next
    rcases cases_of_toOption next with ⟨unread, e, failed⟩ | ⟨a, value, found⟩
    · simp only [failed, unread]
      rfl
    · simp only [found, value]
      rw [toOption_map, others]
      cases items.mapM f <;> rfl

theorem follows_readList (follows : Follows read f) : Follows (readList read) (Tree.list? f) := by
  intro v ws bs rest blank writes stops
  obtain ⟨b, tail, rfl, starts⟩ := starts_of_writes writes
  rw [List.cons_append, readList, skipSpace_blank_cons blank starts.solid]
  dsimp only
  split
  · next list =>
    obtain ⟨items, rfl⟩ := starts.list.mp (by rw [list]; rfl)
    cases writes with
    | list parts =>
      have count := parts.length_le
      rw [if_pos rfl, Nat.add_zero] at count
      refine follows_readElements follows parts ?_
      rw [List.length_append]
      omega
  · next list =>
    cases v with
    | list items =>
      cases writes
      exact absurd rfl list
    | _ => rfl

/-! ### Names -/

/-- What a tree is as a name, or as an object whose only member has the name and is `null`. -/
def Tree.named? (named : String → Option α) : Tree → Option α
  | .text l => (Literal.text? l).bind named
  | .object [(l, .null)] => (Literal.text? l).bind named
  | _ => none

/-- An object stands for a name only if it has one member, and this is `null`. -/
theorem named?_object_cons (named : String → Option α) (l : Literal) (v : Tree)
    (members : List (Literal × Tree)) :
    (Tree.object ((l, v) :: members)).named? named =
      (Literal.text? l).bind fun s => (named s).bind fun a => v.null?.bind fun _ =>
        if members = [] then some a else none := by
  cases members with
  | nil => cases v <;> simp [Tree.named?, Tree.null?]
  | cons m members => cases v <;> simp [Tree.named?]

/-- What is behind the closing bracket of an object, if nothing else of it is left. -/
theorem closeBracket_spaced {members : List (Literal × Tree)} {first : Bool}
    (spaced : Spaced (WritesMember Writes) Bracket.object.close first members bs) (rest : Bytes) :
    (closeBracket .object (bs ++ rest)).toOption = if members = [] then some rest else none := by
  cases spaced with
  | nil blank =>
    rw [List.append_assoc, List.singleton_append, closeBracket_blank .object blank]
    rfl
  | cons separates member later =>
    cases member
    rw [List.append_assoc, List.append_assoc, List.cons_append,
      closeBracket_separated separates (by decide) (by decide), if_neg (List.cons_ne_nil _ _)]

theorem readOnlyName_literal (named : String → Option α) (blank : Blank ws) (l : Literal)
    (rest : Bytes) :
    (Reader.filterMap named readOnlyName
      (ws ++ quoteMark :: (Literal.bytes l ++ quoteMark :: rest))).toOption =
        ((Literal.text? l).bind named).map (·, rest) := by
  rw [toOption_filterMap, readOnlyName, skipSpace_blank_cons blank (by decide)]
  simp only [if_true, readQuoted_literal]
  cases Literal.text? l <;> rfl

theorem follows_readNamed (named : String → Option α) :
    Follows (readNamed named) (Tree.named? named) := by
  intro v ws bs rest blank writes stops
  obtain ⟨b, tail, rfl, starts⟩ := starts_of_writes writes
  rw [List.cons_append, readNamed, skipSpace_blank_cons blank starts.solid]
  dsimp only
  split
  · next mark =>
    obtain ⟨l, rfl⟩ := starts.text.mp mark
    cases writes
    rw [toOption_filterMap, List.append_assoc, List.singleton_append, readQuoted_literal,
      Tree.named?]
    cases Literal.text? l <;> rfl
  split
  · next noMark object =>
    obtain ⟨members, rfl⟩ := starts.object.mp object
    cases writes with
    | object parts =>
      cases parts with
      | nil blank' =>
        rw [List.append_assoc, List.singleton_append, Reader.filterMap, readOnlyName,
          skipSpace_blank_cons blank' (by decide)]
        rfl
      | @cons _ ws bs cs m members separates member later =>
        obtain @⟨l, v, ws', ws'', bs, blank', blank'', value⟩ := member
        have name := readOnlyName_literal named separates l
          (ws' ++ 0x3A :: (ws'' ++ (bs ++ (cs ++ rest))))
        have null := follows_readNull blank'' value (later.stops rest)
        simp only [List.append_assoc, List.cons_append]
        rw [named?_object_cons, ← Option.bind_assoc]
        rcases cases_of_toOption name with ⟨unread, e, failed⟩ | ⟨a, known, found⟩
        · rw [unread]
          simp only [failed]
          rfl
        · rw [known, Option.bind_some]
          simp only [found, readColon_blank blank']
          rcases cases_of_toOption null with ⟨unread, e, failed⟩ | ⟨_, nulled, found⟩
          · simp only [failed, unread]
            rfl
          · simp only [found, nulled, Option.bind_some]
            rw [toOption_exceptMap, closeBracket_spaced later rest]
            split <;> rfl
  · next noMark noObject =>
    cases v with
    | text l => exact absurd (starts.text.mpr ⟨l, rfl⟩) noMark
    | object members => exact absurd (starts.object.mpr ⟨members, rfl⟩) (by simpa using noObject)
    | _ => rfl

end Brokerage.Json
