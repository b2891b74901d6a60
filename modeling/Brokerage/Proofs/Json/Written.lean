import Brokerage.Json.Value
import Brokerage.Proofs.Json.Quoted
import Mathlib.Data.List.Basic

/-!
# Values that are written

What is written for a value is a text (`encode_writeText`). A reader takes the value for `a`
(`Denotes`) if it finds `a` wherever the value is written: whatever comes behind it, as far as
something can, is left to read. There is one rule for each reader of a common shape: texts, natural
numbers, values that may be absent, names and lists.
-/

namespace Brokerage.Json

variable {α β : Type}

/-! ### Bytes of texts -/

/-- The bytes are those of a text. -/
def IsText (bs : Bytes) : Prop := ∃ cs : List Char, bs = cs.flatMap String.utf8EncodeChar

theorem IsText.nil : IsText [] := ⟨[], rfl⟩

theorem IsText.append {bs bs' : Bytes} (front : IsText bs) (back : IsText bs') :
    IsText (bs ++ bs') := by
  obtain ⟨cs, rfl⟩ := front
  obtain ⟨ds, rfl⟩ := back
  exact ⟨cs ++ ds, List.flatMap_append.symm⟩

/-- A byte of ASCII is a character. -/
theorem IsText.cons {b : UInt8} {bs : Bytes} (ascii : b < 0x80) (rest : IsText bs) :
    IsText (b :: bs) := by
  have all : ∀ n < 0x80, String.utf8EncodeChar (Char.ofNat n) = [UInt8.ofNat n] := by decide
  have char : IsText [b] := by
    refine ⟨[Char.ofNat b.toNat], ?_⟩
    rw [List.flatMap_singleton, all _ (UInt8.lt_iff_toNat_lt.mp ascii), UInt8.ofNat_toNat]
  exact char.append rest

theorem isText_word (s : String) : IsText (word s) := ⟨s.toList, Text.encode_eq_flatMap s⟩

theorem isText_writeQuoted (s : String) : IsText (writeQuoted s) := by
  obtain ⟨cs, bytes, -⟩ := exists_quoted s.toList
  rw [writeQuoted, Text.encode_eq_flatMap, bytes]
  exact .cons (by decide) (.append ⟨cs, rfl⟩ (.cons (by decide) .nil))

namespace Value

mutual

theorem isText_write : ∀ v : Value, IsText v.write
  | .null | .bool true | .bool false => isText_word _
  | .number n => isText_word n.write
  | .text s => isText_writeQuoted s
  | .list items => .cons (by decide) (.append (isText_writeItems items) (.cons (by decide) .nil))
  | .object members =>
    .cons (by decide) (.append (isText_writeMembers members) (.cons (by decide) .nil))

theorem isText_writeItems : ∀ items : List Value, IsText (writeItems items)
  | [] => .nil
  | [v] => isText_write v
  | v :: w :: rest =>
    .append (isText_write v) (.cons (by decide) (isText_writeItems (w :: rest)))

theorem isText_writeMembers : ∀ members : List (String × Value), IsText (writeMembers members)
  | [] => .nil
  | [(name, v)] => .append (isText_writeQuoted name) (.cons (by decide) (isText_write v))
  | (name, v) :: m :: rest =>
    .append (isText_writeQuoted name) (.cons (by decide)
      (.append (isText_write v) (.cons (by decide) (isText_writeMembers (m :: rest)))))

end

/-- **Nothing is replaced in what is written.** -/
theorem encode_writeText (v : Value) : Text.encode v.writeText = v.write := by
  obtain ⟨cs, bytes⟩ := isText_write v
  rw [writeText, Text.decodeLossy, Text.encode_ofList, bytes, Text.decodeLossyChars_flatMap]

end Value

/-! ### What a value denotes -/

/-- What may come behind a value that is written: a comma, a closing bracket, or nothing. -/
def Closes (rest : Bytes) : Prop := ∀ b ∈ rest.head?, b ∈ [0x2C, 0x5D, 0x7D]

/-- A reader finds `a` where the value is written. -/
structure Denotes (read : Reader α) (v : Value) (a : α) : Prop where
  /-- The first byte is no blank, and it does not close a list. -/
  first : ∃ b bs, v.write = b :: bs ∧ isSpace b = false ∧ b ≠ Bracket.array.close
  found : ∀ rest, Closes rest → read (v.write ++ rest) = .ok (a, rest)

theorem closes_nil : Closes [] := nofun

theorem Closes.cons {b : UInt8} (closes : b ∈ [0x2C, 0x5D, 0x7D]) (rest : Bytes) :
    Closes (b :: rest) := by
  intro b' here
  cases here
  exact closes

theorem skipSpace_cons {b : UInt8} (solid : isSpace b = false) (bs : Bytes) :
    skipSpace (b :: bs) = b :: bs :=
  List.dropWhile_cons_of_neg (by simp [solid])

namespace Denotes

variable {read : Reader α} {v : Value} {a : α}

/-- What is denoted by the whole of a text. -/
theorem readAll_eq (h : Denotes read v a) : readAll read (Text.encode v.writeText) = .ok a := by
  have found := h.found [] closes_nil
  rw [List.append_nil] at found
  rw [Value.encode_writeText, readAll, found]
  exact if_pos rfl

theorem map (h : Denotes read v a) (f : α → β) : Denotes (Reader.map f read) v (f a) := by
  refine ⟨h.first, fun rest closes => ?_⟩
  rw [Reader.map, h.found rest closes]

theorem filterMap (h : Denotes read v a) {f : α → Option β} {b : β} (kept : f a = some b) :
    Denotes (Reader.filterMap f read) v b := by
  refine ⟨h.first, fun rest closes => ?_⟩
  rw [Reader.filterMap, h.found rest closes]
  simp only [kept]

end Denotes

/-! ### Texts and names -/

section Texts

variable (s : String)

theorem writeQuoted_append (rest : Bytes) : writeQuoted s ++ rest =
    quoteMark :: ((Text.encode s).flatMap escapeByte ++ quoteMark :: rest) := by
  rw [writeQuoted, List.cons_append, List.append_assoc, List.singleton_append]

/-- A text is read as it was written. -/
theorem readQuoted_written (rest : Bytes) :
    readQuoted ((Text.encode s).flatMap escapeByte ++ quoteMark :: rest) = .ok (s, rest) := by
  obtain ⟨cs, bytes, quoted⟩ := exists_quoted s.toList
  rw [Text.encode_eq_flatMap, bytes, readQuoted_of_quoted quoted, String.ofList_toList]

theorem first_text : ∃ b bs, (Value.text s).write = b :: bs ∧ isSpace b = false ∧
    b ≠ Bracket.array.close := by
  rw [Value.write, writeQuoted]
  exact ⟨_, _, rfl, by decide, by decide⟩

theorem denotes_text : Denotes readText (.text s) s := by
  refine ⟨first_text s, fun rest _ => ?_⟩
  rw [Value.write, writeQuoted_append, readText, skipSpace_cons (by decide)]
  exact (if_pos rfl).trans (readQuoted_written s rest)

/-- A name is read as the value that has it. -/
theorem denotes_named {named : String → Option α} {s : String} {a : α} (known : named s = some a) :
    Denotes (readNamed named) (.text s) a := by
  refine ⟨first_text s, fun rest _ => ?_⟩
  rw [Value.write, writeQuoted_append, readNamed, skipSpace_cons (by decide)]
  simp only [if_true, Reader.filterMap, readQuoted_written, known]

end Texts

/-! ### Values that may be absent -/

theorem denotes_null (read : Reader α) : Denotes (readOption read) .null none := by
  have bytes : Value.null.write = [0x6E, 0x75, 0x6C, 0x6C] := by
    rw [Value.write]
    rfl
  refine ⟨⟨_, _, bytes, by decide, by decide⟩, fun rest _ => ?_⟩
  rw [bytes]
  rfl

/-- A text that may be absent but is there. -/
theorem Denotes.some {read : Reader α} {s : String} {a : α} (h : Denotes read (.text s) a) :
    Denotes (readOption read) (.text s) (some a) := by
  refine ⟨first_text s, fun rest closes => ?_⟩
  have found := h.found rest closes
  rw [Value.write, writeQuoted_append] at found ⊢
  rw [readOption, skipSpace_cons (by decide)]
  simp only [show quoteMark ≠ 0x6E by decide, if_false, Reader.map, found]

/-! ### Natural numbers -/

section Numbers

variable {n : Nat} {ds : Bytes}

theorem word_natDigits_of_lt (small : n < 10) : word (natDigits n) = [UInt8.ofNat (0x30 + n)] := by
  have all : ∀ n < 10, word (natDigits n) = [UInt8.ofNat (0x30 + n)] := by decide
  exact all n small

/-- The last digit of a number comes behind those of a tenth of it. -/
theorem word_natDigits_of_le (large : 10 ≤ n) :
    word (natDigits n) = word (natDigits (n / 10)) ++ word (natDigits (n % 10)) := by
  have last : Nat.toDigits 10 (n % 10) = [Nat.digitChar (n % 10)] :=
    Nat.toDigits_of_lt_base (Nat.mod_lt _ (by decide))
  simp only [word, natDigits, Text.encode_ofList]
  rw [Nat.toDigits_of_base_le (by decide) large, last, List.flatMap_append]

theorem digit_spec : ∀ d < 10, isDigit (UInt8.ofNat (0x30 + d)) = true ∧
    digitValue (UInt8.ofNat (0x30 + d)) = d ∧ (d ≠ 0 → UInt8.ofNat (0x30 + d) ≠ 0x30) := by
  decide

theorem runValue_append (ds : Bytes) (d : UInt8) :
    runValue (ds ++ [d]) = runValue ds * 10 + digitValue d := by
  rw [runValue, List.foldl_append]
  rfl

/-- The digits of a number: there is one at least, and the first one is no zero unless the number
is zero. -/
theorem natDigits_spec (n : Nat) : ∃ b bs, word (natDigits n) = b :: bs ∧
    (∀ d ∈ b :: bs, isDigit d = true) ∧ runValue (b :: bs) = n ∧ (n ≠ 0 → b ≠ 0x30) := by
  induction n using Nat.strongRecOn with
  | ind n ih =>
    by_cases small : n < 10
    · obtain ⟨digit, value, solid⟩ := digit_spec n small
      refine ⟨_, _, word_natDigits_of_lt small, ?_, ?_, solid⟩
      · simpa using digit
      · simpa [runValue] using value
    · obtain ⟨b, bs, bytes, digits, value, solid⟩ := ih (n / 10) (by omega)
      obtain ⟨digit, last, -⟩ := digit_spec (n % 10) (Nat.mod_lt _ (by decide))
      refine ⟨b, bs ++ [UInt8.ofNat (0x30 + n % 10)], ?_, ?_, ?_, fun _ => solid (by omega)⟩
      · rw [word_natDigits_of_le (Nat.not_lt.mp small), bytes,
          word_natDigits_of_lt (Nat.mod_lt _ (by decide)), List.cons_append]
      · intro d there
        rw [← List.cons_append, List.mem_append, List.mem_singleton] at there
        rcases there with front | rfl
        · exact digits d front
        · exact digit
      · rw [← List.cons_append, runValue_append, value, last]
        omega

theorem le_foldl_digits (s : Nat) (ds : Bytes) :
    s ≤ ds.foldl (fun n d => n * 10 + digitValue d) s := by
  induction ds generalizing s with
  | nil => exact Nat.le_refl s
  | cons d ds ih => exact Nat.le_trans (by omega) (ih (s * 10 + digitValue d))

/-- All digits of a number that fits go in. -/
theorem absorb_eq (s : Nat) (ds : Bytes)
    (fits : ds.foldl (fun n d => n * 10 + digitValue d) s ≤ maxWhole) :
    absorb s ds = (ds.foldl (fun n d => n * 10 + digitValue d) s, ds.length) := by
  induction ds generalizing s with
  | nil => rfl
  | cons d ds ih =>
    have here : s * 10 + digitValue d ≤ maxWhole := Nat.le_trans (le_foldl_digits _ ds) fits
    rw [absorb, if_pos here, ih _ fits]
    rfl

/-- No part of a number closes it. -/
theorem Closes.not_number {b : UInt8} {rest : Bytes} (closes : Closes (b :: rest)) :
    isDigit b = false ∧ b ≠ 0x2E ∧ isExponentLetter b = false := by
  have closing : b ∈ [0x2C, 0x5D, 0x7D] := closes b rfl
  simp only [List.mem_cons, List.not_mem_nil, or_false] at closing
  rcases closing with rfl | rfl | rfl <;> decide

/-- A number ends where it is closed. -/
theorem readFraction_of_closes {rest : Bytes} (closes : Closes rest) (n : Nat) :
    readFraction false n 0 rest = .ok (.whole n, rest) := by
  cases rest with
  | nil => rfl
  | cons b rest =>
    obtain ⟨-, noPoint, noLetter⟩ := closes.not_number
    rw [readFraction, if_neg noPoint, noLetter]
    rfl

/-- A run of digits ends where the number is closed. -/
theorem span_digits (digits : ∀ d ∈ ds, isDigit d = true) {rest : Bytes} (closes : Closes rest) :
    (ds ++ rest).takeWhile isDigit = ds ∧ (ds ++ rest).dropWhile isDigit = rest := by
  rw [List.takeWhile_append_of_pos digits, List.dropWhile_append_of_pos digits]
  cases rest with
  | nil => exact ⟨List.append_nil ds, rfl⟩
  | cons b rest =>
    have noDigit : ¬ isDigit b = true := by simp [closes.not_number.1]
    rw [List.takeWhile_cons_of_neg noDigit, List.dropWhile_cons_of_neg noDigit, List.append_nil]
    exact ⟨rfl, rfl⟩

/-- A number of 64 bits is read as it was written. -/
theorem readNumber_natDigits (fits : n ≤ maxWhole) {rest : Bytes} (closes : Closes rest) :
    readNumber false (word (natDigits n) ++ rest) = .ok (.whole n, rest) := by
  -- a zero stands alone, and every other number starts with another digit
  by_cases zero : n = 0
  · subst zero
    rw [word_natDigits_of_lt (by decide)]
    cases rest with
    | nil => rfl
    | cons b rest =>
      have noDigit : isDigit b = false := closes.not_number.1
      show (if isDigit b = true then _ else _) = _
      rw [noDigit]
      exact readFraction_of_closes closes 0
  · obtain ⟨b, bs, bytes, digits, value, solid⟩ := natDigits_spec n
    obtain ⟨taken, left⟩ := span_digits digits closes
    have whole : absorb 0 (b :: bs) = (n, (b :: bs).length) := by
      have absorbed := absorb_eq 0 (b :: bs) (Nat.le_trans (Nat.le_of_eq value) fits)
      rwa [show (b :: bs).foldl (fun n d => n * 10 + digitValue d) 0 = n from value] at absorbed
    rw [bytes, List.cons_append, readNumber.eq_def]
    simp only [if_neg (solid zero), if_pos (digits b List.mem_cons_self), ← List.cons_append, taken,
      left, whole, Nat.sub_self]
    exact readFraction_of_closes closes n

/-- A natural number within the bound. -/
theorem denotes_nat {bound : Nat} (within : n ≤ bound) (fits : bound ≤ maxWhole) :
    Denotes (readNat bound) (.nat n) n := by
  have written : (Value.nat n).write = word (natDigits n) := by
    rw [Value.nat, Value.write, Number.write, if_neg (Int.not_lt.mpr (Int.natCast_nonneg n)),
      String.empty_append, Int.natAbs_natCast]
  obtain ⟨b, bs, bytes, digits, -, -⟩ := natDigits_spec n
  have digit : isDigit b = true := digits b List.mem_cons_self
  have apart (c : UInt8) (other : isDigit c = false) : b ≠ c := by
    rintro rfl
    rw [digit] at other
    cases other
  have solid : isSpace b = false := by
    simp [isSpace, apart 0x20 (by decide), apart 0x0A (by decide), apart 0x09 (by decide),
      apart 0x0D (by decide)]
  refine ⟨⟨b, bs, written.trans bytes, solid, apart _ (by decide)⟩, fun rest closes => ?_⟩
  have number := readNumber_natDigits (Nat.le_trans within fits) closes
  rw [bytes, List.cons_append] at number
  rw [written, bytes, List.cons_append, readNat, skipSpace_cons solid]
  simp only [if_neg (apart 0x2D (by decide)), if_pos digit]
  rw [Reader.filterMap, number]
  simp [Number.nat?, within]

end Numbers

/-! ### Lists -/

section Lists

variable {read : Reader α} {vs : List Value} {as : List α}

/-- The items of a list from the next one on, with the closing bracket and what comes behind it. -/
def itemsFrom (first : Bool) (rest : Bytes) : List Value → Bytes
  | [] => Bracket.array.close :: rest
  | v :: vs => (if first then [] else [0x2C]) ++ (v.write ++ itemsFrom false rest vs)

theorem writeItems_append (vs : List Value) (rest : Bytes) :
    Value.writeItems vs ++ Bracket.array.close :: rest = itemsFrom true rest vs := by
  have later (v : Value) (vs : List Value) :
      Value.writeItems (v :: vs) ++ Bracket.array.close :: rest =
        v.write ++ itemsFrom false rest vs := by
    induction vs generalizing v with
    | nil => rw [Value.writeItems, itemsFrom]
    | cons w vs ih =>
      rw [Value.writeItems, List.append_assoc, List.cons_append, ih, itemsFrom]
      rfl
  cases vs with
  | nil => rw [Value.writeItems, itemsFrom, List.nil_append]
  | cons v vs => exact later v vs

theorem closes_itemsFrom (rest : Bytes) (vs : List Value) : Closes (itemsFrom false rest vs) := by
  cases vs with
  | nil => exact .cons (by decide) rest
  | cons v vs => exact .cons (by decide) _

/-- Every item takes up a byte at least. -/
theorem length_lt_itemsFrom (h : List.Forall₂ (Denotes read) vs as) (first : Bool) (rest : Bytes) :
    vs.length < (itemsFrom first rest vs).length := by
  induction h generalizing first with
  | nil => exact Nat.succ_pos _
  | @cons v a vs as value _ ih =>
    obtain ⟨b, bs, bytes, -, -⟩ := value.first
    have tail := ih false
    rw [itemsFrom, bytes]
    simp only [List.length_append, List.length_cons]
    omega

/-- Items are read one after the other. -/
theorem readElements_itemsFrom (h : List.Forall₂ (Denotes read) vs as) (n : Nat) (first : Bool)
    (rest : Bytes) (enough : vs.length < n) :
    readElements read n first (itemsFrom first rest vs) = .ok (as, rest) := by
  induction h generalizing n first with
  | nil =>
    obtain ⟨n, rfl⟩ := Nat.exists_eq_add_one_of_ne_zero (Nat.ne_of_gt enough)
    rfl
  | @cons v a vs as value _ ih =>
    obtain ⟨n, rfl⟩ := Nat.exists_eq_add_one_of_ne_zero (Nat.ne_of_gt (Nat.zero_lt_of_lt enough))
    obtain ⟨b, bs, bytes, solid, open_⟩ := value.first
    have found := value.found _ (closes_itemsFrom rest vs)
    rw [bytes, List.cons_append] at found
    have next : nextElement first (itemsFrom first rest (v :: vs)) =
        .ok (some (b :: (bs ++ itemsFrom false rest vs))) := by
      rw [itemsFrom, bytes, List.cons_append]
      cases first with
      | true =>
        simp only [if_true, List.nil_append, nextElement, skipSpace_cons solid, if_neg open_]
      | false =>
        simp only [Bool.false_eq_true, if_false, List.singleton_append, nextElement,
          skipSpace_cons (b := 0x2C) (by decide), skipSpace_cons solid, if_neg open_, if_true,
          show (0x2C : UInt8) ≠ Bracket.array.close by decide]
    rw [readElements, next]
    simp only [found, Reader.map, ih n false (Nat.lt_of_succ_lt_succ enough)]

/-- A list of values. -/
theorem denotes_list (h : List.Forall₂ (Denotes read) vs as) :
    Denotes (readList read) (.list vs) as := by
  have written (rest : Bytes) : (Value.list vs).write ++ rest = 0x5B :: itemsFrom true rest vs := by
    rw [Value.write, List.cons_append, List.append_assoc, List.singleton_append,
      ← writeItems_append]
    rfl
  refine ⟨⟨0x5B, _, by rw [Value.write], by decide, by decide⟩, fun rest _ => ?_⟩
  rw [written, readList, skipSpace_cons (by decide)]
  simp only [if_true]
  exact readElements_itemsFrom h _ true rest
    (Nat.lt_succ_of_lt (length_lt_itemsFrom h true rest))

end Lists

end Brokerage.Json
