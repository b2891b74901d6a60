import Brokerage.Json.Quote
import Brokerage.Proofs.Text.Encoding
import Mathlib.Data.List.Basic

/-!
# The grammar of JSON strings

What may stand between quotation marks, and which text it denotes, said of characters and without a
reader (`Quoted`): a character as it is, an escape of two characters, the code of a
character in four hexadecimal digits, or two such codes that make up a surrogate pair. Half
of a pair denotes no character.

Whatever the grammar allows is read as the text that it denotes (`readQuotedBytes_of_quoted`). It
works on bytes, but that does not matter: no byte of a character that is not one of ASCII looks like
a mark, a backslash or a control. What is written is one of the ways that the grammar allows
(`exists_quoted`).
-/

namespace Brokerage.Json

/-! ### Strings -/

/-- A character is a hexadecimal digit with this value. -/
def IsHexDigit (c : Char) (n : Nat) : Prop :=
  "0123456789abcdef".toList[n]? = some c ∨ "0123456789ABCDEF".toList[n]? = some c

/-- Four hexadecimal digits write this number. -/
inductive IsHex4 : List Char → Nat → Prop where
  | digits {a b c d : Char} {i j k l : Nat} (first : IsHexDigit a i) (second : IsHexDigit b j)
      (third : IsHexDigit c k) (fourth : IsHexDigit d l) :
      IsHex4 [a, b, c, d] (((i * 16 + j) * 16 + k) * 16 + l)

/-- The second characters of short escapes, each with the character that the escape stands for. -/
def shortEscapes : List (Char × Char) :=
  [('"', '"'), ('\\', '\\'), ('/', '/'), ('b', '\x08'), ('f', '\x0C'), ('n', '\n'),
   ('r', '\r'), ('t', '\t')]

/-- Between quotation marks, the first characters denote the text of the second ones. -/
inductive Quoted : List Char → List Char → Prop where
  | nil : Quoted [] []
  /-- A character as it is. -/
  | plain {c : Char} {cs text : List Char} (visible : 0x20 ≤ c.toNat) (noMark : c ≠ '"')
      (noEscape : c ≠ '\\') (rest : Quoted cs text) : Quoted (c :: cs) (c :: text)
  /-- An escape of two characters. -/
  | short {e c : Char} {cs text : List Char} (escape : (e, c) ∈ shortEscapes)
      (rest : Quoted cs text) : Quoted ('\\' :: e :: cs) (c :: text)
  /-- The code of a character. -/
  | code {ds cs text : List Char} {n : Nat} (digits : IsHex4 ds n) (whole : n < 0xD800 ∨ 0xDFFF < n)
      (rest : Quoted cs text) : Quoted ('\\' :: 'u' :: (ds ++ cs)) (Char.ofNat n :: text)
  /-- The codes of the two halves of a character. -/
  | pair {ds es cs text : List Char} {m n : Nat} (first : IsHex4 ds m) (second : IsHex4 es n)
      (high : 0xD800 ≤ m ∧ m ≤ 0xDBFF) (low : 0xDC00 ≤ n ∧ n ≤ 0xDFFF) (rest : Quoted cs text) :
      Quoted ('\\' :: 'u' :: (ds ++ '\\' :: 'u' :: (es ++ cs)))
        (Char.ofNat (0x10000 + (m - 0xD800) * 0x400 + (n - 0xDC00)) :: text)

/-! ### Reading -/

section Reading

variable {bs rest : Bytes} {c : Char} {n : Nat}

@[simp] theorem prepend_prepend (front back : Bytes) (found : Except Fault (Bytes × Bytes)) :
    prepend front (prepend back found) = prepend (front ++ back) found := by
  cases found with
  | error e => rfl
  | ok found => simp [prepend]

@[simp] theorem prepend_nil (found : Except Fault (Bytes × Bytes)) : prepend [] found = found := by
  cases found <;> rfl

/-- A byte that stands for itself. -/
def IsPlain (b : UInt8) : Prop := b ≠ quoteMark ∧ b ≠ backslash ∧ ¬ b < 0x20

theorem readQuotedBytes_plain (plain : ∀ b ∈ bs, IsPlain b) (rest : Bytes) :
    readQuotedBytes (bs ++ rest) = prepend bs (readQuotedBytes rest) := by
  induction bs with
  | nil => simp
  | cons b bs ih =>
    obtain ⟨noMark, noEscape, visible⟩ := plain b List.mem_cons_self
    have read : readQuotedBytes (b :: (bs ++ rest)) =
        prepend [b] (readQuotedBytes (bs ++ rest)) := by
      rw [readQuotedBytes.eq_def]
      simp only [if_neg noMark, if_neg noEscape, if_neg visible]
    rw [List.cons_append, read, ih fun b there => plain b (List.mem_cons_of_mem _ there),
      prepend_prepend]
    rfl

/-- Only quotation marks, backslashes and controls have bytes that do not stand for themselves. -/
theorem isPlain_of_mem {b : UInt8} (visible : 0x20 ≤ c.toNat) (noMark : c ≠ '"')
    (noEscape : c ≠ '\\') (there : b ∈ String.utf8EncodeChar c) : IsPlain b := by
  by_cases ascii : c.toNat < 0x80
  · rw [Text.utf8EncodeChar_of_lt ascii, List.mem_singleton] at there
    have value : b.toNat = c.toNat := by
      rw [there]
      exact UInt8.toNat_ofNat_of_lt' (Nat.lt_trans ascii (by decide))
    refine ⟨fun same => noMark (Char.toNat_inj.mp ?_), fun same => noEscape (Char.toNat_inj.mp ?_),
      fun control => ?_⟩
    · rw [← value, same]
      rfl
    · rw [← value, same]
      rfl
    · have low := UInt8.lt_iff_toNat_lt.mp control
      rw [value] at low
      exact Nat.not_lt.mpr visible low
  · have high := UInt8.le_iff_toNat_le.mp
      (Text.le_of_mem_utf8EncodeChar (Nat.not_lt.mp ascii) there)
    refine ⟨fun same => ?_, fun same => ?_, fun control => ?_⟩
    · rw [same] at high
      exact absurd high (by decide)
    · rw [same] at high
      exact absurd high (by decide)
    · have low := UInt8.lt_iff_toNat_lt.mp control
      exact Nat.not_lt.mpr high (Nat.lt_trans low (by decide))

/-- A hexadecimal digit is one byte and is read as its value. -/
theorem IsHexDigit.read (h : IsHexDigit c n) :
    ∃ b, String.utf8EncodeChar c = [b] ∧ hexValue? b = some n := by
  have all : ∀ n < 16, ∀ digits ∈ ["0123456789abcdef".toList, "0123456789ABCDEF".toList],
      digits[n]?.all (fun c => String.utf8EncodeChar c == [UInt8.ofNat c.toNat] &&
        hexValue? (UInt8.ofNat c.toNat) == some n) = true := by
    decide
  have read (digits : List Char) (sixteen : digits.length = 16)
      (known : digits ∈ ["0123456789abcdef".toList, "0123456789ABCDEF".toList])
      (there : digits[n]? = some c) :
      String.utf8EncodeChar c = [UInt8.ofNat c.toNat] ∧
        hexValue? (UInt8.ofNat c.toNat) = some n := by
    have checked := all n (sixteen ▸ (List.getElem?_eq_some_iff.mp there).1) digits known
    rw [there] at checked
    simpa using checked
  refine ⟨UInt8.ofNat c.toNat, ?_⟩
  rcases h with lower | upper
  · exact read _ rfl List.mem_cons_self lower
  · exact read _ rfl (List.mem_cons_of_mem _ List.mem_cons_self) upper

/-- Four digits are four bytes and are read as their number. -/
theorem IsHex4.read {ds : List Char} (h : IsHex4 ds n) :
    ∃ a b c d, ds.flatMap String.utf8EncodeChar = [a, b, c, d] ∧ hex4? a b c d = some n := by
  cases h with
  | digits first second third fourth =>
    obtain ⟨a, ea, ha⟩ := first.read
    obtain ⟨b, eb, hb⟩ := second.read
    obtain ⟨c, ec, hc⟩ := third.read
    obtain ⟨d, ed, hd⟩ := fourth.read
    refine ⟨a, b, c, d, ?_, ?_⟩
    · simp [ea, eb, ec, ed]
    · simp [hex4?, ha, hb, hc, hd]

theorem charBytes_eq (n : Nat) : charBytes n = String.utf8EncodeChar (Char.ofNat n) := by
  rw [charBytes, Text.encode_eq_flatMap]
  simp

/-- A short escape is two bytes and is read as the character that it stands for. -/
theorem readQuotedBytes_short {e : Char} (escape : (e, c) ∈ shortEscapes) (rest : Bytes) :
    readQuotedBytes (backslash :: (String.utf8EncodeChar e ++ rest)) =
      prepend (String.utf8EncodeChar c) (readQuotedBytes rest) := by
  have all : ∀ pair ∈ shortEscapes, ∃ b ∈ String.utf8EncodeChar pair.1,
      String.utf8EncodeChar pair.1 = [b] ∧ b ≠ 0x75 ∧
        ∃ d ∈ String.utf8EncodeChar pair.2, String.utf8EncodeChar pair.2 = [d] ∧
          shortEscape? b = some d := by
    decide
  obtain ⟨b, -, eb, notCode, d, -, ed, read⟩ := all _ escape
  rw [eb, ed, List.singleton_append, readQuotedBytes.eq_def]
  simp [notCode, read, backslash, quoteMark]

/-- The code of a character is read as the character. -/
theorem readQuotedBytes_code {ds : List Char} (digits : IsHex4 ds n)
    (whole : n < 0xD800 ∨ 0xDFFF < n) (rest : Bytes) :
    readQuotedBytes (backslash :: 0x75 :: (ds.flatMap String.utf8EncodeChar ++ rest)) =
      prepend (String.utf8EncodeChar (Char.ofNat n)) (readQuotedBytes rest) := by
  obtain ⟨a, b, c, d, bytes, value⟩ := digits.read
  have notLow : isLowSurrogate n = false := by
    simp [isLowSurrogate]
    omega
  have notHigh : isHighSurrogate n = false := by
    simp [isHighSurrogate]
    omega
  rw [bytes, ← charBytes_eq]
  simp [readQuotedBytes, value, notLow, notHigh, backslash, quoteMark]

/-- The codes of the two halves of a character are read as the character. -/
theorem readQuotedBytes_pair {ds es : List Char} {m : Nat} (first : IsHex4 ds m)
    (second : IsHex4 es n) (high : 0xD800 ≤ m ∧ m ≤ 0xDBFF) (low : 0xDC00 ≤ n ∧ n ≤ 0xDFFF)
    (rest : Bytes) :
    readQuotedBytes (backslash :: 0x75 :: (ds.flatMap String.utf8EncodeChar ++
        backslash :: 0x75 :: (es.flatMap String.utf8EncodeChar ++ rest))) =
      prepend (String.utf8EncodeChar (Char.ofNat (0x10000 + (m - 0xD800) * 0x400 + (n - 0xDC00))))
        (readQuotedBytes rest) := by
  obtain ⟨a, b, c, d, bytes, value⟩ := first.read
  obtain ⟨a', b', c', d', bytes', value'⟩ := second.read
  have isHigh : isHighSurrogate m = true := by simpa [isHighSurrogate] using high
  have notLow : isLowSurrogate m = false := by
    simp [isLowSurrogate]
    omega
  have isLow : isLowSurrogate n = true := by simpa [isLowSurrogate] using low
  have code : pairCode m n = 0x10000 + (m - 0xD800) * 0x400 + (n - 0xDC00) := by
    rw [pairCode]
    omega
  rw [bytes, bytes', ← charBytes_eq, ← code]
  simp [readQuotedBytes, value, value', isHigh, notLow, isLow, backslash, quoteMark]

/-- **Whatever the grammar of strings allows is read as the text that it denotes.** -/
theorem readQuotedBytes_of_quoted {cs text : List Char} (h : Quoted cs text) (rest : Bytes) :
    readQuotedBytes (cs.flatMap String.utf8EncodeChar ++ quoteMark :: rest) =
      .ok (text.flatMap String.utf8EncodeChar, rest) := by
  have slash : String.utf8EncodeChar '\\' = [backslash] := rfl
  have u : String.utf8EncodeChar 'u' = [0x75] := rfl
  induction h with
  | nil =>
    rw [readQuotedBytes.eq_def]
    rfl
  | plain visible noMark noEscape _ ih =>
    rw [List.flatMap_cons, List.append_assoc,
      readQuotedBytes_plain (fun b there => isPlain_of_mem visible noMark noEscape there), ih]
    rfl
  | short escape _ ih =>
    rw [List.flatMap_cons, List.flatMap_cons, slash, List.append_assoc, List.singleton_append,
      List.append_assoc, readQuotedBytes_short escape, ih]
    rfl
  | code digits whole _ ih =>
    simp only [List.flatMap_cons, List.flatMap_append, slash, u, List.append_assoc,
      List.cons_append, List.nil_append]
    rw [readQuotedBytes_code digits whole, ih]
    rfl
  | pair first second high low _ ih =>
    simp only [List.flatMap_cons, List.flatMap_append, slash, u, List.append_assoc,
      List.cons_append, List.nil_append]
    rw [readQuotedBytes_pair first second high low, ih]
    rfl

theorem readQuoted_of_quoted {cs text : List Char} (h : Quoted cs text) (rest : Bytes) :
    readQuoted (cs.flatMap String.utf8EncodeChar ++ quoteMark :: rest) =
      .ok (String.ofList text, rest) := by
  rw [readQuoted, readQuotedBytes_of_quoted h]
  simp only [Text.decode?_flatMap]

end Reading

/-! ### Writing -/

/-- The hexadecimal digit of a number. -/
def hexChar (n : Nat) : Char := "0123456789abcdef".toList.getD n '0'

theorem isHexDigit_hexChar {n : Nat} (small : n < 16) : IsHexDigit (hexChar n) n := by
  have all : ∀ n < 16, "0123456789abcdef".toList[n]? = some (hexChar n) := by decide
  exact .inl (all n small)

/-- How a character of ASCII is written: as it is, as a short escape, or by its code. -/
theorem escapeByte_cases : ∀ n < 0x80,
    (escapeByte (UInt8.ofNat n) = [UInt8.ofNat n] ∧ 0x20 ≤ n ∧ n ≠ 0x22 ∧ n ≠ 0x5C) ∨
    (∃ pair ∈ shortEscapes, pair.2.toNat = n ∧
      escapeByte (UInt8.ofNat n) = ['\\', pair.1].flatMap String.utf8EncodeChar) ∨
    escapeByte (UInt8.ofNat n) =
      ['\\', 'u', '0', '0', hexChar (n / 16), hexChar (n % 16)].flatMap String.utf8EncodeChar := by
  decide +kernel

/-- Bytes of other characters are not escaped. -/
theorem escapeByte_of_le {b : UInt8} (wide : 0x80 ≤ b) : escapeByte b = [b] := by
  have high := UInt8.le_iff_toNat_le.mp wide
  have other (n : UInt8) (low : n.toNat < 0x80) : b ≠ n := by
    rintro rfl
    exact Nat.not_lt.mpr high low
  have visible : ¬ b < 0x20 := by
    rw [UInt8.lt_iff_toNat_lt]
    exact Nat.not_lt.mpr (Nat.le_trans (by decide) high)
  simp only [escapeByte, other 0x22 (by decide), other 0x5C (by decide), other 0x08 (by decide),
    other 0x0C (by decide), other 0x0A (by decide), other 0x0D (by decide), other 0x09 (by decide),
    visible, if_false]

/-- A character is written in a way that denotes it. -/
theorem exists_escaped (c : Char) :
    ∃ cs, (String.utf8EncodeChar c).flatMap escapeByte = cs.flatMap String.utf8EncodeChar ∧
      ∀ ds text, Quoted ds text → Quoted (cs ++ ds) (c :: text) := by
  by_cases ascii : c.toNat < 0x80
  · have single : (String.utf8EncodeChar c).flatMap escapeByte =
        escapeByte (UInt8.ofNat c.toNat) := by
      rw [Text.utf8EncodeChar_of_lt ascii, List.flatMap_singleton]
    rcases escapeByte_cases c.toNat ascii with
      ⟨same, visible, noMark, noEscape⟩ | ⟨⟨e, d⟩, escape, value, bytes⟩ | bytes
    · refine ⟨[c], ?_, fun ds text rest => .plain visible ?_ ?_ rest⟩
      · rw [single, same, List.flatMap_singleton, Text.utf8EncodeChar_of_lt ascii]
      · rintro rfl
        exact noMark rfl
      · rintro rfl
        exact noEscape rfl
    · obtain rfl := Char.toNat_inj.mp value
      exact ⟨_, single.trans bytes, fun ds text rest => .short escape rest⟩
    · refine ⟨_, single.trans bytes, fun ds text rest => ?_⟩
      have digits : IsHex4 ['0', '0', hexChar (c.toNat / 16), hexChar (c.toNat % 16)]
          (((0 * 16 + 0) * 16 + c.toNat / 16) * 16 + c.toNat % 16) :=
        .digits (.inl rfl) (.inl rfl) (isHexDigit_hexChar (by omega))
          (isHexDigit_hexChar (by omega))
      have number : ((0 * 16 + 0) * 16 + c.toNat / 16) * 16 + c.toNat % 16 = c.toNat := by omega
      rw [number] at digits
      have written := Quoted.code digits (.inl (Nat.lt_trans ascii (by decide))) rest
      rwa [Char.ofNat_toNat] at written
  · have wide : 0x80 ≤ c.toNat := Nat.not_lt.mp ascii
    have kept (b : UInt8) (there : b ∈ String.utf8EncodeChar c) : escapeByte b = [b] :=
      escapeByte_of_le (Text.le_of_mem_utf8EncodeChar wide there)
    refine ⟨[c], ?_, fun ds text rest => .plain (Nat.le_trans (by decide) wide) ?_ ?_ rest⟩
    · rw [List.flatMap_congr kept, List.flatMap_singleton', List.flatMap_singleton]
    · rintro rfl
      exact ascii (by decide)
    · rintro rfl
      exact ascii (by decide)

/-- **What is written between quotation marks denotes the text that is written.** -/
theorem exists_quoted (text : List Char) :
    ∃ cs, (text.flatMap String.utf8EncodeChar).flatMap escapeByte =
      cs.flatMap String.utf8EncodeChar ∧ Quoted cs text := by
  induction text with
  | nil => exact ⟨[], rfl, .nil⟩
  | cons c text ih =>
    obtain ⟨ds, bytes, rest⟩ := ih
    obtain ⟨cs, escaped, denotes⟩ := exists_escaped c
    refine ⟨cs ++ ds, ?_, denotes ds text rest⟩
    rw [List.flatMap_cons, List.flatMap_append, escaped, bytes, List.flatMap_append]

end Brokerage.Json
