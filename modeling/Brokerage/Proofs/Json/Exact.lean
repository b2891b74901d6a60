import Brokerage.Proofs.Json.Quoted

/-!
# Nothing but the grammar of strings is read

What is read as a string, off the bytes of a text, is one that the grammar allows, and the bytes
that are left are those of the characters behind its closing mark (`quoted_of_readQuotedBytes`).
The reader looks for bytes of ASCII only, and in the bytes of a text such a byte is a character
(`exists_of_ascii`), so no step of it ends inside a character.
-/

namespace Brokerage.Json

variable {cs : List Char} {bs rest : Bytes} {b : UInt8} {n : Nat}

/-- A byte of ASCII in front of the bytes of a text is its first character. -/
theorem exists_of_ascii (ascii : b < 0x80) (bytes : cs.flatMap String.utf8EncodeChar = b :: bs) :
    ∃ es, cs = Char.ofNat b.toNat :: es ∧ es.flatMap String.utf8EncodeChar = bs := by
  cases cs with
  | nil => cases bytes
  | cons c es =>
    obtain ⟨d, ds, front⟩ := List.exists_cons_of_ne_nil (String.utf8EncodeChar_ne_nil (c := c))
    rw [List.flatMap_cons, front] at bytes
    obtain ⟨rfl, back⟩ := List.cons.inj bytes
    have value : c.toNat = d.toNat :=
      (Text.mem_utf8EncodeChar_iff ascii).mp (front ▸ List.mem_cons_self)
    have small : c.toNat < 0x80 := value ▸ UInt8.lt_iff_toNat_lt.mp ascii
    rw [Text.utf8EncodeChar_of_lt small] at front
    obtain rfl := (List.cons.inj front).2
    exact ⟨es, by rw [← value, Char.ofNat_toNat], back⟩

/-! ### Digits and escapes -/

/-- Where characters stand in the order of their numbers, each is found by its number. -/
theorem getElem?_stretch {cs : List Char} {place start width m : Nat}
    (stretch : ∀ k < width, cs[place + k]? = some (Char.ofNat (start + k)))
    (first : start ≤ m) (last : m < start + width) :
    cs[place + (m - start)]? = some (Char.ofNat m) := by
  have here := stretch (m - start) (by omega)
  rwa [Nat.add_sub_cancel' first] at here

/-- What is read as a hexadecimal digit is one. -/
theorem isHexDigit_of_hexValue? (read : hexValue? b = some n) :
    b < 0x80 ∧ IsHexDigit (Char.ofNat b.toNat) n := by
  have digits : ∀ k < 10,
      "0123456789abcdef".toList[0 + k]? = some (Char.ofNat (0x30 + k)) := by decide
  have small : ∀ k < 6,
      "0123456789abcdef".toList[10 + k]? = some (Char.ofNat (0x61 + k)) := by decide
  have capital : ∀ k < 6,
      "0123456789ABCDEF".toList[10 + k]? = some (Char.ofNat (0x41 + k)) := by decide
  rw [UInt8.lt_iff_toNat_lt]
  show b.toNat < 0x80 ∧ _
  unfold hexValue? at read
  dsimp only at read
  split at read
  · next range =>
    cases read
    have here := getElem?_stretch digits range.1 (by omega)
    rw [Nat.zero_add] at here
    exact ⟨by omega, .inl here⟩
  split at read
  · next range =>
    cases read
    have here := getElem?_stretch small range.1 (by omega)
    rw [show 10 + (b.toNat - 0x61) = b.toNat - 0x57 by omega] at here
    exact ⟨by omega, .inl here⟩
  split at read
  · next range =>
    cases read
    have here := getElem?_stretch capital range.1 (by omega)
    rw [show 10 + (b.toNat - 0x41) = b.toNat - 0x37 by omega] at here
    exact ⟨by omega, .inr here⟩
  · cases read

/-- What is read as the second byte of a short escape is one. -/
theorem mem_shortEscapes_of_shortEscape? {d : UInt8} (read : shortEscape? b = some d) :
    b < 0x80 ∧ ∃ c, (Char.ofNat b.toNat, c) ∈ shortEscapes ∧ String.utf8EncodeChar c = [d] := by
  have known : b < 0x80 ∧ ∃ pair ∈ shortEscapes,
      pair.1 = Char.ofNat b.toNat ∧ String.utf8EncodeChar pair.2 = [d] := by
    unfold shortEscape? at read
    repeat
      split at read
      · next same =>
        cases read
        subst same
        decide
    cases read
  obtain ⟨ascii, ⟨e, c⟩, there, rfl, bytes⟩ := known
  exact ⟨ascii, c, there, bytes⟩

/-- Four bytes that are read as a number are four digits. -/
theorem isHex4_of_hex4? {h₁ h₂ h₃ h₄ : UInt8} (read : hex4? h₁ h₂ h₃ h₄ = some n)
    (bytes : cs.flatMap String.utf8EncodeChar = h₁ :: h₂ :: h₃ :: h₄ :: bs) :
    ∃ ds es, cs = ds ++ es ∧ IsHex4 ds n ∧ es.flatMap String.utf8EncodeChar = bs := by
  rw [hex4?] at read
  split at read
  · next i j k l first second third fourth =>
    cases read
    obtain ⟨ascii₁, digit₁⟩ := isHexDigit_of_hexValue? first
    obtain ⟨ascii₂, digit₂⟩ := isHexDigit_of_hexValue? second
    obtain ⟨ascii₃, digit₃⟩ := isHexDigit_of_hexValue? third
    obtain ⟨ascii₄, digit₄⟩ := isHexDigit_of_hexValue? fourth
    obtain ⟨_, rfl, behind₁⟩ := exists_of_ascii ascii₁ bytes
    obtain ⟨_, rfl, behind₂⟩ := exists_of_ascii ascii₂ behind₁
    obtain ⟨_, rfl, behind₃⟩ := exists_of_ascii ascii₃ behind₂
    obtain ⟨es, rfl, behind₄⟩ := exists_of_ascii ascii₄ behind₃
    exact ⟨_, es, rfl, .digits digit₁ digit₂ digit₃ digit₄, behind₄⟩
  · cases read

/-! ### Strings -/

theorem prepend_eq_ok {front : Bytes} {found : Except Fault (Bytes × Bytes)}
    (read : prepend front found = .ok (bs, rest)) :
    ∃ back, found = .ok (back, rest) ∧ bs = front ++ back := by
  cases found with
  | error e => cases read
  | ok found =>
    cases read
    exact ⟨_, rfl, rfl⟩

/-- Off the front of some characters, what denotes one character has been read; the rest is read
next. -/
inductive Taken (cs : List Char) (bs rest : Bytes) : Prop
  | taken (front : List Char) (c : Char) {es : List Char} {back : Bytes} (split : cs = front ++ es)
      (filled : front ≠ []) (denotes : ∀ ds text, Quoted ds text → Quoted (front ++ ds) (c :: text))
      (bytes : bs = String.utf8EncodeChar c ++ back)
      (next : readQuotedBytes (es.flatMap String.utf8EncodeChar) = .ok (back, rest))

/-- What is read behind the code of the first half of a character: the code of the second half. -/
theorem taken_of_high {ds : List Char} (digits : IsHex4 ds n) (high : 0xD800 ≤ n ∧ n ≤ 0xDBFF)
    (read : readQuotedBytes (backslash :: 0x75 ::
      (ds.flatMap String.utf8EncodeChar ++ cs.flatMap String.utf8EncodeChar)) = .ok (bs, rest)) :
    Taken ('\\' :: 'u' :: (ds ++ cs)) bs rest := by
  obtain ⟨h₁, h₂, h₃, h₄, four, number⟩ := digits.read
  have isHigh : isHighSurrogate n = true := by simpa [isHighSurrogate] using high
  have notLow : isLowSurrogate n = false := by
    simp [isLowSurrogate]
    omega
  rw [four, readQuotedBytes.eq_def] at read
  simp only [show ¬ backslash = quoteMark by decide, if_false, if_true, List.cons_append,
    List.nil_append, number, notLow, isHigh, Bool.false_eq_true] at read
  split at read
  · cases read
  · split at read <;> cases read
  next s u after here =>
  split at read
  · next marks =>
    obtain ⟨rfl, rfl⟩ := marks
    obtain ⟨_, rfl, behind⟩ := exists_of_ascii (by decide) here
    obtain ⟨es, rfl, rfl⟩ := exists_of_ascii (by decide) behind
    split at read
    · next l₁ l₂ l₃ l₄ after there =>
      cases number' : hex4? l₁ l₂ l₃ l₄ with
      | none =>
        rw [number'] at read
        cases read
      | some m =>
        obtain ⟨es', es, rfl, digits', rfl⟩ := isHex4_of_hex4? number' there
        simp only [number'] at read
        by_cases second : isLowSurrogate m = true
        · rw [if_pos second] at read
          obtain ⟨back, next, bytes⟩ := prepend_eq_ok read
          have low : 0xDC00 ≤ m ∧ m ≤ 0xDFFF := by simpa [isLowSurrogate] using second
          have code : pairCode n m = 0x10000 + (n - 0xD800) * 0x400 + (m - 0xDC00) := by
            rw [pairCode]
            omega
          have slash : Char.ofNat backslash.toNat = '\\' := rfl
          refine .taken ('\\' :: 'u' :: (ds ++ '\\' :: 'u' :: es')) (Char.ofNat (pairCode n m)) ?_
            (List.cons_ne_nil _ _) (fun cs text rest => ?_) ?_ next
          · simp [slash]
          · have pair := Quoted.pair digits digits' high low rest
            rw [code]
            simpa using pair
          · rw [bytes, charBytes_eq]
        · rw [if_neg second] at read
          cases read
    · cases read
  · cases read

/-- What is read behind the letter of a code. -/
theorem taken_of_code
    (read : readQuotedBytes (backslash :: 0x75 :: cs.flatMap String.utf8EncodeChar) =
      .ok (bs, rest)) :
    Taken ('\\' :: 'u' :: cs) bs rest := by
  have read' := read
  rw [readQuotedBytes.eq_def] at read
  simp only [show ¬ backslash = quoteMark by decide, if_false, if_true] at read
  split at read
  · next h₁ h₂ h₃ h₄ behind here =>
    cases number : hex4? h₁ h₂ h₃ h₄ with
    | none =>
      rw [number] at read
      cases read
    | some n =>
      obtain ⟨ds, es, rfl, digits, rfl⟩ := isHex4_of_hex4? number here
      simp only [number] at read
      by_cases low : isLowSurrogate n = true
      · rw [if_pos low] at read
        cases read
      rw [if_neg low] at read
      by_cases high : isHighSurrogate n = true
      · rw [List.flatMap_append] at read'
        exact taken_of_high digits (by simpa [isHighSurrogate] using high) read'
      · rw [if_neg high] at read
        obtain ⟨back, next, bytes⟩ := prepend_eq_ok read
        have whole : n < 0xD800 ∨ 0xDFFF < n := by
          simp only [isLowSurrogate, isHighSurrogate, Bool.and_eq_true, decide_eq_true_eq]
            at low high
          omega
        exact .taken ('\\' :: 'u' :: ds) (Char.ofNat n) rfl (List.cons_ne_nil _ _)
          (fun cs text rest => .code digits whole rest) (by rw [bytes, charBytes_eq]) next
  · cases read

/-- What is read behind a backslash. -/
theorem taken_of_escape
    (read : readQuotedBytes (backslash :: cs.flatMap String.utf8EncodeChar) = .ok (bs, rest)) :
    Taken ('\\' :: cs) bs rest := by
  have read' := read
  rw [readQuotedBytes.eq_def] at read
  simp only [show ¬ backslash = quoteMark by decide, if_false, if_true] at read
  split at read
  · cases read
  next e after here =>
  split at read
  · -- the code of a character, or of the first half of one
    next code =>
    subst code
    obtain ⟨es, rfl, rfl⟩ := exists_of_ascii (by decide) here
    rw [here] at read'
    exact taken_of_code read'
  · -- a short escape
    split at read
    · next d short =>
      obtain ⟨ascii, c, escape, byte⟩ := mem_shortEscapes_of_shortEscape? short
      obtain ⟨es, rfl, rfl⟩ := exists_of_ascii ascii here
      obtain ⟨back, next, bytes⟩ := prepend_eq_ok read
      exact .taken ['\\', _] c rfl (List.cons_ne_nil _ _) (fun ds text rest => .short escape rest)
        (by rw [bytes, byte]) next
    · cases read

/-- What is read of a character that is neither a mark nor a backslash. -/
theorem taken_of_plain {c : Char} (noMark : c ≠ '"') (noEscape : c ≠ '\\')
    (read : readQuotedBytes ((c :: cs).flatMap String.utf8EncodeChar) = .ok (bs, rest)) :
    Taken (c :: cs) bs rest := by
  rw [List.flatMap_cons] at read
  by_cases visible : 0x20 ≤ c.toNat
  · rw [readQuotedBytes_plain fun b there => isPlain_of_mem visible noMark noEscape there] at read
    obtain ⟨back, next, bytes⟩ := prepend_eq_ok read
    exact .taken [c] c rfl (List.cons_ne_nil _ _)
      (fun ds text rest => .plain visible noMark noEscape rest) bytes next
  · -- a control is one byte, and it is refused
    have ascii : c.toNat < 0x80 := by omega
    have value : (UInt8.ofNat c.toNat).toNat = c.toNat :=
      UInt8.toNat_ofNat_of_lt' (Nat.lt_trans ascii (by decide))
    have control : UInt8.ofNat c.toNat < 0x20 := by
      rw [UInt8.lt_iff_toNat_lt, value]
      exact Nat.not_le.mp visible
    have other (b : UInt8) (high : 0x20 ≤ b) : UInt8.ofNat c.toNat ≠ b := by
      rintro rfl
      exact absurd control (UInt8.not_lt.mpr high)
    rw [Text.utf8EncodeChar_of_lt ascii, List.singleton_append, readQuotedBytes.eq_def] at read
    simp only [if_neg (other quoteMark (by decide)), if_neg (other backslash (by decide)),
      if_pos control] at read
    cases read

/-- Either the closing mark is read, or what denotes one character. -/
theorem taken_of_readQuotedBytes
    (read : readQuotedBytes (cs.flatMap String.utf8EncodeChar) = .ok (bs, rest)) :
    (bs = [] ∧ ∃ es, cs = '"' :: es ∧ rest = es.flatMap String.utf8EncodeChar) ∨
      Taken cs bs rest := by
  cases cs with
  | nil =>
    rw [List.flatMap_nil, readQuotedBytes] at read
    cases read
  | cons c cs =>
    by_cases mark : c = '"'
    · left
      subst mark
      have one : String.utf8EncodeChar '"' = [quoteMark] := rfl
      rw [List.flatMap_cons, one, List.singleton_append, readQuotedBytes.eq_def] at read
      simp only [if_true] at read
      cases read
      exact ⟨rfl, cs, rfl, rfl⟩
    by_cases slash : c = '\\'
    · right
      subst slash
      exact taken_of_escape read
    · right
      exact taken_of_plain mark slash read

/-- **What is read as a string is one that the grammar allows**, with its closing mark behind it. -/
theorem quoted_of_readQuotedBytes
    (read : readQuotedBytes (cs.flatMap String.utf8EncodeChar) = .ok (bs, rest)) :
    ∃ ds text es, cs = ds ++ '"' :: es ∧ Quoted ds text ∧
      bs = text.flatMap String.utf8EncodeChar ∧ rest = es.flatMap String.utf8EncodeChar := by
  induction length : cs.length using Nat.strongRecOn generalizing cs bs with
  | ind n ih =>
    rcases taken_of_readQuotedBytes read with
      ⟨rfl, es, rfl, rfl⟩ | ⟨front, c, rfl, filled, denotes, rfl, next⟩
    · exact ⟨[], [], es, rfl, .nil, rfl, rfl⟩
    · have shorter := List.length_pos_iff.mpr filled
      rw [List.length_append] at length
      obtain ⟨ds, text, es, rfl, quoted, rfl, behind⟩ := ih _ (by omega) next rfl
      exact ⟨front ++ ds, c :: text, es, (List.append_assoc ..).symm, denotes ds text quoted,
        (List.flatMap_cons ..).symm, behind⟩

theorem quoted_of_readQuoted {name : String}
    (read : readQuoted (cs.flatMap String.utf8EncodeChar) = .ok (name, rest)) :
    ∃ ds es, cs = ds ++ '"' :: es ∧ Quoted ds name.toList ∧
      rest = es.flatMap String.utf8EncodeChar := by
  rw [readQuoted] at read
  split at read
  · next bytes behind whole =>
    obtain ⟨ds, text, es, rfl, quoted, rfl, rfl⟩ := quoted_of_readQuotedBytes whole
    rw [Text.decode?_flatMap] at read
    cases read
    exact ⟨ds, es, rfl, (String.toList_ofList (l := text)).symm ▸ quoted, rfl⟩
  · cases read

end Brokerage.Json
