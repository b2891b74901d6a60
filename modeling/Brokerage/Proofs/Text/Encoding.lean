import Brokerage.Text.Utf8

/-!
# Bytes of characters

A text is encoded character by character (`encode_eq_flatMap`). A character of ASCII is one byte,
and no byte of any other character is one of ASCII (`le_of_mem_utf8EncodeChar`). So whoever looks
for ASCII bytes in an encoded text finds characters of the text.

Reading that puts up with ill-formed bytes finds none in an encoded text
(`decodeLossyChars_flatMap`).
-/

namespace Brokerage.Text

variable {c : Char} {b : UInt8}

/-- What is true of the byte with each number is true of all bytes. -/
theorem forall_byte {p : UInt8 → Prop} (all : ∀ m < 256, p (UInt8.ofNat m)) (b : UInt8) : p b := by
  have here := all b.toNat b.toNat_lt
  rwa [UInt8.ofNat_toNat] at here

theorem length_encode (s : String) : (encode s).length = s.utf8ByteSize := rfl

theorem encode_ofList (cs : List Char) :
    encode (String.ofList cs) = cs.flatMap String.utf8EncodeChar := by
  simp [encode, List.utf8Encode]

/-- A text is encoded character by character. -/
theorem encode_eq_flatMap (s : String) : encode s = s.toList.flatMap String.utf8EncodeChar := by
  rw [← encode_ofList, String.ofList_toList]

/-- Different texts have different bytes. -/
theorem encode_injective {s s' : String} (same : encode s = encode s') : s = s' := by
  have read := congrArg decode? same
  rw [decode?_encode, decode?_encode] at read
  exact Option.some.inj read

/-- Encoded characters are read as the text of these characters. -/
theorem decode?_flatMap (cs : List Char) :
    decode? (cs.flatMap String.utf8EncodeChar) = some (String.ofList cs) := by
  rw [← encode_ofList, decode?_encode]

/-- A character of ASCII is one byte. -/
theorem utf8EncodeChar_of_lt (h : c.toNat < 0x80) :
    String.utf8EncodeChar c = [UInt8.ofNat c.toNat] := by
  rw [String.utf8EncodeChar]
  exact if_pos (Nat.le_of_lt_succ h)

/-- All bytes of a character that is not one of ASCII are above those of ASCII. -/
theorem le_of_mem_utf8EncodeChar (h : 0x80 ≤ c.toNat) (hb : b ∈ String.utf8EncodeChar c) :
    0x80 ≤ b := by
  have lead (n : Nat) (hn : 0x80 ≤ n) (small : n < 256) : (0x80 : UInt8) ≤ UInt8.ofNat n := by
    rw [UInt8.le_iff_toNat_le, UInt8.toNat_ofNat_of_lt' small]
    exact hn
  have wide : ¬ c.val.toNat ≤ 0x7F := Nat.not_le.mpr h
  simp only [String.utf8EncodeChar, wide, if_false] at hb
  split at hb
  · simp only [List.mem_cons, List.not_mem_nil, or_false] at hb
    rcases hb with rfl | rfl <;> exact lead _ (by omega) (by omega)
  split at hb
  · simp only [List.mem_cons, List.not_mem_nil, or_false] at hb
    rcases hb with rfl | rfl | rfl <;> exact lead _ (by omega) (by omega)
  · simp only [List.mem_cons, List.not_mem_nil, or_false] at hb
    rcases hb with rfl | rfl | rfl | rfl <;> exact lead _ (by omega) (by omega)

/-- A byte of ASCII stands in an encoded character exactly if it is the character. -/
theorem mem_utf8EncodeChar_iff (h : b < 0x80) :
    b ∈ String.utf8EncodeChar c ↔ c.toNat = b.toNat := by
  have small : b.toNat < 0x80 := UInt8.lt_iff_toNat_lt.mp h
  by_cases ascii : c.toNat < 0x80
  · rw [utf8EncodeChar_of_lt ascii, List.mem_singleton, ← UInt8.toNat_inj,
      UInt8.toNat_ofNat_of_lt' (Nat.lt_trans ascii (by decide))]
    exact eq_comm
  · constructor
    · intro there
      have high := UInt8.le_iff_toNat_le.mp (le_of_mem_utf8EncodeChar (Nat.not_lt.mp ascii) there)
      exact absurd small (Nat.not_lt.mpr high)
    · intro same
      exact absurd (same ▸ small) ascii

/-- A byte of ASCII stands in an encoded text exactly if the text has this character. -/
theorem mem_encode_iff (s : String) (h : b < 0x80) :
    b ∈ encode s ↔ ∃ c ∈ s.toList, c.toNat = b.toNat := by
  rw [encode_eq_flatMap, List.mem_flatMap]
  simp only [mem_utf8EncodeChar_iff h]

/-! ### Lossy decoding -/

section Lossy

variable {m n bits v : Nat} {lo hi : UInt8}

/-- A byte that may come next is taken, with six bits of it. -/
theorem tails_cons (small : m < 64) (low : lo.toNat ≤ m + 128) (high : m + 128 ≤ hi.toNat)
    (n bits : Nat) (bs : Bytes) :
    tails (n + 1) bits lo hi (UInt8.ofNat (m + 128) :: bs) =
      tails n (bits * 64 + m) 0x80 0xBF bs := by
  have value : (UInt8.ofNat (m + 128)).toNat = m + 128 := UInt8.toNat_ofNat_of_lt' (by
    show m + 128 < 256
    omega)
  have fits : lo ≤ UInt8.ofNat (m + 128) ∧ UInt8.ofNat (m + 128) ≤ hi := by
    rw [UInt8.le_iff_toNat_le, UInt8.le_iff_toNat_le, value]
    exact ⟨low, high⟩
  rw [tails, if_pos fits, value]
  congr 2
  omega

/-- After a byte above those of ASCII comes what it says. -/
theorem decodeLossyChars_cons (wide : 0x80 ≤ m) (small : m < 256)
    (lead : lead? (UInt8.ofNat m) = some (n, bits, lo, hi)) (bs : Bytes) :
    decodeLossyChars (UInt8.ofNat m :: bs) =
      ((tails n bits lo hi bs).1.map Char.ofNat).getD '\uFFFD' ::
        decodeLossyChars (tails n bits lo hi bs).2 := by
  have value : (UInt8.ofNat m).toNat = m := UInt8.toNat_ofNat_of_lt' small
  have high : ¬ UInt8.ofNat m < 0x80 := by
    rw [UInt8.lt_iff_toNat_lt, value]
    exact Nat.not_lt.mpr wide
  rw [decodeLossyChars, if_neg high, lead]

/-- The first of two bytes. -/
theorem lead?_two (wide : 0x7F < v) (two : v ≤ 0x7FF) :
    lead? (UInt8.ofNat (v / 64 % 32 + 192)) = some (1, v / 64, 0x80, 0xBF) := by
  rw [lead?, UInt8.toNat_ofNat_of_lt' (by show _ < 256; omega), if_pos (by omega)]
  have value : v / 64 % 32 + 192 - 0xC0 = v / 64 := by omega
  rw [value]

/-- The first of three bytes. It bounds the second one where there is a shorter way to write the
number, or where the number is half of a pair. -/
theorem lead?_three (wide : 0x7FF < v) (three : v ≤ 0xFFFF) (whole : v < 0xD800 ∨ 0xDFFF < v) :
    ∃ lo hi : UInt8, lead? (UInt8.ofNat (v / 4096 % 16 + 224)) = some (2, v / 4096, lo, hi) ∧
      lo.toNat ≤ v / 64 % 64 + 128 ∧ v / 64 % 64 + 128 ≤ hi.toNat := by
  rw [lead?, UInt8.toNat_ofNat_of_lt' (by show _ < 256; omega)]
  by_cases first : v / 4096 = 0
  · exact ⟨0xA0, 0xBF, by simp [first], by simp; omega, by simp; omega⟩
  by_cases pair : v / 4096 = 13
  · exact ⟨0x80, 0x9F, by simp [pair], by simp, by simp; omega⟩
  · have value : v / 4096 % 16 + 224 - 0xE0 = v / 4096 := by omega
    refine ⟨0x80, 0xBF, ?_, by simp, by simp; omega⟩
    rw [if_neg (by omega), if_neg (by omega), if_neg (by omega), if_pos (by omega), value]

/-- The first of four bytes. It bounds the second one where there is a shorter way to write the
number, and where the numbers of characters end. -/
theorem lead?_four (wide : 0xFFFF < v) (small : v < 0x110000) :
    ∃ lo hi : UInt8, lead? (UInt8.ofNat (v / 262144 % 8 + 240)) = some (3, v / 262144, lo, hi) ∧
      lo.toNat ≤ v / 4096 % 64 + 128 ∧ v / 4096 % 64 + 128 ≤ hi.toNat := by
  rw [lead?, UInt8.toNat_ofNat_of_lt' (by show _ < 256; omega)]
  by_cases first : v / 262144 = 0
  · exact ⟨0x90, 0xBF, by simp [first], by simp; omega, by simp; omega⟩
  by_cases last : v / 262144 = 4
  · exact ⟨0x80, 0x8F, by simp [last], by simp, by simp; omega⟩
  · have value : v / 262144 % 8 + 240 - 0xF0 = v / 262144 := by omega
    refine ⟨0x80, 0xBF, ?_, by simp, by simp; omega⟩
    rw [if_neg (by omega), if_neg (by omega), if_neg (by omega), if_neg (by omega),
      if_neg (by omega), if_neg (by omega), if_pos (by omega), value]

/-- A character is read as it was encoded, whatever comes after it. -/
theorem decodeLossyChars_encodeChar (c : Char) (bs : Bytes) :
    decodeLossyChars (String.utf8EncodeChar c ++ bs) = c :: decodeLossyChars bs := by
  have valid : c.toNat < 0xD800 ∨ 0xDFFF < c.toNat ∧ c.toNat < 0x110000 := c.valid
  have char : Char.ofNat c.toNat = c := Char.ofNat_toNat c
  rw [String.utf8EncodeChar]
  show decodeLossyChars ((if c.toNat ≤ 0x7F then [UInt8.ofNat c.toNat] else
    if c.toNat ≤ 0x7FF then
      [UInt8.ofNat (c.toNat / 64 % 32 + 192), UInt8.ofNat (c.toNat % 64 + 128)]
    else if c.toNat ≤ 0xFFFF then
      [UInt8.ofNat (c.toNat / 4096 % 16 + 224), UInt8.ofNat (c.toNat / 64 % 64 + 128),
        UInt8.ofNat (c.toNat % 64 + 128)]
    else
      [UInt8.ofNat (c.toNat / 262144 % 8 + 240), UInt8.ofNat (c.toNat / 4096 % 64 + 128),
        UInt8.ofNat (c.toNat / 64 % 64 + 128), UInt8.ofNat (c.toNat % 64 + 128)]) ++ bs) = _
  generalize c.toNat = v at valid char ⊢
  split
  · next ascii =>
    have value : (UInt8.ofNat v).toNat = v := UInt8.toNat_ofNat_of_lt' (by show _ < 256; omega)
    have low : UInt8.ofNat v < 0x80 := by
      rw [UInt8.lt_iff_toNat_lt, value]
      exact Nat.lt_succ_of_le ascii
    rw [List.singleton_append, decodeLossyChars, if_pos low, value, char]
  split
  · next wide two =>
    have number : v / 64 * 64 + v % 64 = v := by omega
    rw [List.cons_append,
      decodeLossyChars_cons (by omega) (by omega) (lead?_two (Nat.not_le.mp wide) two),
      List.singleton_append, tails_cons (by omega) (by simp) (by simp; omega), tails, number]
    simp [char]
  split
  · next _ wide three =>
    have number : (v / 4096 * 64 + v / 64 % 64) * 64 + v % 64 = v := by omega
    obtain ⟨lo, hi, lead, low, high⟩ := lead?_three (Nat.not_le.mp wide) three (by omega)
    rw [List.cons_append, decodeLossyChars_cons (by omega) (by omega) lead, List.cons_append,
      List.singleton_append, tails_cons (by omega) low high,
      tails_cons (by omega) (by simp) (by simp; omega), tails, number]
    simp [char]
  · next _ _ wide =>
    have number : ((v / 262144 * 64 + v / 4096 % 64) * 64 + v / 64 % 64) * 64 + v % 64 = v := by
      omega
    obtain ⟨lo, hi, lead, low, high⟩ := lead?_four (Nat.not_le.mp wide) (by omega)
    rw [List.cons_append, decodeLossyChars_cons (by omega) (by omega) lead, List.cons_append,
      List.cons_append, List.singleton_append, tails_cons (by omega) low high,
      tails_cons (by omega) (by simp) (by simp; omega),
      tails_cons (by omega) (by simp) (by simp; omega), tails, number]
    simp [char]

/-- In an encoded text there is nothing to replace. -/
theorem decodeLossyChars_flatMap (cs : List Char) :
    decodeLossyChars (cs.flatMap String.utf8EncodeChar) = cs := by
  induction cs with
  | nil => rw [List.flatMap_nil, decodeLossyChars]
  | cons c cs ih => rw [List.flatMap_cons, decodeLossyChars_encodeChar, ih]

end Lossy

end Brokerage.Text
