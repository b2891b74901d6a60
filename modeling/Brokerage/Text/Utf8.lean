/-!
# UTF-8

Texts as bytes. `decode?` reads well-formed bytes only. `decodeLossy` reads any bytes and puts one
replacement character for each longest prefix that no character starts with.
-/

namespace Brokerage

/-- Bytes of a file, a body or a text. -/
abbrev Bytes := List UInt8

namespace Text

/-- The bytes of a text. -/
def encode (s : String) : Bytes :=
  s.toByteArray.data.toList

/-- The text whose bytes these are, if they are well-formed. -/
def decode? (bs : Bytes) : Option String :=
  String.fromUTF8? ⟨bs.toArray⟩

theorem decode?_encode (s : String) : decode? (encode s) = some s := by
  simp [decode?, encode, String.fromUTF8?, String.fromUTF8, s.isValidUTF8]

/-- What the first byte of a character of two to four bytes says: how many bytes follow, the bits
it carries, and the least and the greatest byte that may come second. -/
def lead? (b : UInt8) : Option (Nat × Nat × UInt8 × UInt8) :=
  let n := b.toNat
  if 0xC2 ≤ n ∧ n ≤ 0xDF then some (1, n - 0xC0, 0x80, 0xBF)
  else if n = 0xE0 then some (2, 0, 0xA0, 0xBF)
  else if n = 0xED then some (2, 0xD, 0x80, 0x9F)
  else if 0xE1 ≤ n ∧ n ≤ 0xEF then some (2, n - 0xE0, 0x80, 0xBF)
  else if n = 0xF0 then some (3, 0, 0x90, 0xBF)
  else if n = 0xF4 then some (3, 4, 0x80, 0x8F)
  else if 0xF1 ≤ n ∧ n ≤ 0xF3 then some (3, n - 0xF0, 0x80, 0xBF)
  else none

/-- Reads the bytes that a first byte announced, the next of them between `lo` and `hi`. It stops
in front of the first byte that does not fit. -/
def tails : Nat → Nat → UInt8 → UInt8 → Bytes → Option Nat × Bytes
  | 0, bits, _, _, bs => (some bits, bs)
  | _ + 1, _, _, _, [] => (none, [])
  | n + 1, bits, lo, hi, b :: bs =>
    if lo ≤ b ∧ b ≤ hi then tails n (bits * 64 + b.toNat % 64) 0x80 0xBF bs
    else (none, b :: bs)

theorem length_tails_le (n bits : Nat) (lo hi : UInt8) (bs : Bytes) :
    (tails n bits lo hi bs).2.length ≤ bs.length := by
  induction n generalizing bits lo hi bs with
  | zero => simp [tails]
  | succ n ih =>
    cases bs with
    | nil => simp [tails]
    | cons b bs =>
      rw [tails]
      split
      · exact Nat.le_succ_of_le (ih ..)
      · exact Nat.le_refl _

/-- The characters of any bytes, ill-formed stretches replaced. -/
def decodeLossyChars : Bytes → List Char
  | [] => []
  | b :: bs =>
    if b < 0x80 then Char.ofNat b.toNat :: decodeLossyChars bs
    else
      match lead? b with
      | none => '\uFFFD' :: decodeLossyChars bs
      | some (n, bits, lo, hi) =>
        (((tails n bits lo hi bs).1.map Char.ofNat).getD '\uFFFD') ::
          decodeLossyChars (tails n bits lo hi bs).2
termination_by bs => bs.length
decreasing_by
  · simp
  · simp
  · exact Nat.lt_succ_of_le (length_tails_le ..)

/-- The text of any bytes, ill-formed stretches replaced. -/
def decodeLossy (bs : Bytes) : String :=
  String.ofList (decodeLossyChars bs)

end Text

end Brokerage
