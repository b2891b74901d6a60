import Brokerage.Proofs.Text.Encoding
import Brokerage.Ulid

/-!
# Written identifiers

The 26 digits of an identifier are read as the identifier they were written from (`parse_write`), so
different identifiers are written differently. All digits are visible characters of ASCII.
-/

namespace Brokerage.Ulid

/-- The digits are visible, and each is read as its value. -/
theorem digitChar_spec : ∀ d < 32, digitValue? (digitChar d) = some d ∧
    0x20 < (digitChar d).toNat ∧ (digitChar d).toNat < 0x7F := by
  decide

theorem length_digits (count n : Nat) : (digits count n).length = count := by
  induction count generalizing n with
  | zero => rfl
  | succ count ih => rw [digits, List.length_append, ih, List.length_singleton]

/-- Every character of a written number is a digit. -/
theorem exists_of_mem_digits {count n : Nat} {c : Char} (h : c ∈ digits count n) :
    ∃ d < 32, c = digitChar d := by
  induction count generalizing n with
  | zero => cases h
  | succ count ih =>
    rw [digits, List.mem_append, List.mem_singleton] at h
    rcases h with before | rfl
    · exact ih before
    · exact ⟨n % 32, Nat.mod_lt _ (by decide), rfl⟩

theorem readDigits_append (n : Nat) (cs ds : List Char) :
    readDigits n (cs ++ ds) = (readDigits n cs).bind (readDigits · ds) := by
  induction cs generalizing n with
  | nil => rfl
  | cons c cs ih =>
    rw [List.cons_append, readDigits, readDigits]
    cases digitValue? c with
    | none => rfl
    | some d => exact ih _

/-- Digits are read as the number that they were written from. -/
theorem readDigits_digits {count n : Nat} (m : Nat) (h : n < Nat.pow 32 count) :
    readDigits m (digits count n) = some (m * Nat.pow 32 count + n) := by
  induction count generalizing n with
  | zero =>
    have zero : n = 0 := Nat.lt_one_iff.mp h
    simp [digits, readDigits, zero]
  | succ count ih =>
    have last := (digitChar_spec (n % 32) (Nat.mod_lt _ (by decide))).1
    have wider : Nat.pow 32 (count + 1) = Nat.pow 32 count * 32 := rfl
    rw [wider] at h ⊢
    rw [digits, readDigits_append, ih (Nat.div_lt_of_lt_mul (Nat.mul_comm .. ▸ h)),
      Option.bind_some]
    simp only [readDigits, last, Option.some.injEq]
    rw [← Nat.mul_assoc]
    omega

theorem toList_write (u : Ulid) : u.write.toList = digits 26 u.number :=
  String.toList_ofList

/-- Every character of a written identifier is visible. -/
theorem visible_of_mem_write {u : Ulid} {c : Char} (h : c ∈ u.write.toList) :
    0x20 < c.toNat ∧ c.toNat < 0x7F := by
  rw [toList_write] at h
  obtain ⟨d, small, rfl⟩ := exists_of_mem_digits h
  exact (digitChar_spec d small).2

/-- A text of ASCII takes up a byte for each character. -/
theorem utf8ByteSize_write (u : Ulid) : u.write.utf8ByteSize = 26 := by
  have ascii (cs : List Char) (h : ∀ c ∈ cs, c.toNat < 0x80) :
      (cs.flatMap String.utf8EncodeChar).length = cs.length := by
    induction cs with
    | nil => rfl
    | cons c cs ih =>
      rw [List.flatMap_cons, Text.utf8EncodeChar_of_lt (h c List.mem_cons_self), List.length_append,
        ih fun c there => h c (List.mem_cons_of_mem _ there), List.length_singleton,
        List.length_cons, Nat.add_comm]
  rw [← Text.length_encode, Text.encode_eq_flatMap, toList_write, ascii, length_digits]
  intro c there
  rw [← toList_write] at there
  exact Nat.lt_trans (visible_of_mem_write there).2 (by decide)

/-- An identifier is read as it was written. -/
theorem parse_write (u : Ulid) : parse u.write = .ok u := by
  have small : u.number < Nat.pow 32 26 := Nat.lt_trans u.isLt (by decide)
  rw [parse, if_pos (utf8ByteSize_write u), toList_write, readDigits_digits 0 small, Nat.zero_mul,
    Nat.zero_add]
  simp only [ofNat, Nat.mod_eq_of_lt u.isLt]

/-- Different identifiers are written differently. -/
theorem write_injective {u v : Ulid} (h : u.write = v.write) : u = v := by
  have same := parse_write u
  rw [h, parse_write] at same
  exact (Except.ok.inj same).symm

end Brokerage.Ulid
