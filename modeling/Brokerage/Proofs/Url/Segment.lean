import Brokerage.Proofs.Text.Encoding
import Brokerage.Url.Parser

/-!
# Texts as segments of paths

A text that is to be one segment of a path is percent-encoded. It is then written in characters that
delimit nothing (`isPlain_component`), it is read back as it was (`decode_component`), and it
stays as it is when it is put into a path (`encode_inPath_of_isPlain`). But a dot is written as a
dot: what is written for a text of one or two dots stands for a place and not for a segment
(`isSegment_component_iff`). And nothing is written for the empty text.
-/

namespace Brokerage

namespace Percent

variable {cs : List Char} {bs : Bytes} {s s' : String}

/-! ### What is written -/

/-- Unreserved characters, and the percent sign. -/
def plainChars : List Char :=
  "0123456789ABCDEFGHIJKLMNOPQRSTUVWXYZabcdefghijklmnopqrstuvwxyz-_.~%".toList

/-- Characters that delimit nothing. -/
def IsPlain (cs : List Char) : Prop := ∀ c ∈ cs, c ∈ plainChars

instance : DecidablePred IsPlain := fun cs => List.decidableBAll (· ∈ plainChars) cs

/-- What is true of the characters of a list, seen one after the other and not
among all characters. -/
theorem forall_of_all {p : Char → Prop} [DecidablePred p] (all : cs.all (fun c => p c) = true) :
    ∀ c ∈ cs, p c :=
  fun c there => of_decide_eq_true (List.all_eq_true.mp all c there)

theorem toList_component (s : String) :
    (component s).toList = encodeBytes reserved (Text.encode s) := by
  rw [component, encode, String.toList_ofList]

/-- **A text is written in plain characters.** -/
theorem isPlain_component (s : String) : IsPlain (component s).toList := by
  have all : ∀ b, IsPlain (encodeByte reserved b) := Text.forall_byte (by decide +kernel)
  rw [toList_component]
  intro c there
  obtain ⟨b, -, inside⟩ := List.mem_flatMap.mp there
  exact all b c inside

/-- Characters that are not escaped are written as they are. -/
theorem encode_of_kept {set : ByteSet}
    (kept : ∀ c ∈ cs, encodeBytes set (String.utf8EncodeChar c) = [c]) :
    encode set (String.ofList cs) = String.ofList cs := by
  rw [encode, Text.encode_ofList]
  congr 1
  induction cs with
  | nil => rfl
  | cons c cs ih =>
    obtain ⟨here, later⟩ := List.forall_mem_cons.mp kept
    rw [List.flatMap_cons, encodeBytes, List.flatMap_append, ← encodeBytes, ← encodeBytes, here,
      ih later]
    rfl

/-- No plain character is escaped in a path. -/
theorem encode_inPath_of_isPlain (plain : IsPlain cs) :
    encode inPath (String.ofList cs) = String.ofList cs := by
  have all : ∀ c ∈ plainChars, encodeBytes inPath (String.utf8EncodeChar c) = [c] :=
    forall_of_all (by decide)
  exact encode_of_kept fun c there => all c (plain c there)

/-! ### What is read -/

/-- A byte that is no percent sign stands for itself. -/
theorem decodeBytes_of_ne {b : UInt8} (other : b ≠ 0x25) (rest : Bytes) :
    decodeBytes (b :: rest) = b :: decodeBytes rest := by
  rw [decodeBytes.eq_def]
  simp only [if_neg other]

/-- A percent sign and the digits of a byte stand for the byte. -/
theorem decodeBytes_escape (b : UInt8) (rest : Bytes) :
    decodeBytes (0x25 :: UInt8.ofNat (hexDigit (b.toNat / 16)).toNat ::
      UInt8.ofNat (hexDigit (b.toNat % 16)).toNat :: rest) = b :: decodeBytes rest := by
  have digits : ∀ n < 16, Json.hexValue? (UInt8.ofNat (hexDigit n).toNat) = some n := by
    decide
  have bound := b.toNat_lt
  have whole : b.toNat / 16 * 16 + b.toNat % 16 = b.toNat := by omega
  rw [decodeBytes]
  simp only [if_true, digits (b.toNat / 16) (by omega), digits (b.toNat % 16) (by omega), whole,
    UInt8.ofNat_toNat]

/-- What is written for a byte is read as the byte. -/
theorem decodeBytes_encodeByte (b : UInt8) (rest : Bytes) :
    decodeBytes ((encodeByte reserved b).flatMap String.utf8EncodeChar ++ rest) =
      b :: decodeBytes rest := by
  have bytes : ∀ b, (encodeByte reserved b).flatMap String.utf8EncodeChar =
      if reserved b then [0x25, UInt8.ofNat (hexDigit (b.toNat / 16)).toNat,
        UInt8.ofNat (hexDigit (b.toNat % 16)).toNat]
      else [b] :=
    Text.forall_byte (by decide +kernel)
  have sign : ∀ b, reserved b = false → b ≠ 0x25 := by
    rintro _ unreserved rfl
    exact absurd unreserved (by decide)
  rw [bytes b]
  split
  · exact decodeBytes_escape b rest
  · next unreserved => exact decodeBytes_of_ne (sign b (Bool.eq_false_iff.mpr unreserved)) rest

/-- **What is written for a text is read as the text.** -/
theorem decode_component (s : String) : decode (component s) = Text.encode s := by
  rw [decode, Text.encode_eq_flatMap, toList_component, encodeBytes]
  induction Text.encode s with
  | nil => rw [List.flatMap_nil, List.flatMap_nil, decodeBytes]
  | cons b bs ih => rw [List.flatMap_cons, List.flatMap_append, decodeBytes_encodeByte, ih]

/-- Different texts are written differently. -/
theorem component_injective (same : component s = component s') : s = s' := by
  have read := congrArg decode same
  rw [decode_component, decode_component] at read
  exact Text.encode_injective read

/-! ### Texts that stand for places -/

/-- What is written for bytes, in small letters. -/
def lowered (bs : Bytes) : List Char := (encodeBytes reserved bs).map Char.toLower

/-- True of what a byte may be written as: one character, or a percent sign and two digits, and a
dot only as itself. -/
def isToken (b : UInt8) : List Char → Bool
  | [c] => if c = '.' then b == 0x2E else c != '%'
  | [sign, h, l] => sign == '%' && (h, l) != ('2', 'e')
  | _ => false

/-- What is written starts with what is written for the first byte. -/
theorem lowered_cons (b : UInt8) (bs : Bytes) :
    (b = 0x2E ∧ lowered (b :: bs) = '.' :: lowered bs) ∨
      (∃ c, c ≠ '.' ∧ c ≠ '%' ∧ lowered (b :: bs) = c :: lowered bs) ∨
      ∃ h l, (h, l) ≠ ('2', 'e') ∧ lowered (b :: bs) = '%' :: h :: l :: lowered bs := by
  have all : ∀ b, isToken b ((encodeByte reserved b).map Char.toLower) = true :=
    Text.forall_byte (by decide +kernel)
  have token := all b
  have split : lowered (b :: bs) = (encodeByte reserved b).map Char.toLower ++ lowered bs := by
    rw [lowered, encodeBytes, List.flatMap_cons, List.map_append]
    rfl
  rw [split]
  match (encodeByte reserved b).map Char.toLower, token with
  | [c], token =>
    by_cases dot : c = '.'
    · rw [isToken, if_pos dot, beq_iff_eq] at token
      exact .inl ⟨token, by rw [dot, List.singleton_append]⟩
    · rw [isToken, if_neg dot, bne_iff_ne] at token
      exact .inr (.inl ⟨c, dot, token, rfl⟩)
  | [sign, h, l], token =>
    rw [isToken, Bool.and_eq_true, beq_iff_eq, bne_iff_ne] at token
    exact .inr (.inr ⟨h, l, token.2, by rw [token.1]; rfl⟩)

theorem eq_nil_of_lowered (same : lowered bs = []) : bs = [] := by
  cases bs with
  | nil => rfl
  | cons b bs =>
    rcases lowered_cons b bs with ⟨-, other⟩ | ⟨_, -, -, other⟩ | ⟨_, _, -, other⟩ <;>
      rw [same] at other <;> cases other

/-- A dot comes from a dot. -/
theorem exists_of_lowered_dot (same : lowered bs = '.' :: cs) :
    ∃ bs', bs = 0x2E :: bs' ∧ lowered bs' = cs := by
  cases bs with
  | nil => cases same
  | cons b bs =>
    rcases lowered_cons b bs with ⟨rfl, here⟩ | ⟨c, other, -, here⟩ | ⟨h, l, -, here⟩ <;>
      rw [same] at here
    · exact ⟨bs, rfl, (List.cons.inj here).2.symm⟩
    · exact absurd (List.cons.inj here).1.symm other
    · cases (List.cons.inj here).1

/-- No escape is that of a dot. -/
theorem lowered_ne_escape (same : lowered bs = '%' :: '2' :: 'e' :: cs) : False := by
  cases bs with
  | nil => cases same
  | cons b bs =>
    rcases lowered_cons b bs with ⟨-, here⟩ | ⟨c, -, other, here⟩ | ⟨h, l, other, here⟩ <;>
      rw [same] at here
    · cases (List.cons.inj here).1
    · exact other (List.cons.inj here).1.symm
    · simp only [List.cons.injEq, true_and] at here
      exact other (by rw [← here.1, ← here.2.1])

end Percent

namespace Url

open Percent (component lowered toList_component)

theorem lower_component (s : String) :
    String.ofList ((component s).toList.map Char.toLower) =
      String.ofList (lowered (Text.encode s)) := by
  rw [toList_component]
  rfl

/-- **Only for a single dot is something written that stands for a place.** -/
theorem isDot_component_iff (s : String) : isDot (component s).toList = true ↔ s = "." := by
  constructor
  · intro dot
    rw [isDot, lower_component, List.contains_iff_mem] at dot
    simp only [List.mem_cons, List.not_mem_nil, or_false] at dot
    rcases dot with same | same
    · obtain ⟨bs, bytes, rest⟩ := Percent.exists_of_lowered_dot (String.ofList_injective same)
      rw [Percent.eq_nil_of_lowered rest] at bytes
      exact Text.encode_injective bytes
    · exact (Percent.lowered_ne_escape (String.ofList_injective same)).elim
  · rintro rfl
    decide

/-- **Only for two dots is something written that stands for the place above.** -/
theorem isDotDot_component_iff (s : String) : isDotDot (component s).toList = true ↔ s = ".." := by
  constructor
  · intro dots
    rw [isDotDot, lower_component, List.contains_iff_mem] at dots
    simp only [List.mem_cons, List.not_mem_nil, or_false] at dots
    rcases dots with same | same | same | same
    · obtain ⟨bs, bytes, rest⟩ := Percent.exists_of_lowered_dot (String.ofList_injective same)
      obtain ⟨bs', rfl, rest'⟩ := Percent.exists_of_lowered_dot rest
      rw [Percent.eq_nil_of_lowered rest'] at bytes
      exact Text.encode_injective bytes
    · obtain ⟨bs, -, rest⟩ := Percent.exists_of_lowered_dot (String.ofList_injective same)
      exact (Percent.lowered_ne_escape rest).elim
    · exact (Percent.lowered_ne_escape (String.ofList_injective same)).elim
    · exact (Percent.lowered_ne_escape (String.ofList_injective same)).elim
  · rintro rfl
    decide

/-- A plain word that stands for no place. -/
def IsSegment (word : List Char) : Prop :=
  Percent.IsPlain word ∧ isDot word = false ∧ isDotDot word = false

instance : DecidablePred IsSegment := fun word =>
  inferInstanceAs (Decidable (Percent.IsPlain word ∧ isDot word = false ∧ isDotDot word = false))

/-- **What is written for any other text is a segment.** -/
theorem isSegment_component_iff (s : String) :
    IsSegment (component s).toList ↔ s ≠ "." ∧ s ≠ ".." := by
  rw [IsSegment, ← Bool.not_eq_true, ← Bool.not_eq_true, isDot_component_iff,
    isDotDot_component_iff]
  exact and_iff_right (Percent.isPlain_component s)

end Url

end Brokerage
