import Brokerage.Json.Value
import Brokerage.Proofs.Json.Written
import Mathlib.Data.List.TakeWhile

/-!
# The grammar of JSON

What a text is made of, white space aside, is a tree (`Tree`), and a tree is written in many ways
(`Writes`): white space may stand between any two parts. Strings and numbers are kept as they are
written, so that a tree says what was in the text and not what it stands for. Only a string can fail
to stand for anything, since a code of half a character is allowed by the grammar
(`Literal.content?`).
-/

namespace Brokerage.Json

/-! ### Strings -/

/-- A part of a string. -/
inductive Piece where
  /-- A byte as it is. -/
  | plain (b : UInt8) (isPlain : IsPlain b)
  /-- A backslash and a letter, which stand for one byte. -/
  | short (b c : UInt8) (known : shortEscape? b = some c)
  /-- The code of a character, or of half of one, in four digits. -/
  | code (h₁ h₂ h₃ h₄ : UInt8) (n : Nat) (known : hex4? h₁ h₂ h₃ h₄ = some n)

/-- The bytes of a part. -/
def Piece.bytes : Piece → Bytes
  | plain b _ => [b]
  | short b _ _ => [backslash, b]
  | code h₁ h₂ h₃ h₄ _ _ => [backslash, 0x75, h₁, h₂, h₃, h₄]

/-- What stands between the marks of a string. -/
abbrev Literal := List Piece

namespace Literal

/-- The bytes between the marks. -/
def bytes (l : Literal) : Bytes := l.flatMap Piece.bytes

/-- The bytes that a string stands for. A code of half a character needs the
other half behind it. -/
def content? : Literal → Option Bytes
  | [] => some []
  | .plain b _ :: l => (content? l).map ([b] ++ ·)
  | .short _ c _ :: l => (content? l).map ([c] ++ ·)
  | .code _ _ _ _ n _ :: l =>
    if isLowSurrogate n then none
    else if isHighSurrogate n then
      match l with
      | .code _ _ _ _ m _ :: l =>
        if isLowSurrogate m then (content? l).map (charBytes (pairCode n m) ++ ·) else none
      | _ => none
    else (content? l).map (charBytes n ++ ·)

/-- The text that a string stands for. -/
def text? (l : Literal) : Option String := (content? l).bind Text.decode?

theorem bytes_cons (piece : Piece) (l : Literal) : bytes (piece :: l) = piece.bytes ++ bytes l :=
  List.flatMap_cons

end Literal

/-! ### Numbers -/

/-- Bytes that are digits, one at least. -/
def IsDigits (ds : Bytes) : Prop := ds ≠ [] ∧ ∀ d ∈ ds, isDigit d = true

/-- A number in digits. -/
structure Numeral where
  negative : Bool
  /-- The digits in front of the point. -/
  whole : Bytes
  /-- The point and the digits behind it, if there is one. -/
  fraction : Bytes
  /-- The letter and the digits behind it, if there is one, with a sign
  between them if one likes. -/
  exponent : Bytes
  /-- A zero stands alone. -/
  isWhole : IsDigits whole ∧ (whole.head? = some 0x30 → whole = [0x30])
  isFraction : fraction = [] ∨ ∃ ds, fraction = 0x2E :: ds ∧ IsDigits ds
  isExponent : exponent = [] ∨ ∃ letter sign ds, exponent = letter :: (sign ++ ds) ∧
    isExponentLetter letter = true ∧ sign ∈ [[], [0x2B], [0x2D]] ∧ IsDigits ds

namespace Numeral

/-- The number without its sign. -/
def unsigned (n : Numeral) : Bytes := n.whole ++ (n.fraction ++ n.exponent)

/-- The number as it is written. -/
def bytes (n : Numeral) : Bytes := (if n.negative then [0x2D] else []) ++ n.unsigned

/-- The number that is read. -/
def value? (n : Numeral) : Option Number :=
  (readNumber n.negative n.unsigned).toOption.map Prod.fst

end Numeral

/-! ### Trees -/

/-- What a JSON text is made of. -/
inductive Tree where
  | null
  | bool (b : Bool)
  | number (n : Numeral)
  | text (l : Literal)
  | list (items : List Tree)
  | object (members : List (Literal × Tree))

/-- What holds of a list or an object as soon as it holds of all its parts holds of all trees. -/
@[elab_as_elim] theorem Tree.induction {P : Tree → Prop} (null : P .null) (bool : ∀ b, P (.bool b))
    (number : ∀ n, P (.number n)) (text : ∀ l, P (.text l))
    (list : ∀ items, (∀ v ∈ items, P v) → P (.list items))
    (object : ∀ members, (∀ m ∈ members, P m.2) → P (.object members)) : ∀ v, P v :=
  @Tree.rec P (fun items => ∀ v ∈ items, P v) (fun members => ∀ m ∈ members, P m.2) (fun m => P m.2)
    null bool number text list object nofun
    (fun _ _ here later => List.forall_mem_cons.mpr ⟨here, later⟩) nofun
    (fun _ _ here later => List.forall_mem_cons.mpr ⟨here, later⟩) (fun _ _ here => here)

/-! ### Writings of a tree -/

/-- Bytes that are all white space. There may be none. -/
def Blank (ws : Bytes) : Prop := ∀ b ∈ ws, isSpace b = true

/-- What stands in front of a part of a list or an object: a comma, unless it is the first one, and
white space. -/
def Separates : Bool → Bytes → Prop
  | true, ws => Blank ws
  | false, ws => ∃ front back, ws = front ++ 0x2C :: back ∧ Blank front ∧ Blank back

/-- The parts from the next one on, each behind what separates it, and the closing bracket. -/
inductive Spaced {α : Type} (written : α → Bytes → Prop) (close : UInt8) :
    Bool → List α → Bytes → Prop where
  | nil {first : Bool} {ws : Bytes} (blank : Blank ws) :
      Spaced written close first [] (ws ++ [close])
  | cons {first : Bool} {ws bs cs : Bytes} {a : α} {as : List α} (separates : Separates first ws)
      (here : written a bs) (rest : Spaced written close false as cs) :
      Spaced written close first (a :: as) (ws ++ (bs ++ cs))

/-- A name, a colon and a value. -/
inductive WritesMember (written : Tree → Bytes → Prop) : Literal × Tree → Bytes → Prop where
  | mk {l : Literal} {v : Tree} {ws ws' bs : Bytes} (blank : Blank ws) (blank' : Blank ws')
      (value : written v bs) :
      WritesMember written (l, v)
        (quoteMark :: (l.bytes ++ quoteMark :: (ws ++ 0x3A :: (ws' ++ bs))))

/-- The bytes write the tree. -/
inductive Writes : Tree → Bytes → Prop where
  | null : Writes .null (word "null")
  | true : Writes (.bool true) (word "true")
  | false : Writes (.bool false) (word "false")
  | number (n : Numeral) : Writes (.number n) n.bytes
  | text (l : Literal) : Writes (.text l) (quoteMark :: (l.bytes ++ [quoteMark]))
  | list {items : List Tree} {bs : Bytes}
      (parts : Spaced Writes Bracket.array.close true items bs) : Writes (.list items) (0x5B :: bs)
  | object {members : List (Literal × Tree)} {bs : Bytes}
      (parts : Spaced (WritesMember Writes) Bracket.object.close true members bs) :
      Writes (.object members) (0x7B :: bs)

/-- A text that holds the tree and nothing else but white space. -/
def Holds (text : Bytes) (v : Tree) : Prop :=
  ∃ ws bs ws', text = ws ++ (bs ++ ws') ∧ Blank ws ∧ Blank ws' ∧ Writes v bs

/-! ### White space -/

section Spaces

variable {ws rest bs : Bytes} {b : UInt8}

theorem blank_nil : Blank [] := nofun

theorem skipSpace_blank (blank : Blank ws) (bs : Bytes) : skipSpace (ws ++ bs) = skipSpace bs :=
  List.dropWhile_append_of_pos blank

/-- White space is passed over up to the first byte that is none. -/
theorem skipSpace_blank_cons (blank : Blank ws) (solid : isSpace b = false) (bs : Bytes) :
    skipSpace (ws ++ b :: bs) = b :: bs :=
  (skipSpace_blank blank _).trans (skipSpace_cons solid bs)

theorem skipSpace_eq_nil_iff : skipSpace bs = [] ↔ Blank bs := by
  unfold skipSpace Blank
  exact List.dropWhile_eq_nil_iff

/-- A number may stand in front of this: no part of one comes next. -/
def Stops (rest : Bytes) : Prop :=
  ∀ b ∈ rest.head?, isDigit b = false ∧ b ≠ 0x2E ∧ isExponentLetter b = false

theorem stops_nil : Stops [] := nofun

theorem Stops.cons (stops : isDigit b = false ∧ b ≠ 0x2E ∧ isExponentLetter b = false)
    (rest : Bytes) : Stops (b :: rest) := by
  rintro _ ⟨⟩
  exact stops

theorem stops_of_isSpace (space : isSpace b = true) :
    isDigit b = false ∧ b ≠ 0x2E ∧ isExponentLetter b = false := by
  simp only [isSpace, Bool.or_eq_true, beq_iff_eq] at space
  rcases space with ((rfl | rfl) | rfl) | rfl <;> decide

/-- The letter of an exponent is nothing else that may be in a number. -/
theorem apart_of_isExponentLetter (letter : isExponentLetter b = true) :
    b ≠ 0x2E ∧ isDigit b = false := by
  rw [isExponentLetter, Bool.or_eq_true, beq_iff_eq, beq_iff_eq] at letter
  rcases letter with rfl | rfl <;> decide

theorem Stops.blank_append (blank : Blank ws) (stops : Stops rest) : Stops (ws ++ rest) := by
  cases ws with
  | nil => exact stops
  | cons b ws => exact .cons (stops_of_isSpace (blank b List.mem_cons_self)) _

/-- Behind a part of a list or an object no number goes on. -/
theorem Spaced.stops {α : Type} {written : α → Bytes → Prop} {bracket : Bracket} {as : List α}
    (spaced : Spaced written bracket.close false as bs) (rest : Bytes) : Stops (bs ++ rest) := by
  cases spaced with
  | nil blank =>
    rw [List.append_assoc]
    refine .blank_append blank (.cons ?_ _)
    cases bracket <;> decide
  | cons separates here later =>
    obtain ⟨front, back, rfl, blank, -⟩ := separates
    simp only [List.append_assoc, List.cons_append]
    exact .blank_append blank (.cons (by decide) _)

/-- Every part but the first one takes up a byte at least, and so does the closing bracket. -/
theorem Spaced.length_le {α : Type} {written : α → Bytes → Prop} {close : UInt8} {first : Bool}
    {as : List α} (spaced : Spaced written close first as bs) :
    as.length + (if first then 0 else 1) ≤ bs.length := by
  induction spaced with
  | @nil first ws blank =>
    simp only [List.length_nil, List.length_append, List.length_singleton]
    split <;> omega
  | @cons first ws bs cs a as separates here rest ih =>
    simp only [List.length_cons, List.length_append, Bool.false_eq_true, if_false] at ih ⊢
    cases first with
    | true =>
      simp only [if_true]
      omega
    | false =>
      obtain ⟨front, back, rfl, -, -⟩ := separates
      simp only [List.length_append, List.length_cons, Bool.false_eq_true, if_false]
      omega

end Spaces

/-! ### One writing -/

namespace Tree

mutual

/-- The tree without any white space. -/
def write : Tree → Bytes
  | .null => word "null"
  | .bool true => word "true"
  | .bool false => word "false"
  | .number n => n.bytes
  | .text l => quoteMark :: (l.bytes ++ [quoteMark])
  | .list items => 0x5B :: writeItems true items
  | .object members => 0x7B :: writeMembers true members

def writeItems : Bool → List Tree → Bytes
  | _, [] => [Bracket.array.close]
  | first, v :: vs => (if first then [] else [0x2C]) ++ (v.write ++ writeItems false vs)

def writeMembers : Bool → List (Literal × Tree) → Bytes
  | _, [] => [Bracket.object.close]
  | first, (l, v) :: ms =>
    (if first then [] else [0x2C]) ++
      ((quoteMark :: (l.bytes ++ quoteMark :: 0x3A :: v.write)) ++ writeMembers false ms)

end

theorem separates_comma (first : Bool) : Separates first (if first then [] else [0x2C]) := by
  cases first with
  | true => exact blank_nil
  | false => exact ⟨[], [], rfl, blank_nil, blank_nil⟩

/-- **Every tree is written somehow.** -/
theorem writes_write (v : Tree) : Writes v v.write := by
  induction v using Tree.induction with
  | null =>
    rw [write]
    exact .null
  | bool b =>
    cases b <;> rw [write]
    · exact .false
    · exact .true
  | number n =>
    rw [write]
    exact .number n
  | text l =>
    rw [write]
    exact .text l
  | list items ih =>
    have spaced (first : Bool) (vs : List Tree) (known : ∀ v ∈ vs, Writes v v.write) :
        Spaced Writes Bracket.array.close first vs (writeItems first vs) := by
      induction vs generalizing first with
      | nil =>
        rw [writeItems]
        exact .nil blank_nil
      | cons v vs ih =>
        obtain ⟨here, later⟩ := List.forall_mem_cons.mp known
        rw [writeItems]
        exact .cons (separates_comma first) here (ih false later)
    rw [write]
    exact .list (spaced true items ih)
  | object members ih =>
    have spaced (first : Bool) (ms : List (Literal × Tree))
        (known : ∀ m ∈ ms, Writes m.2 m.2.write) :
        Spaced (WritesMember Writes) Bracket.object.close first ms (writeMembers first ms) := by
      induction ms generalizing first with
      | nil =>
        rw [writeMembers]
        exact .nil blank_nil
      | cons m ms ih =>
        obtain ⟨here, later⟩ := List.forall_mem_cons.mp known
        rw [writeMembers]
        have member := WritesMember.mk (l := m.1) blank_nil blank_nil here
        exact .cons (separates_comma first) member (ih false later)
    rw [write]
    exact .object (spaced true members ih)

end Tree

end Brokerage.Json
