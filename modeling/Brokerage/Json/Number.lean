import Brokerage.Json.Decimal
import Brokerage.Json.Fault

/-!
# JSON numbers

Whole numbers that fit into 64 bits, with or without a sign, are kept exactly; every other number
becomes a binary number of 64 bits. `readNumber` takes the digits after a possible minus sign.
-/

namespace Brokerage.Json

/-- A number of a JSON text. -/
inductive Number where
  /-- A whole number from `-2 ^ 63` up to `2 ^ 64 - 1`. -/
  | whole (n : Int)
  /-- A binary number. -/
  | real (x : Float)

/-- True of the ten decimal digits. -/
def isDigit (b : UInt8) : Bool := 0x30 ≤ b && b ≤ 0x39

/-- The value of a decimal digit. -/
def digitValue (b : UInt8) : Nat := b.toNat - 0x30

/-- The largest whole number that is kept. -/
def maxWhole : Nat := Nat.pow 2 64 - 1

/-- Appends digits to a significand as long as it fits. Returns it with the number of digits that
went in. -/
def absorb (s : Nat) : Bytes → Nat × Nat
  | [] => (s, 0)
  | d :: ds =>
    if s * 10 + digitValue d ≤ maxWhole then
      let r := absorb (s * 10 + digitValue d) ds
      (r.1, r.2 + 1)
    else (s, 0)

/-- The power of ten with this exponent, as a binary number. -/
def powerOfTen (n : Nat) : Float :=
  Float.ofScientific 1 false n

/-- `x` divided by the power of ten with exponent `n`, in steps that a power of ten covers. Three
steps take every significand to zero. -/
def shrink : Nat → Float → Nat → Float
  | 0, x, _ => x
  | k + 1, x, n =>
    if n ≤ 308 then x / powerOfTen n else shrink k (x / powerOfTen 308) (n - 308)

/-- The binary number for `s * 10 ^ e`, unless it is too large. -/
def scaled? (s : Nat) (e : Int) : Option Float :=
  let x := s.toUInt64.toFloat
  if e < 0 then some (shrink 4 x (-e).toNat)
  else if e ≤ 308 then
    let y := x * powerOfTen e.toNat
    if y.isInf then none else some y
  else if s = 0 then some x
  else none

/-- The number with significand `s`, exponent `e` and sign. -/
def signed (negative : Bool) (s : Nat) (e : Int) : Except Fault Number :=
  match scaled? s e with
  | some x => .ok (.real (if negative then -x else x))
  | none => .error .malformed

/-- The whole number with this sign, if it is kept as one. Minus zero is not. -/
def wholeNumber (negative : Bool) (s : Nat) : Number :=
  if negative then
    if s = 0 ∨ Nat.pow 2 63 < s then .real (-s.toUInt64.toFloat) else .whole (-s)
  else .whole s

/-- The largest exponent that is counted out. -/
def maxExponent : Nat := Nat.pow 2 31 - 1

/-- The value of a run of digits. -/
def runValue (ds : Bytes) : Nat :=
  ds.foldl (fun n d => n * 10 + digitValue d) 0

/-- Reads an exponent after its letter: an optional sign, then digits. -/
def readExponent (negative : Bool) (s : Nat) (e : Int) (bs : Bytes) :
    Except Fault (Number × Bytes) :=
  let (down, bs) :=
    match bs with
    | b :: rest =>
      if b = 0x2B then (false, rest) else if b = 0x2D then (true, rest) else (false, bs)
    | [] => (false, [])
  match bs with
  | [] => .error .ended
  | b :: _ =>
    if isDigit b then
      let ds := bs.takeWhile isDigit
      let rest := bs.dropWhile isDigit
      if runValue ds ≤ maxExponent then
        let power : Int := if down then e - runValue ds else e + runValue ds
        match signed negative s power with
        | .ok x => .ok (x, rest)
        | .error f => .error f
      else if s ≠ 0 ∧ !down then .error .malformed
      else .ok (.real (if negative then -0.0 else 0.0), rest)
    else .error .malformed

/-- True of the letter that starts an exponent. -/
def isExponentLetter (b : UInt8) : Bool := b == 0x65 || b == 0x45

/-- Reads an exponent if one follows. -/
def readScale (negative : Bool) (s : Nat) (e : Int) (bs : Bytes) : Except Fault (Number × Bytes) :=
  match bs with
  | b :: rest =>
    if isExponentLetter b then readExponent negative s e rest
    else (signed negative s e).map (·, bs)
  | [] => (signed negative s e).map (·, bs)

/-- Reads what follows the whole part, of which `dropped` digits did not fit into `s`. -/
def readFraction (negative : Bool) (s dropped : Nat) (bs : Bytes) : Except Fault (Number × Bytes) :=
  match bs with
  | b :: rest =>
    if b = 0x2E then
      let ds := rest.takeWhile isDigit
      let rest := rest.dropWhile isDigit
      if ds = [] then .error (if rest = [] then .ended else .malformed)
      else
        let r := absorb s ds
        readScale negative r.1 ((dropped : Int) - r.2) rest
    else if isExponentLetter b then readExponent negative s dropped rest
    else if dropped = 0 then .ok (wholeNumber negative s, bs)
    else (signed negative s dropped).map (·, bs)
  | [] =>
    if dropped = 0 then .ok (wholeNumber negative s, bs)
    else (signed negative s dropped).map (·, bs)

/-- Reads a number after its sign. A leading zero stands alone. -/
def readNumber (negative : Bool) (bs : Bytes) : Except Fault (Number × Bytes) :=
  match bs with
  | [] => .error .ended
  | b :: rest =>
    if b = 0x30 then
      match rest with
      | d :: _ => if isDigit d then .error .malformed else readFraction negative 0 0 rest
      | [] => readFraction negative 0 0 rest
    else if isDigit b then
      let ds := bs.takeWhile isDigit
      let r := absorb 0 ds
      readFraction negative r.1 (ds.length - r.2) (bs.dropWhile isDigit)
    else .error .malformed

/-- Passes over the digits of an exponent and its sign. -/
def skipExponent (bs : Bytes) : Except Fault Bytes :=
  let bs :=
    match bs with
    | b :: rest => if b = 0x2B ∨ b = 0x2D then rest else bs
    | [] => []
  match bs with
  | b :: rest => if isDigit b then .ok (rest.dropWhile isDigit) else .error .malformed
  | [] => .error .malformed

/-- Passes over a fraction and an exponent. -/
def skipFraction (bs : Bytes) : Except Fault Bytes :=
  match bs with
  | b :: rest =>
    if b = 0x2E then
      match rest with
      | d :: rest =>
        if isDigit d then
          match rest.dropWhile isDigit with
          | b :: rest => if isExponentLetter b then skipExponent rest else .ok (b :: rest)
          | [] => .ok []
        else .error .malformed
      | [] => .error .malformed
    else if isExponentLetter b then skipExponent rest
    else .ok bs
  | [] => .ok []

/-- Passes over a number after its sign. Its size does not matter, and a number that the text cuts
short is no number. -/
def skipNumber (bs : Bytes) : Except Fault Bytes :=
  match bs with
  | b :: rest =>
    if b = 0x30 then
      match rest with
      | d :: _ => if isDigit d then .error .malformed else skipFraction rest
      | [] => .ok []
    else if isDigit b then skipFraction (rest.dropWhile isDigit)
    else .error .malformed
  | [] => .error .malformed

/-! ### Writing -/

/-- The decimal digits of a natural number. -/
def natDigits (n : Nat) : String :=
  String.ofList (Nat.toDigits 10 n)

/-- A run of zeros. -/
def zeros (n : Nat) : String :=
  String.ofList (List.replicate n '0')

/-- A positive decimal. It is positional from `0.00001` up to sixteen places before the point, and
always shows a point or an exponent. -/
def Decimal.write (d : Decimal) : String :=
  let ds := Nat.toDigits 10 d.digits
  let power : Int := d.exponent + ds.length - 1
  if 0 ≤ power ∧ power ≤ 15 then
    let places := power.toNat + 1
    if ds.length ≤ places then String.ofList ds ++ zeros (places - ds.length) ++ ".0"
    else String.ofList (ds.take places) ++ "." ++ String.ofList (ds.drop places)
  else if -5 ≤ power ∧ power < 0 then
    "0." ++ zeros ((-power).toNat - 1) ++ String.ofList ds
  else
    String.ofList (ds.take 1) ++ (if ds.length = 1 then "" else "." ++ String.ofList (ds.drop 1)) ++
      (if power < 0 then "e-" else "e+") ++ natDigits power.natAbs

/-- A finite binary number: the shortest decimal that reads back. -/
def writeReal (x : Float) : String :=
  let sign := if x.toBits.toNat / Nat.pow 2 63 = 1 then "-" else ""
  let b := Binary.ofBits x.toBits
  sign ++ if b.significand = 0 then "0.0" else b.shortest.write

/-- The digits of a number. -/
def Number.write : Number → String
  | .whole n => (if n < 0 then "-" else "") ++ natDigits n.natAbs
  | .real x => writeReal x

end Brokerage.Json
