import Brokerage.Json.Reader
import Brokerage.Text.Digits

/-!
# Time stamps

A moment with the offset from UTC at which it was noted down, to the nanosecond, in the years 0 to
9999. It is written as in `2026-03-01T09:30:00.5+01:00`, with `Z` for no offset.
-/

namespace Brokerage

namespace Calendar

/-- Every fourth year is a leap year, every hundredth is not, every four hundredth is. -/
def isLeap (year : Int) : Bool :=
  year % 4 == 0 && (year % 100 != 0 || year % 400 == 0)

/-- The number of days of a month, 1 to 12. -/
def daysIn (year : Int) (month : Nat) : Nat :=
  if month = 2 then if isLeap year then 29 else 28
  else if month = 4 ∨ month = 6 ∨ month = 9 ∨ month = 11 then 30
  else 31

end Calendar

/-- What a calendar, a clock and an offset show. -/
structure Reading where
  year : Nat
  month : Nat
  day : Nat
  hour : Nat
  minute : Nat
  second : Nat
  nanosecond : Nat
  /-- Minutes ahead of UTC. -/
  offset : Int
  deriving DecidableEq, Repr

/-- True if there is such a moment. -/
def Reading.IsValid (r : Reading) : Prop :=
  r.year ≤ 9999 ∧ (1 ≤ r.month ∧ r.month ≤ 12) ∧
    (1 ≤ r.day ∧ r.day ≤ Calendar.daysIn r.year r.month) ∧
    r.hour < 24 ∧ r.minute < 60 ∧ r.second < 60 ∧ r.nanosecond < 1_000_000_000 ∧
    r.offset.natAbs < 24 * 60

instance (r : Reading) : Decidable r.IsValid :=
  inferInstanceAs (Decidable (_ ∧ _))

/-- A moment and the offset at which it was noted down. -/
structure Timestamp where
  reading : Reading
  isValid : reading.IsValid
  deriving DecidableEq

namespace Timestamp

/-- The moment that a calendar and a clock show, if there is one. -/
def ofReading? (r : Reading) : Option Timestamp :=
  if h : r.IsValid then some ⟨r, h⟩ else none

/-! ### Writing -/

/-- The fraction of a second: nothing if it is zero. -/
def writeFraction (nanosecond : Nat) : List Char :=
  if nanosecond = 0 then [] else '.' :: Text.dropZeros (Text.padded 9 nanosecond)

/-- An offset from UTC. -/
def writeOffset (minutes : Int) : List Char :=
  if minutes = 0 then ['Z']
  else
    (if minutes < 0 then '-' else '+') ::
      (Text.padded 2 (minutes.natAbs / 60) ++ ':' :: Text.padded 2 (minutes.natAbs % 60))

/-- The characters of a time stamp. -/
def writeChars (t : Timestamp) : List Char :=
  let r := t.reading
  Text.padded 4 r.year ++ '-' :: (Text.padded 2 r.month ++ '-' :: (Text.padded 2 r.day ++
    'T' :: (Text.padded 2 r.hour ++ ':' :: (Text.padded 2 r.minute ++
      ':' :: (Text.padded 2 r.second ++ (writeFraction r.nanosecond ++ writeOffset r.offset))))))

/-- The text of a time stamp. -/
def write (t : Timestamp) : String :=
  String.ofList t.writeChars

/-! ### Reading -/

/-- The value of a decimal digit. -/
def digit? (c : Char) : Option Nat :=
  if '0' ≤ c ∧ c ≤ '9' then some (c.toNat - '0'.toNat) else none

/-- Takes exactly `width` digits off the front. -/
def readDigits : Nat → Nat → List Char → Option (Nat × List Char)
  | 0, n, cs => some (n, cs)
  | _ + 1, _, [] => none
  | width + 1, n, c :: cs =>
    match digit? c with
    | some d => readDigits width (n * 10 + d) cs
    | none => none

/-- Takes one character off the front. -/
def readMark (mark : Char) : List Char → Option (List Char)
  | [] => none
  | c :: cs => if c = mark then some cs else none

/-- Takes any ASCII character off the front: it parts the date from the time. -/
def readSeparator : List Char → Option (List Char)
  | [] => none
  | c :: cs => if c.toNat < 0x80 then some cs else none

/-- The digits of a fraction as nanoseconds; those after the ninth are dropped. -/
def fractionValue : Nat → List Char → Nat
  | _, [] => 0
  | unit, c :: cs => (digit? c).getD 0 * unit + fractionValue (unit / 10) cs

/-- Takes a fraction of a second off the front, if there is a point. -/
def readFraction : List Char → Option (Nat × List Char)
  | [] => some (0, [])
  | c :: cs =>
    if c = '.' then
      let ds := cs.takeWhile fun c => (digit? c).isSome
      if ds = [] then none
      else some (fractionValue 100_000_000 ds, cs.dropWhile fun c => (digit? c).isSome)
    else some (0, c :: cs)

/-- Takes an offset off the front. Its hours stay below 24 and its minutes below 60. -/
def readOffset : List Char → Option (Int × List Char)
  | [] => none
  | c :: cs =>
    if c = 'Z' ∨ c = 'z' then some (0, cs)
    else if c = '+' ∨ c = '-' then do
      let (hours, cs) ← readDigits 2 0 cs
      let cs ← readMark ':' cs
      let (minutes, cs) ← readDigits 2 0 cs
      if hours < 24 ∧ minutes < 60 then
        let total : Int := hours * 60 + minutes
        some (if c = '-' then -total else total, cs)
      else none
    else none

/-- True if the second is the last one of a month in UTC: of the month that is shown, or of the one
before if the clock is ahead. -/
def endsMonth (t : Timestamp) : Bool :=
  let r := t.reading
  let utc : Int := (r.hour * 60 + r.minute : Nat) - r.offset
  r.second == 59 &&
    ((utc == 24 * 60 - 1 && r.day == Calendar.daysIn r.year r.month) || (utc == -1 && r.day == 1))

/-- A leap second counts as the nanosecond before it, and there is one only where a month ends. -/
def ofClock? (r : Reading) : Option Timestamp :=
  if r.second = 60 then
    (ofReading? { r with second := 59, nanosecond := 999_999_999 }).filter endsMonth
  else ofReading? r

/-- The time stamp that a text is. -/
def parse? (s : String) : Option Timestamp := do
  let (year, cs) ← readDigits 4 0 s.toList
  let cs ← readMark '-' cs
  let (month, cs) ← readDigits 2 0 cs
  let cs ← readMark '-' cs
  let (day, cs) ← readDigits 2 0 cs
  let cs ← readSeparator cs
  let (hour, cs) ← readDigits 2 0 cs
  let cs ← readMark ':' cs
  let (minute, cs) ← readDigits 2 0 cs
  let cs ← readMark ':' cs
  let (second, cs) ← readDigits 2 0 cs
  let (nanosecond, cs) ← readFraction cs
  let (offset, cs) ← readOffset cs
  if cs = [] then ofClock? ⟨year, month, day, hour, minute, second, nanosecond, offset⟩ else none

/-- A time stamp in a JSON text. -/
def read : Json.Reader Timestamp :=
  Json.Reader.filterMap parse? Json.readText

end Timestamp

end Brokerage
