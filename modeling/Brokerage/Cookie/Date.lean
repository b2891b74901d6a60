import Brokerage.Text.Parts
import Brokerage.Timestamp

/-!
# Expiry dates

The dates with which a cookie says until when it holds, as seconds since the start of the year 0.
There are four ways to write one, all of them in UTC and all of them with or without the day of the
week, which need not be the right one.
-/

namespace Brokerage.Cookie

/-- The number of days before a day. -/
def daysBefore (year month day : Nat) : Nat :=
  let leapDays := (year + 3) / 4 - (year + 99) / 100 + (year + 399) / 400
  let months := (List.range (month - 1)).foldl (fun n m => n + Calendar.daysIn year (m + 1)) 0
  365 * year + leapDays + months + (day - 1)

/-! ### Words and numbers -/

/-- The short names of the days of a week. -/
def weekdays : List String := ["Mon", "Tue", "Wed", "Thu", "Fri", "Sat", "Sun"]

/-- The names of the days of a week. -/
def longWeekdays : List String :=
  ["Monday", "Tuesday", "Wednesday", "Thursday", "Friday", "Saturday", "Sunday"]

/-- The short names of the months. -/
def months : List String :=
  ["Jan", "Feb", "Mar", "Apr", "May", "Jun", "Jul", "Aug", "Sep", "Oct", "Nov", "Dec"]

/-- The text behind the day of the week at its start, or the whole text if there is none. -/
def behindWeekday (names : List String) (mark : String) (text : List Char) : List Char :=
  match names.find? (fun name => (name ++ mark).toList.isPrefixOf text) with
  | some name => text.drop (name ++ mark).length
  | none => text

/-- The number of a month. -/
def month? (text : List Char) : Option Nat :=
  (months.findIdx? (·.toList == text)).map (· + 1)

/-- The number that at most `width` digits write, and at least `least` of them. -/
def digits? (least width : Nat) (text : List Char) : Option Nat :=
  if least ≤ text.length ∧ text.length ≤ width ∧ text.all Char.isDigit then
    some (text.foldl (fun n c => n * 10 + (c.toNat - 0x30)) 0)
  else none

/-- A year of one to four digits. There may be a sign in front. -/
def year? : List Char → Option Int
  | '+' :: digits => (digits? 1 4 digits).map Int.ofNat
  | '-' :: digits => (digits? 1 4 digits).map fun n => -Int.ofNat n
  | digits => (digits? 1 4 digits).map Int.ofNat

/-- The year that a number of at most two digits stands for: one from 1970 to 2069. -/
def fullYear (n : Int) : Int :=
  if 0 ≤ n ∧ n ≤ 69 then n + 2000 else if 70 ≤ n ∧ n ≤ 99 then n + 1900 else n

/-- The seconds of a day that a clock shows. -/
def clock? (text : List Char) : Option Nat :=
  match text.splitOn ':' with
  | [hour, minute, second] =>
    match digits? 2 2 hour, digits? 2 2 minute, digits? 2 2 second with
    | some h, some m, some s =>
      if h < 24 ∧ m < 60 ∧ s < 60 then some ((h * 60 + m) * 60 + s) else none
    | _, _, _ => none
  | _ => none

/-! ### Dates -/

/-- The moment that the parts of a date name, if there is such a day. What lies before the year 0
is as long ago as its start. -/
def moment? (year : Option Int) (month day seconds : Option Nat) : Option Nat :=
  match year.map fullYear, month, day, seconds with
  | some y, some m, some d, some s =>
    if 1 ≤ d ∧ d ≤ Calendar.daysIn y m then
      some (if y < 0 then 0 else daysBefore y.toNat m d * 86400 + s)
    else none
  | _, _, _, _ => none

/-- The moment of a date with spaces, as in `01 Jan 1970 00:00:00 GMT`. -/
def spaced? (text : List Char) : Option Nat :=
  match text.splitOn ' ' with
  | [day, month, year, clock, ['G', 'M', 'T']] =>
    moment? (year? year) (month? month) (digits? 2 2 day) (clock? clock)
  | _ => none

/-- The moment of a date with hyphens, as in `01-Jan-1970 00:00:00 GMT`. The year may have a hyphen
itself, as a sign. -/
def hyphenated? (text : List Char) : Option Nat :=
  match text.splitOn ' ' with
  | [date, clock, ['G', 'M', 'T']] =>
    match Text.cut '-' date with
    | (day, some rest) =>
      match Text.cut '-' rest with
      | (month, some year) =>
        moment? (year? year) (month? month) (digits? 2 2 day) (clock? clock)
      | (_, none) => none
    | (_, none) => none
  | _ => none

/-- The moment of a date with hyphens and a year of two digits. -/
def shortHyphenated? (text : List Char) : Option Nat :=
  match text.splitOn ' ' with
  | [date, _, _] =>
    match date.splitOn '-' with
    | [_, _, year] => if (digits? 2 2 year).isSome then hyphenated? text else none
    | _ => none
  | _ => none

/-- The moment of a date with the year at its end, as in `Jan  1 00:00:00 1970`. A day of one digit
has a space in front. -/
def trailing? (text : List Char) : Option Nat :=
  match text.splitOn ' ' with
  | [month, [], day, clock, year] =>
    moment? (year? year) (month? month) (digits? 1 1 day) (clock? clock)
  | [month, day, clock, year] =>
    moment? (year? year) (month? month) (digits? 2 2 day) (clock? clock)
  | _ => none

/-- The moment that a date names. Long names of the days of the week go with hyphens and two digits
of the year only. -/
def date? (text : String) : Option Nat :=
  let cs := text.toList
  (spaced? (behindWeekday weekdays ", " cs)).or <|
    (shortHyphenated? (behindWeekday longWeekdays ", " cs)).or <|
      (trailing? (behindWeekday weekdays " " cs)).or <|
        hyphenated? (behindWeekday weekdays ", " cs)

end Brokerage.Cookie
