import MediaSite.Text.Blank

namespace MediaSite

/-!
# Dates and times of day

Dates are those of the Gregorian calendar, extended in both directions over a
fixed range of years; every `Date` is a day that exists.  A time of day has no
zone and may fall into a leap second, written as second 60.

The written form has four digits for the years from 0 to 9999 and a sign and
at least four digits for the others.  Reading also accepts one-digit months
and days and blanks between the parts.
-/

open scoped Text

/-! ## Days -/

/-- Years with a 29th of February. -/
def isLeapYear (year : Int) : Bool :=
  year % 4 == 0 && (year % 100 != 0 || year % 400 == 0)

/-- The number of days in a month, zero for a month that does not exist. -/
def daysInMonth (year : Int) (month : Nat) : Nat :=
  if month = 2 then (if isLeapYear year then 29 else 28)
  else if month = 4 || month = 6 || month = 9 || month = 11 then 30
  else if 1 ≤ month && month ≤ 12 then 31
  else 0

/-- The days that exist, within the range of years. -/
def IsDay (year : Int) (month day : Nat) : Prop :=
  (-262143 ≤ year ∧ year ≤ 262142) ∧ 1 ≤ day ∧ day ≤ daysInMonth year month

instance (year : Int) (month day : Nat) : Decidable (IsDay year month day) :=
  inferInstanceAs (Decidable (_ ∧ _))

/-- A day of the calendar. -/
structure Date where
  year : Int
  month : Nat
  day : Nat
  exists_day : IsDay year month day
  deriving DecidableEq

namespace Date

/-- The day with these parts, if it exists. -/
def ofParts? (year : Int) (month day : Nat) : Option Date :=
  if h : IsDay year month day then some ⟨year, month, day, h⟩ else none

/-- A year: four digits, or a sign and at least four digits. -/
def yearText (year : Int) : Text :=
  let digits := Text.padLeft 4 '0' (Text.ofNat year.natAbs)
  if 0 ≤ year ∧ year ≤ 9999 then digits
  else (if year < 0 then '-' else '+') :: digits

/-- A number with two digits at least. -/
def twoDigits (n : Nat) : Text :=
  Text.padLeft 2 '0' (Text.ofNat n)

/-- Year, month and day. -/
def toText (date : Date) : Text :=
  yearText date.year ++ "-" ++ twoDigits date.month ++ "-" ++ twoDigits date.day

end Date

/-! ## Times -/

/-- The times of day that exist; second 60 is a leap second. -/
def IsClockTime (hour minute second nanosecond : Nat) : Prop :=
  hour < 24 ∧ minute < 60 ∧ second ≤ 60 ∧ nanosecond < 1000000000

instance (hour minute second nanosecond : Nat) :
    Decidable (IsClockTime hour minute second nanosecond) :=
  inferInstanceAs (Decidable (_ ∧ _))

/-- A day and a time of day. -/
structure DateTime where
  date : Date
  hour : Nat
  minute : Nat
  second : Nat
  nanosecond : Nat
  exists_time : IsClockTime hour minute second nanosecond
  deriving DecidableEq

namespace DateTime

/-- The moment with these parts, if it exists. -/
def ofParts? (date : Date) (hour minute second nanosecond : Nat) : Option DateTime :=
  if h : IsClockTime hour minute second nanosecond then
    some ⟨date, hour, minute, second, nanosecond, h⟩
  else none

/-- Day, hour and minute. -/
def toMinuteText (moment : DateTime) : Text :=
  moment.date.toText ++ " " ++ Date.twoDigits moment.hour ++ ":" ++ Date.twoDigits moment.minute

/-- The fraction of a second in three, six or nine digits, nothing for zero. -/
def fractionText (nanosecond : Nat) : Text :=
  if nanosecond = 0 then []
  else if nanosecond % 1000000 = 0 then
    "." ++ Text.padLeft 3 '0' (Text.ofNat (nanosecond / 1000000))
  else if nanosecond % 1000 = 0 then
    "." ++ Text.padLeft 6 '0' (Text.ofNat (nanosecond / 1000))
  else "." ++ Text.padLeft 9 '0' (Text.ofNat nanosecond)

/-- The full written form of a moment. -/
def toText (moment : DateTime) : Text :=
  moment.date.toText ++ "T" ++ Date.twoDigits moment.hour ++ ":" ++
    Date.twoDigits moment.minute ++ ":" ++ Date.twoDigits moment.second ++
    fractionText moment.nanosecond

end DateTime

/-! ## Reading -/

namespace Calendar

/-- At most `width` digits at the beginning of a text, at least one. -/
def digits? (width : Nat) (text : Text) : Option (Nat × Text) := do
  let digits := (text.take width).takeWhile Char.isDigit
  let value ← Text.toNat? digits
  return (value, text.drop digits.length)

/-- Blanks and then at most `width` digits. -/
def number? (width : Nat) (text : Text) : Option (Nat × Text) :=
  digits? width (Text.trimStart text)

/-- Blanks and then a year.  Only a sign allows more than four digits. -/
def year? (text : Text) : Option (Int × Text) :=
  match Text.trimStart text with
  | '-' :: rest => (digits? rest.length rest).map fun read => (-(read.1 : Int), read.2)
  | '+' :: rest => (digits? rest.length rest).map fun read => ((read.1 : Int), read.2)
  | rest => (digits? 4 rest).map fun read => ((read.1 : Int), read.2)

/-- Blanks and then one given character. -/
def mark? (mark : Char) (text : Text) : Option Text :=
  match Text.trimStart text with
  | c :: rest => if c = mark then some rest else none
  | [] => none

/-- A day, the blanks after it included. -/
def date? (text : Text) : Option (Date × Text) := do
  let (year, text) ← year? text
  let text ← mark? '-' text
  let (month, text) ← number? 2 text
  let text ← mark? '-' text
  let (day, text) ← number? 2 text
  let date ← Date.ofParts? year month day
  return (date, Text.trimStart text)

/-- A point and a fraction of a second in nanoseconds; digits after the ninth
are dropped. -/
def fraction? : Text → Option (Nat × Text)
  | '.' :: rest => do
    let (value, after) ← digits? 9 rest
    return (value * Nat.pow 10 (9 - (rest.length - after.length)), after.dropWhile Char.isDigit)
  | text => some (0, text)

end Calendar

/-- The day that a text denotes. -/
def Date.parse? (text : Text) : Option Date := do
  let (date, rest) ← Calendar.date? text
  if rest.isEmpty then some date else none

/-- The moment that a text denotes. -/
def DateTime.parse? (text : Text) : Option DateTime := do
  let (date, text) ← Calendar.date? text
  let text ← Calendar.mark? 'T' text
  let (hour, text) ← Calendar.number? 2 text
  let text ← Calendar.mark? ':' text
  let (minute, text) ← Calendar.number? 2 text
  let text ← Calendar.mark? ':' text
  let (second, text) ← Calendar.number? 2 text
  let (nanosecond, text) ← Calendar.fraction? text
  if (Text.trimStart text).isEmpty then DateTime.ofParts? date hour minute second nanosecond
  else none

end MediaSite
