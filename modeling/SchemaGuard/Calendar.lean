import SchemaGuard.Number.Numeral
import SchemaGuard.Unicode.Character

/-! # Dates and times

Calendar dates of the proleptic Gregorian calendar, and times of day with or without an
offset. A date may be written loosely, with blanks before a number and a signed year; a
time with an offset has fields of fixed width. Reading checks every range, so what is
read can be written again in the one form that `text` produces.
-/

namespace SchemaGuard.Calendar

/-- A calendar date. -/
structure Date where
  year : Int
  month : Nat
  day : Nat
deriving DecidableEq, Repr

/-- A time of day; second sixty is a leap second, and the fraction counts nanoseconds. -/
structure Time where
  hour : Nat
  minute : Nat
  second : Nat
  nanosecond : Nat
deriving DecidableEq, Repr

/-- A date and a time with an offset in minutes. -/
structure Moment where
  date : Date
  time : Time
  offset : Int
deriving DecidableEq, Repr

/-- Whether a year has a leap day. -/
def isLeapYear (year : Int) : Bool :=
  year % 4 == 0 && (year % 100 != 0 || year % 400 == 0)

/-- The number of days of a month. -/
def daysInMonth (year : Int) (month : Nat) : Nat :=
  if month = 2 then (if isLeapYear year then 29 else 28)
  else if month = 4 ∨ month = 6 ∨ month = 9 ∨ month = 11 then 30
  else 31

/-- The date with the given parts, if the calendar has it. -/
def Date.ofParts? (year : Int) (month day : Nat) : Option Date :=
  if -262143 ≤ year ∧ year ≤ 262142 ∧ 1 ≤ month ∧ month ≤ 12 ∧ 1 ≤ day ∧
      day ≤ daysInMonth year month then
    some ⟨year, month, day⟩
  else
    none

/-- The time with the given parts, if they are in range. -/
def Time.ofParts? (hour minute second nanosecond : Nat) : Option Time :=
  if hour ≤ 23 ∧ minute ≤ 59 ∧ second ≤ 60 then some ⟨hour, minute, second, nanosecond⟩
  else none

/-- At least `least` and at most `most` digits at the start of a text. -/
def digits? (least most : Nat) (text : List Char) : Option (List Char × List Char) :=
  let run := (text.take most).takeWhile Char.isDigit
  if run.length < least then none else some (run, text.drop run.length)

/-- A number of at least `least` and at most `most` digits. -/
def number? (least most : Nat) (text : List Char) : Option (Nat × List Char) :=
  (digits? least most text).map (fun (run, rest) => (Numeral.natural run, rest))

/-- A character that has to come next. -/
def char? (expected : Char) : List Char → Option (List Char)
  | [] => none
  | c :: rest => if c = expected then some rest else none

/-- A number of one or two digits after any blanks. -/
def looseNumber? (text : List Char) : Option (Nat × List Char) :=
  number? 1 2 (text.dropWhile Unicode.isBlank)

/-- A year after any blanks: up to four digits, or a sign and any number of digits. -/
def looseYear? (text : List Char) : Option (Int × List Char) :=
  match text.dropWhile Unicode.isBlank with
  | '-' :: rest => (number? 1 rest.length rest).map (fun (n, rest) => (-(n : Int), rest))
  | '+' :: rest => (number? 1 rest.length rest).map (fun (n, rest) => ((n : Int), rest))
  | text => (number? 1 4 text).map (fun (n, rest) => ((n : Int), rest))

/-- Year, month and day separated by hyphens. -/
def looseDate? (text : List Char) : Option (Date × List Char) := do
  let (year, text) ← looseYear? text
  let text ← char? '-' text
  let (month, text) ← looseNumber? text
  let text ← char? '-' text
  let (day, text) ← looseNumber? text
  let date ← Date.ofParts? year month day
  pure (date, text)

/-- The nanoseconds after a decimal point: one digit or more, of which nine count. -/
def fraction? (text : List Char) : Option (Nat × List Char) := do
  let (run, rest) ← digits? 1 9 text
  pure (Numeral.natural run * Nat.pow 10 (9 - run.length), rest.dropWhile Char.isDigit)

/-- A decimal point with nanoseconds, or nothing. -/
def optionalFraction? : List Char → Option (Nat × List Char)
  | '.' :: rest => fraction? rest
  | text => some (0, text)

/-- A date that is a whole text. -/
def date? (text : List Char) : Option Date := do
  let (date, rest) ← looseDate? text
  if rest = [] then pure date else none

/-- A date, the letter `T` and a time without offset that are a whole text. -/
def localTime? (text : List Char) : Option (Date × Time) := do
  let (date, text) ← looseDate? text
  let text ← char? 'T' text
  let (hour, text) ← looseNumber? text
  let text ← char? ':' text
  let (minute, text) ← looseNumber? text
  let text ← char? ':' text
  let (second, text) ← looseNumber? text
  let (nanosecond, text) ← optionalFraction? text
  let time ← Time.ofParts? hour minute second nanosecond
  if text = [] then pure (date, time) else none

/-- Whether an offset is negative, from the sign before it. -/
def offsetSign? : List Char → Option (Bool × List Char)
  | '+' :: rest => some (false, rest)
  | '-' :: rest => some (true, rest)
  | '\u2212' :: rest => some (true, rest)
  | _ => none

/-- An offset in minutes: the letter `Z`, or a sign, two digits, a colon and two digits. -/
def offset? : List Char → Option (Int × List Char)
  | 'Z' :: rest => some (0, rest)
  | 'z' :: rest => some (0, rest)
  | text => do
      let (negative, text) ← offsetSign? text
      let (hours, text) ← number? 2 2 text
      let text ← char? ':' text
      let (minutes, text) ← number? 2 2 text
      if hours ≤ 23 ∧ minutes ≤ 59 then
        let total : Int := (hours * 60 + minutes : Nat)
        pure (if negative then -total else total, text)
      else
        none

/-- A date, a separator, a time and an offset that are a whole text. -/
def moment? (text : List Char) : Option Moment := do
  let (year, text) ← number? 4 4 text
  let text ← char? '-' text
  let (month, text) ← number? 2 2 text
  let text ← char? '-' text
  let (day, text) ← number? 2 2 text
  let date ← Date.ofParts? year month day
  let text ← match text with
    | c :: rest => if c = 'T' ∨ c = 't' ∨ c = ' ' then some rest else none
    | [] => none
  let (hour, text) ← number? 2 2 text
  let text ← char? ':' text
  let (minute, text) ← number? 2 2 text
  let text ← char? ':' text
  let (second, text) ← number? 2 2 text
  let (nanosecond, text) ← optionalFraction? text
  let time ← Time.ofParts? hour minute second nanosecond
  let (offset, text) ← offset? text
  if text = [] then pure ⟨date, time, offset⟩ else none

/-- A number with zeros before it up to a width. -/
def padded (width n : Nat) : List Char :=
  let digits := Nat.toDigits 10 n
  List.replicate (width - digits.length) '0' ++ digits

/-- A year with four digits, and with a sign outside of the years 0 to 9999. -/
def yearText (year : Int) : List Char :=
  let digits := padded 4 year.natAbs
  if year < 0 then '-' :: digits
  else if 9999 < year then '+' :: digits
  else digits

/-- The written form of a date. -/
def Date.text (date : Date) : List Char :=
  yearText date.year ++ '-' :: padded 2 date.month ++ '-' :: padded 2 date.day

/-- The fraction of a second in three, six or nine digits, or nothing. -/
def fractionText (nanosecond : Nat) : List Char :=
  if nanosecond = 0 then []
  else if nanosecond % 1000000 = 0 then '.' :: padded 3 (nanosecond / 1000000)
  else if nanosecond % 1000 = 0 then '.' :: padded 6 (nanosecond / 1000)
  else '.' :: padded 9 nanosecond

/-- The written form of a time. -/
def Time.text (time : Time) : List Char :=
  padded 2 time.hour ++ ':' :: padded 2 time.minute ++ ':' :: padded 2 time.second ++
    fractionText time.nanosecond

/-- The written form of an offset. -/
def offsetText (offset : Int) : List Char :=
  (if offset < 0 then '-' else '+') ::
    (padded 2 (offset.natAbs / 60) ++ ':' :: padded 2 (offset.natAbs % 60))

/-- The written form of a date and time with offset. -/
def Moment.text (moment : Moment) : List Char :=
  moment.date.text ++ 'T' :: moment.time.text ++ offsetText moment.offset

/-- Whether a text is a date. -/
def isDate (text : String) : Bool :=
  (date? text.toList).isSome

/-- Whether a text is a date and time, with an offset or without. -/
def isDateTime (text : String) : Bool :=
  (moment? text.toList).isSome || (localTime? text.toList).isSome

end SchemaGuard.Calendar
