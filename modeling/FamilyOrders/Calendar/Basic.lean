import FamilyOrders.Document.Basic
import FamilyOrders.Text.Characters

/-!
# The calendar

Dates and moments, their notation in records, and the way an order prints them.
-/

namespace FamilyOrders.Calendar

/-! ## Dates

The proleptic Gregorian calendar over a fixed range of years.  A date carries
the proof that it exists, so every operation that returns one has decided so.
Adding months keeps the day of the month where the new month has it and
otherwise falls back to the last day. -/

def isLeapYear (year : Int) : Bool :=
  year % 4 == 0 && (year % 100 != 0 || year % 400 == 0)

/-- Months are counted from zero. -/
def daysInMonth (year : Int) (month : Fin 12) : Nat :=
  match month.val with
  | 1 => if isLeapYear year then 29 else 28
  | 3 | 5 | 8 | 10 => 30
  | _ => 31

theorem one_le_daysInMonth (year : Int) (month : Fin 12) :
    1 ≤ daysInMonth year month := by
  unfold daysInMonth
  repeat' split
  all_goals decide

def firstYear : Int := -262143

def lastYear : Int := 262142

structure Date where
  year : Int
  /-- Counted from zero. -/
  month : Fin 12
  day : Nat
  year_mem : firstYear ≤ year ∧ year ≤ lastYear
  day_mem : 1 ≤ day ∧ day ≤ daysInMonth year month
  deriving DecidableEq

namespace Date

/-- The date with the given year, month and day, months counted from one, if
there is such a date. -/
def of? (year : Int) (month day : Nat) : Option Date :=
  if hm : 1 ≤ month ∧ month ≤ 12 then
    let m : Fin 12 := ⟨month - 1, by omega⟩
    if hy : firstYear ≤ year ∧ year ≤ lastYear then
      if hd : 1 ≤ day ∧ day ≤ daysInMonth year m then
        some ⟨year, m, day, hy, hd⟩
      else none
    else none
  else none

/-- The number of whole months from the first month of year zero. -/
def monthNumber (date : Date) : Int :=
  12 * date.year + date.month.val

/-- The date `count` months later, unless it lies beyond the last year.  A day
that the new month lacks becomes its last day. -/
def addMonths? (date : Date) (count : Nat) : Option Date :=
  let number := date.monthNumber + count
  let year := number / 12
  let month : Fin 12 := ⟨(number % 12).toNat, by omega⟩
  if h : firstYear ≤ year ∧ year ≤ lastYear then
    some ⟨year, month, min date.day (daysInMonth year month), h,
      ⟨Nat.le_min.2 ⟨date.day_mem.1, one_le_daysInMonth year month⟩,
        Nat.min_le_right ..⟩⟩
  else none

end Date

/-! ## Moments

A time of day to the nanosecond, and a moment: a date with such a time.  A leap
second is written as the sixtieth second of any minute; it is kept as the last
second of that minute running on for more than a billion nanoseconds, and comes
after every other time in the minute. -/

def nanosPerSecond : Nat := 1000000000

structure TimeOfDay where
  hour : Fin 24
  minute : Fin 60
  second : Fin 60
  /-- A value of a billion or more lies within a leap second. -/
  nanos : Nat
  nanos_lt : nanos < 2 * nanosPerSecond
  leap : nanosPerSecond ≤ nanos → second.val = 59
  deriving DecidableEq

namespace TimeOfDay

/-- The time with the given parts, where a second of sixty is a leap second. -/
def of? (hour minute second nanos : Nat) : Option TimeOfDay :=
  if h : hour < 24 ∧ minute < 60 ∧ second ≤ 60 ∧ nanos < nanosPerSecond then
    if hs : second < 60 then
      some ⟨⟨hour, h.1⟩, ⟨minute, h.2.1⟩, ⟨second, hs⟩,
        nanos, by omega, by omega⟩
    else
      some ⟨⟨hour, h.1⟩, ⟨minute, h.2.1⟩, ⟨59, by decide⟩,
        nanosPerSecond + nanos, by omega, fun _ => rfl⟩
  else none

/-- The second as it is written: sixty within a leap second. -/
def writtenSecond (time : TimeOfDay) : Nat :=
  if time.nanos < nanosPerSecond then time.second else 60

/-- The fraction of the written second, in nanoseconds. -/
def fraction (time : TimeOfDay) : Nat :=
  time.nanos % nanosPerSecond

end TimeOfDay

structure Moment where
  date : Date
  time : TimeOfDay
  deriving DecidableEq

namespace Moment

/-- A number that grows with time: each part counts units larger than all later
parts together. -/
def rank (moment : Moment) : Int :=
  let day := moment.date.monthNumber * 31 + moment.date.day
  let minute := (day * 24 + moment.time.hour.val) * 60 + moment.time.minute.val
  (minute * 60 + moment.time.second.val) * (2 * nanosPerSecond) +
  moment.time.nanos

def isAfter (later earlier : Moment) : Bool :=
  earlier.rank < later.rank

end Moment

/-! ## Written dates and moments

The notation `2021-06-05T14:30:00.5` of dates and moments in case data.  Writing
is exact: four digits for the year, with a sign outside the years 0 to 9999, two
for every other part, and three, six or nine for a fraction.  Reading is
generous: blanks may stand before each part and at the end, leading zeros may be
missing, a signed year may have any number of digits, and digits of a fraction
past the ninth are ignored. -/

open FamilyOrders.Text

/-- Four digits, with a sign for the years that four digits alone do not denote.
-/
def yearChars (year : Int) : List Char :=
  if 0 ≤ year ∧ year ≤ 9999 then paddedDigits 4 year.toNat
  else (if year < 0 then '-' else '+') :: paddedDigits 4 year.natAbs

def Date.chars (date : Date) : List Char :=
  yearChars date.year ++ '-' :: paddedDigits 2 (date.month.val + 1) ++
    '-' :: paddedDigits 2 date.day

def fractionChars (nanos : Nat) : List Char :=
  if nanos = 0 then []
  else if nanos % 1000000 = 0 then '.' :: paddedDigits 3 (nanos / 1000000)
  else if nanos % 1000 = 0 then '.' :: paddedDigits 6 (nanos / 1000)
  else '.' :: paddedDigits 9 nanos

def TimeOfDay.chars (time : TimeOfDay) : List Char :=
  paddedDigits 2 time.hour.val ++ ':' :: paddedDigits 2 time.minute.val ++
    ':' :: paddedDigits 2 time.writtenSecond ++ fractionChars time.fraction

def Moment.chars (moment : Moment) : List Char :=
  moment.date.chars ++ 'T' :: moment.time.chars

def Date.text (date : Date) : String :=
  String.ofList date.chars

def Moment.text (moment : Moment) : String :=
  String.ofList moment.chars

/-- A run of decimal digits at the start of the text, at least one and at most
`width` of them, and what follows. -/
def readDigits (width : Nat) (cs : List Char) : Option
    (List Char × List Char) :=
  let run := (cs.take width).takeWhile Char.isDigit
  if run.isEmpty then none else some (run, cs.drop run.length)

/-- A number after blanks. -/
def readPart (width : Nat) (cs : List Char) : Option (Nat × List Char) :=
  (readDigits width (cs.dropWhile isBlank)).map fun (run, rest) =>
  (digitsValue run, rest)

/-- A year after blanks: up to four digits, or any number of them after a sign.
-/
def readYear (cs : List Char) : Option (Int × List Char) :=
  match cs.dropWhile isBlank with
  | '-' :: rest =>
    (readDigits rest.length rest).map fun (run, rest) =>
    (-(digitsValue run : Int), rest)
  | '+' :: rest =>
    (readDigits rest.length rest).map fun (run, rest) =>
    ((digitsValue run : Int), rest)
  | rest =>
    (readDigits 4 rest).map fun (run, rest) => ((digitsValue run : Int), rest)

/-- The given mark, after blanks. -/
def readMark (mark : Char) (cs : List Char) : Option (List Char) :=
  match cs.dropWhile isBlank with
  | c :: rest => if c = mark then some rest else none
  | [] => none

def readDate (cs : List Char) : Option (Date × List Char) := do
  let (year, cs) ← readYear cs
  let cs ← readMark '-' cs
  let (month, cs) ← readPart 2 cs
  let cs ← readMark '-' cs
  let (day, cs) ← readPart 2 cs
  let date ← Date.of? year month day
  return (date, cs)

/-- Nanoseconds from the digits after the point: nine digits count, further ones
are dropped. -/
def readFraction (cs : List Char) : Option (Nat × List Char) :=
  match cs with
  | '.' :: rest =>
    (readDigits 9 rest).map fun (run, after) =>
      (digitsValue run * Nat.pow 10 (9 - run.length),
        after.dropWhile Char.isDigit)
  | _ => some (0, cs)

def readTime (cs : List Char) : Option (TimeOfDay × List Char) := do
  let (hour, cs) ← readPart 2 cs
  let cs ← readMark ':' cs
  let (minute, cs) ← readPart 2 cs
  let cs ← readMark ':' cs
  let (second, cs) ← readPart 2 cs
  let (nanos, cs) ← readFraction cs
  let time ← TimeOfDay.of? hour minute second nanos
  return (time, cs)

/-- Nothing but blanks may follow. -/
def readEnd (found : Option (α × List Char)) : Option α :=
  found.bind fun (a, rest) => if rest.all isBlank then some a else none

def Date.ofText? (s : String) : Option Date :=
  readEnd (readDate s.toList)

def Moment.ofText? (s : String) : Option Moment :=
  readEnd do
    let (date, cs) ← readDate s.toList
    let cs ← readMark 'T' cs
    let (time, cs) ← readTime cs
    return (⟨date, time⟩, cs)

/-! ## Printed dates

Dates and moments as an order prints them: `5 June 2021`, `5 Mehefin 2021,
2:30pm`.  English years outside 0 to 9999 carry a sign and English years below
1000 are filled up with zeros; Welsh years are plain numbers. -/

def monthNames : Language → Vector String 12
  | .english =>
    #v["January", "February", "March", "April", "May", "June", "July", "August",
      "September", "October", "November", "December"]
  | .welsh =>
    #v["Ionawr", "Chwefror", "Mawrth", "Ebrill", "Mai", "Mehefin", "Gorffennaf",
      "Awst", "Medi", "Hydref", "Tachwedd", "Rhagfyr"]

def monthName (language : Language) (month : Fin 12) : String :=
  (monthNames language).get month

def printedYear (language : Language) (year : Int) : List Char :=
  match language with
  | .english => yearChars year
  | .welsh => (if year < 0 then ['-'] else []) ++ digits year.natAbs

def Date.printedChars (date : Date) (language : Language) : List Char :=
  digits date.day ++ ' ' :: (monthName language date.month).toList ++
    ' ' :: printedYear language date.year

/-- The hour of a twelve-hour clock, on which midnight and noon are twelve. -/
def TimeOfDay.clockHour (time : TimeOfDay) : Nat :=
  if time.hour.val % 12 = 0 then 12 else time.hour.val % 12

def TimeOfDay.printedChars (time : TimeOfDay) : List Char :=
  digits time.clockHour ++ ':' :: paddedDigits 2 time.minute.val ++
    [if time.hour.val < 12 then 'a' else 'p', 'm']

def Date.printed (date : Date) (language : Language) : String :=
  String.ofList (date.printedChars language)

def Moment.printed (moment : Moment) (language : Language) : String :=
  String.ofList (moment.date.printedChars language ++ [',', ' '] ++
    moment.time.printedChars)

end FamilyOrders.Calendar
