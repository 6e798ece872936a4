import FamilyOrders.Calendar.Basic
import FamilyOrders.Json.Reader
import FamilyOrders.Text.Characters
import FamilyOrders.Text.Encoding

/-!
# Values in TOML

Moments, numbers and quoted texts as TOML writes them.
-/

namespace FamilyOrders.Toml

open FamilyOrders.Calendar FamilyOrders.Text

/-! ## Dates and times in TOML

A date, a time of day, or both with or without an offset from universal time.
They have no meaning in a configuration, so only their normal text is kept. -/

/-- Exactly `width` digits with a value between the bounds. -/
def readPart (width low high : Nat) (cs : List Char) : Option
    (List Char × List Char) :=
  let run := cs.take width
  if run.length = width && run.all Char.isDigit && low ≤ digitsValue run &&
    digitsValue run ≤ high
  then some (run, cs.drop width)
  else none

def readMark (mark : Char) : List Char → Option (List Char)
  | c :: rest => if c = mark then some rest else none
  | [] => none

/-- A date of the calendar, in its own text. -/
def readDate (cs : List Char) : Option (List Char × List Char) := do
  let (year, cs) ← readPart 4 0 9999 cs
  let cs ← readMark '-' cs
  let (month, cs) ← readPart 2 1 12 cs
  let cs ← readMark '-' cs
  let (day, cs) ← readPart 2 1 31 cs
  let _ ← Date.of? (digitsValue year) (digitsValue month) (digitsValue day)
  return (year ++ '-' :: month ++ '-' :: day, cs)

/-- The fraction of a second, cut after nine digits and without zeros at its
end. -/
def readFraction (cs : List Char) : Option (List Char × List Char) :=
  match cs with
  | '.' :: rest =>
    let run := rest.takeWhile Char.isDigit
    let kept := ((run.take 9).reverse.dropWhile (· = '0')).reverse
    if run.isEmpty then none
    else some (if kept.isEmpty then [] else '.' :: kept, rest.drop run.length)
  | _ => some ([], cs)

def readTime (cs : List Char) : Option (List Char × List Char) := do
  let (hour, cs) ← readPart 2 0 23 cs
  let cs ← readMark ':' cs
  let (minute, cs) ← readPart 2 0 59 cs
  let cs ← readMark ':' cs
  let (second, cs) ← readPart 2 0 60 cs
  let (fraction, cs) ← readFraction cs
  return (hour ++ ':' :: minute ++ ':' :: second ++ fraction, cs)

/-- The offset from universal time, if one is given; there is only one zero. -/
def readOffset (cs : List Char) : Option (List Char × List Char) :=
  match cs with
  | 'Z' :: rest => some (['Z'], rest)
  | 'z' :: rest => some (['Z'], rest)
  | sign :: rest =>
    if sign = '+' || sign = '-' then do
      let (hour, rest) ← readPart 2 0 23 rest
      let rest ← readMark ':' rest
      let (minute, rest) ← readPart 2 0 59 rest
      let zero := digitsValue (hour ++ minute) = 0
      return ((if zero then '+' else sign) :: hour ++ ':' :: minute, rest)
    else some ([], cs)
  | [] => some ([], cs)

def isTimeMark (c : Char) : Bool :=
  c = 'T' || c = 't' || c = ' '

/-- What may follow a date: a time and an offset. -/
def readTimeAfterDate (cs : List Char) : Option (List Char × List Char) :=
  match cs with
  | c :: rest =>
    if isTimeMark c && (c ≠ ' ' || (readTime rest).isSome) then do
      let (time, rest) ← readTime rest
      let (offset, rest) ← readOffset rest
      return ('T' :: time ++ offset, rest)
    else some ([], cs)
  | [] => some ([], cs)

/-- A date, a time, or both. -/
def readMoment (cs : List Char) : Option (List Char × List Char) :=
  match readDate cs with
  | some (date, rest) =>
    (readTimeAfterDate rest).map fun (time, rest) => (date ++ time, rest)
  | none => readTime cs

/-! ## Numbers in TOML

Integers of sixty-four bits in base ten, sixteen, eight or two, and
floating-point numbers.  Single underscores may stand between digits. -/

open FamilyOrders.Json

/-- Further digits of a run, and what follows them. -/
def readMore (isDigit : Char → Bool) : List Char → Option
    (List Char × List Char)
  | '_' :: c :: rest =>
    if isDigit c then (readMore isDigit rest).map fun (run, rest) => (c :: run,
      rest) else none
  | c :: rest =>
    if isDigit c then (readMore isDigit rest).map fun (run, rest) =>
      (c :: run, rest)
    else some ([], c :: rest)
  | [] => some ([], [])

/-- A run of digits, and what follows it; an underscore stands only between two
digits. -/
def readRun (isDigit : Char → Bool) : List Char → Option (List Char × List Char)
  | c :: rest =>
    if isDigit c then (readMore isDigit rest).map fun (run, rest) => (c :: run,
      rest) else none
  | [] => none

/-- The sign at the start, true for a minus, and what follows it. -/
def readSign : List Char → Bool × List Char
  | '-' :: rest => (true, rest)
  | '+' :: rest => (false, rest)
  | rest => (false, rest)

/-- Decimal digits of which only a single one may be a zero at the start. -/
def readWhole (cs : List Char) : Option (List Char × List Char) :=
  match cs with
  | '0' :: rest => some (['0'], rest)
  | _ => readRun Char.isDigit cs

/-- One more than the greatest integer. -/
def integerLimit : Nat := 9223372036854775808

/-- The integer as a value, if it has sixty-four bits. -/
def integer? (negative : Bool) (magnitude : Nat) : Option Json :=
  if negative && magnitude ≠ 0 then
    if magnitude ≤ integerLimit then some (.numeral ("-" ++ toString magnitude))
    else none
  else if magnitude < integerLimit then some (.natural magnitude) else none

def readInteger (cs : List Char) : Option (Json × List Char) := do
  let (negative, rest) := readSign cs
  let (run, rest) ← readWhole rest
  return (← integer? negative (Nat.ofDigitChars 10 run 0), rest)

/-- Digits of a base that is written in front of them. -/
def readInBase (base : Nat) (isDigit : Char → Bool) (cs : List Char) :
    Option (Json × List Char) := do
  let (run, rest) ← readRun isDigit cs
  let magnitude := run.foldl (fun n c => n * base + (Text.hexValue? c).getD 0) 0
  return (← integer? false magnitude, rest)

def readExponent (cs : List Char) : Option (Bool × List Char × List Char) :=
  match cs with
  | c :: rest =>
    if c = 'e' || c = 'E' then
      let (negative, rest) := readSign rest
      (readRun Char.isDigit rest).map fun (run, rest) => (negative, run, rest)
    else some (false, [], cs)
  | [] => some (false, [], cs)

/-- The fraction and exponent after a whole number; at least one of them has to
be there. -/
def readFloatTail (negative : Bool) (whole cs : List Char) : Option
    (Json × List Char) := do
  let (fraction, rest) ←
    match cs with
    | '.' :: rest => readRun Char.isDigit rest
    | rest => some ([], rest)
  let (exponentNegative, exponent, rest) ← readExponent rest
  if fraction.isEmpty && exponent.isEmpty then none
  else
    let parts : NumberParts :=
      { whole, fraction, exponentNegative, exponent, rest }
    if negative || parts.fits then return (.numeral "float", rest) else none

/-- Whether a whole number goes on as a floating-point one. -/
def startsFloatTail (cs : List Char) : Bool :=
  match cs with
  | c :: _ => c = '.' || c = 'e' || c = 'E'
  | [] => false

/-- Any number. -/
def readNumber (cs : List Char) : Option (Json × List Char) :=
  match cs with
  | '0' :: 'x' :: rest =>
    readInBase 16 (fun c => (Text.hexValue? c).isSome) rest
  | '0' :: 'o' :: rest => readInBase 8 (fun c => '0' ≤ c && c ≤ '7') rest
  | '0' :: 'b' :: rest => readInBase 2 (fun c => c = '0' || c = '1') rest
  | _ =>
    let (negative, rest) := readSign cs
    match rest with
    | 'i' :: 'n' :: 'f' :: rest => some (.numeral "float", rest)
    | 'n' :: 'a' :: 'n' :: rest => some (.numeral "float", rest)
    | _ => do
      let (whole, tail) ← readWhole rest
      if startsFloatTail tail then readFloatTail negative whole tail
      else readInteger cs

/-! ## Quoted text in TOML

Texts in double quotes, where a backslash escapes, and in single quotes, where
nothing does.  Either kind has a form with three quotes that runs over lines;
its first line end is dropped, and line ends count as plain ones. -/

def isSpace (c : Char) : Bool :=
  c = ' ' || c = '\t'

/-- A character that may stand in a text or a comment as it is. -/
def isPrintable (c : Char) : Bool :=
  c = '\t' || (0x20 ≤ c.toNat && c.toNat ≠ 0x7F)

/-- What follows a line end. -/
def newLine? : List Char → Option (List Char)
  | '\n' :: rest => some rest
  | '\r' :: '\n' :: rest => some rest
  | _ => none

/-- Drops spaces and line ends. -/
def skipBlankLines : List Char → List Char
  | ' ' :: rest => skipBlankLines rest
  | '\t' :: rest => skipBlankLines rest
  | '\n' :: rest => skipBlankLines rest
  | '\r' :: '\n' :: rest => skipBlankLines rest
  | rest => rest

/-- The character with the code point written in the given number of hexadecimal
digits. -/
def readCodePoint : (count value : Nat) → List Char → Option (Char × List Char)
  | 0, value, rest =>
    if value.isValidChar then some (Char.ofNat value, rest) else none
  | count + 1, value, c :: rest =>
    do readCodePoint count (value * 16 + (← hexValue? c)) rest
  | _, _, [] => none

/-- The character that an escape stands for, read after its backslash. -/
def readEscape : List Char → Option (Char × List Char)
  | 'b' :: rest => some ('\x08', rest)
  | 't' :: rest => some ('\t', rest)
  | 'n' :: rest => some ('\n', rest)
  | 'f' :: rest => some ('\x0c', rest)
  | 'r' :: rest => some ('\r', rest)
  | '"' :: rest => some ('"', rest)
  | '\\' :: rest => some ('\\', rest)
  | 'u' :: rest => readCodePoint 4 0 rest
  | 'U' :: rest => readCodePoint 8 0 rest
  | _ => none

/-- The text up to the closing double quote; `fuel` bounds its length. -/
def readBasic : (fuel : Nat) → (read : List Char) → List Char → Option
    (List Char × List Char)
  | 0, _, _ => none
  | fuel + 1, read, cs =>
    match cs with
    | '"' :: rest => some (read.reverse, rest)
    | '\\' :: rest => do
      let (c, rest) ← readEscape rest
      readBasic fuel (c :: read) rest
    | c :: rest =>
      if isPrintable c then readBasic fuel (c :: read) rest else none
    | [] => none

/-- The text up to the closing single quote. -/
def readLiteral (cs : List Char) : Option (List Char × List Char) :=
  let text := cs.takeWhile fun c => isPrintable c && c ≠ '\x27'
  match cs.drop text.length with
  | '\x27' :: rest => some (text, rest)
  | _ => none

/-- How many of the same quote stand at the start, five at most: of these the
last three close a text and those before belong to it. -/
def quotesAt (quote : Char) (cs : List Char) : Nat :=
  ((cs.take 5).takeWhile (· = quote)).length

/-- The text up to three closing quotes.  In single quotes a backslash means
itself. -/
def readLines (quote : Char) : (fuel : Nat) → (read : List Char) → List Char →
    Option (List Char × List Char)
  | 0, _, _ => none
  | fuel + 1, read, cs =>
    let quotes := quotesAt quote cs
    if 3 ≤ quotes then
      some (read.reverse ++ List.replicate (quotes - 3) quote, cs.drop quotes)
    else match newLine? cs with
      | some rest => readLines quote fuel ('\n' :: read) rest
      | none =>
        match cs with
        | c :: rest =>
          if c = '\\' && quote = '"' then
            match newLine? (rest.dropWhile isSpace) with
            | some rest => readLines quote fuel read (skipBlankLines rest)
            | none => do
              let (c, rest) ← readEscape rest
              readLines quote fuel (c :: read) rest
          else if isPrintable c then readLines quote fuel (c :: read) rest
          else none
        | [] => none

/-- A text over several lines, read after its opening quotes. -/
def readBlock (quote : Char) (cs : List Char) : Option
    (List Char × List Char) :=
  readLines quote (cs.length + 1) [] ((newLine? cs).getD cs)

/-- Any text in quotes. -/
def readQuoted (cs : List Char) : Option (List Char × List Char) :=
  match cs with
  | '"' :: '"' :: '"' :: rest => readBlock '"' rest
  | '\x27' :: '\x27' :: '\x27' :: rest => readBlock '\x27' rest
  | '"' :: rest => readBasic (rest.length + 1) [] rest
  | '\x27' :: rest => readLiteral rest
  | _ => none

end FamilyOrders.Toml
