import FamilyOrders.Json.Basic
import FamilyOrders.Text.Encoding

/-!
# Reading JSON

The strict grammar: no comments, no trailing commas, no leading zeros, no raw
control characters in texts.  Arrays and objects nested deeper than the limit
are read here; whether they are acceptable is decided by whoever uses them.
-/

namespace FamilyOrders.Json

open FamilyOrders.Text

def isSpace (c : Char) : Bool :=
  c = ' ' || c = '\n' || c = '\t' || c = '\r'

def skipSpace (cs : List Char) : List Char :=
  cs.dropWhile isSpace

/-- Four hexadecimal digits. -/
def readUnit : List Char → Option (Nat × List Char)
  | a :: b :: c :: d :: rest => do
    let n :=
      (((← hexValue? a) * 16 + (← hexValue? b)) * 16 + (← hexValue? c)) * 16 +
      (← hexValue? d)
    return (n, rest)
  | _ => none

def shortEscape? : Char → Option Char
  | '"' => some '"'
  | '\\' => some '\\'
  | '/' => some '/'
  | 'b' => some '\x08'
  | 'f' => some '\x0c'
  | 'n' => some '\n'
  | 'r' => some '\r'
  | 't' => some '\t'
  | _ => none

/-- The character that one or two units name, and what follows; `none` for half
a pair. -/
def readCodePoint (unit : Nat) (rest : List Char) : Option Char × List Char :=
  if unit < 0xD800 ∨ 0xDFFF < unit then (some (Char.ofNat unit), rest)
  else if 0xDC00 ≤ unit then (none, rest)
  else match rest with
    | '\\' :: 'u' :: more =>
      match readUnit more with
      | some (low, after) =>
        if 0xDC00 ≤ low ∧ low ≤ 0xDFFF then
          (some
            (Char.ofNat (0x10000 + (unit - 0xD800) * 0x400 + (low - 0xDC00))),
            after)
        else (none, rest)
      | none => (none, rest)
    | _ => (none, rest)

/-- The characters up to the closing quote, the last one first in `read`, with
`none` for one that does not exist; `fuel` bounds their number. -/
def readText : (fuel : Nat) → (read : List (Option Char)) → List Char →
    Option (List (Option Char) × List Char)
  | 0, _, _ => none
  | fuel + 1, read, cs =>
    match cs with
    | '"' :: rest => some (read.reverse, rest)
    | '\\' :: 'u' :: rest => do
      let (unit, rest) ← readUnit rest
      let (c, rest) := readCodePoint unit rest
      readText fuel (c :: read) rest
    | '\\' :: mark :: rest => do
      let c ← shortEscape? mark
      readText fuel (some c :: read) rest
    | c :: rest =>
      if c.toNat < 0x20 || c = '\\' then none
      else readText fuel (some c :: read) rest
    | [] => none

/-- The text after an opening quote: `none` inside when it denotes no text. -/
def readString (cs : List Char) : Option (Option String × List Char) :=
  (readText (cs.length + 1) [] cs).map fun (read, rest) =>
    ((read.mapM id).map String.ofList, rest)

def readDigitRun (cs : List Char) : Option (List Char × List Char) :=
  let run := cs.takeWhile Char.isDigit
  if run.isEmpty then none else some (run, cs.drop run.length)

/-- The least natural number that is no double. -/
def doubleLimit : Nat := Nat.pow 2 1024 - Nat.pow 2 970

/-- Whether `significand * 10 ^ exponent` is small enough to be a double. -/
def fitsDouble (significand : Nat) (exponent : Int) : Bool :=
  if significand = 0 || exponent ≤ 0 && significand < doubleLimit then true
  else if 400 < exponent then false
  else significand * Nat.pow 10 exponent.toNat < doubleLimit *
    Nat.pow 10 (-exponent).toNat

structure NumberParts where
  whole : List Char
  fraction : List Char
  exponentNegative : Bool
  exponent : List Char
  rest : List Char

def readFractionPart (cs : List Char) : Option (List Char × List Char) :=
  match cs with
  | '.' :: rest => readDigitRun rest
  | _ => some ([], cs)

def readExponentPart (cs : List Char) : Option (Bool × List Char × List Char) :=
  match cs with
  | c :: rest =>
    if c = 'e' || c = 'E' then
      match rest with
      | '-' :: rest =>
        (readDigitRun rest).map fun (run, rest) => (true, run, rest)
      | '+' :: rest =>
        (readDigitRun rest).map fun (run, rest) => (false, run, rest)
      | rest => (readDigitRun rest).map fun (run, rest) => (false, run, rest)
    else some (false, [], cs)
  | [] => some (false, [], cs)

/-- A number without its sign. -/
def readNumberParts (cs : List Char) : Option NumberParts := do
  let (whole, rest) ← readDigitRun cs
  if 1 < whole.length ∧ whole.head? = some '0' then none
  else
    let (fraction, rest) ← readFractionPart rest
    let (negative, exponent, rest) ← readExponentPart rest
    return ⟨whole, fraction, negative, exponent, rest⟩

def NumberParts.fits (parts : NumberParts) : Bool :=
  let exponent : Int := Nat.ofDigitChars 10 parts.exponent 0
  fitsDouble (Nat.ofDigitChars 10 (parts.whole ++ parts.fraction) 0)
    ((if parts.exponentNegative then -exponent else
      exponent) - parts.fraction.length)

def readNumber (cs : List Char) : Option (Json × List Char) := do
  let negative := cs.head? = some '-'
  let parts ← readNumberParts (if negative then cs.drop 1 else cs)
  let literal := cs.take (cs.length - parts.rest.length)
  let value :=
    if !parts.fits then .unusable
    else if literal.all Char.isDigit then .natural
      (Nat.ofDigitChars 10 literal 0)
    else .numeral (String.ofList literal)
  return (value, parts.rest)

def expect (word : List Char) (cs : List Char) : Option (List Char) :=
  if cs.take word.length = word then some (cs.drop word.length) else none

def objectOf (members : List (Option String × Json)) : Json :=
  match members.mapM fun (name, value) => name.map fun name =>
    (name, value) with
  | some members => .object members
  | none => .unusable

mutual

/-- A value after spaces; `fuel` bounds the length of the text. -/
def readValue : (fuel : Nat) → List Char → Option (Json × List Char)
  | 0, _ => none
  | fuel + 1, cs =>
    match skipSpace cs with
    | 'n' :: rest => (expect "ull".toList rest).map fun rest => (.null, rest)
    | 't' :: rest =>
      (expect "rue".toList rest).map fun rest => (.bool true, rest)
    | 'f' :: rest =>
      (expect "alse".toList rest).map fun rest => (.bool false, rest)
    | '"' :: rest =>
      (readString rest).map fun (s, rest) =>
      ((s.map Json.string).getD .unusable, rest)
    | '[' :: rest =>
      match skipSpace rest with
      | ']' :: rest => some (.array [], rest)
      | rest =>
        (readItems fuel rest).map fun (items, rest) => (.array items, rest)
    | '\x7b' :: rest =>
      match skipSpace rest with
      | '\x7d' :: rest => some (.object [], rest)
      | rest =>
        (readMembers fuel rest).map fun (members, rest) =>
        (objectOf members, rest)
    | rest => readNumber rest

/-- The items up to the closing bracket. -/
def readItems : (fuel : Nat) → List Char → Option (List Json × List Char)
  | 0, _ => none
  | fuel + 1, cs => do
    let (item, rest) ← readValue fuel cs
    match skipSpace rest with
    | ',' :: rest =>
      let (items, rest) ← readItems fuel rest
      return (item :: items, rest)
    | ']' :: rest => return ([item], rest)
    | _ => none

/-- The members up to the closing brace. -/
def readMembers : (fuel : Nat) → List Char → Option
    (List (Option String × Json) × List Char)
  | 0, _ => none
  | fuel + 1, cs =>
    match skipSpace cs with
    | '"' :: rest => do
      let (name, rest) ← readString rest
      let rest ← expect [':'] (skipSpace rest)
      let (value, rest) ← readValue fuel rest
      match skipSpace rest with
      | ',' :: rest =>
        let (members, rest) ← readMembers fuel rest
        return ((name, value) :: members, rest)
      | '\x7d' :: rest => return ([(name, value)], rest)
      | _ => none
    | _ => none

end

/-- The value that a whole text denotes. -/
def parse? (s : String) : Option Json :=
  match readValue (s.length + 1) s.toList with
  | some (value, rest) => if (skipSpace rest).isEmpty then some value else none
  | none => none

end FamilyOrders.Json
