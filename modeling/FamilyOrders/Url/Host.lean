import FamilyOrders.Text.Characters
import FamilyOrders.Text.Encoding
import FamilyOrders.Url.Basic

/-!
# Hosts of URLs

Reading the host of a URL, whose name may be written in Punycode.
-/

namespace FamilyOrders.Url.Punycode

/-! ## Punycode

A label of any characters written with letters, digits and hyphens: first its
ASCII characters, then the others as a row of generalised integers that say how
far to move on and insert. -/

def digitChar (d : Nat) : Char :=
  if d < 26 then Char.ofNat (0x61 + d) else Char.ofNat (0x30 + (d - 26))

def digitValue? (c : Char) : Option Nat :=
  let n := c.toNat
  if 0x61 ≤ n ∧ n ≤ 0x7A then some (n - 0x61)
  else if 0x41 ≤ n ∧ n ≤ 0x5A then some (n - 0x41)
  else if 0x30 ≤ n ∧ n ≤ 0x39 then some (n - 0x30 + 26)
  else none

/-- The threshold of the digit that stands for the weight `k`. -/
def threshold (k bias : Nat) : Nat :=
  if k ≤ bias then 1 else if bias + 26 ≤ k then 26 else k - bias

def dampen (delta k : Nat) : Nat :=
  if 455 < delta then dampen (delta / 35) (k + 36)
  else k + 36 * delta / (delta + 38)
termination_by delta
decreasing_by exact Nat.div_lt_self (by omega) (by decide)

def adapt (delta points : Nat) (first : Bool) : Nat :=
  let delta := if first then delta / 700 else delta / 2
  dampen (delta + delta / points) 0

/-- The digits of one integer; `fuel` bounds their number. -/
def writeInteger (bias : Nat) : (fuel k q : Nat) → List Char
  | 0, _, _ => []
  | fuel + 1, k, q =>
    let t := threshold k bias
    if q < t then [digitChar q]
    else digitChar (t + (q - t) % (36 - t)) :: writeInteger bias fuel (k + 36)
      ((q - t) / (36 - t))

structure Progress where
  out : List Char
  delta : Nat
  bias : Nat
  handled : Nat

/-- One character of the label while those equal to `n` are written. -/
def step (ascii n : Nat) (p : Progress) (c : Char) : Progress :=
  if c.toNat < n then { p with delta := p.delta + 1 }
  else if c.toNat = n then
    { out := p.out ++ writeInteger p.bias (p.delta + 1) 36 p.delta
      delta := 0
      bias := adapt p.delta (p.handled + 1) (p.handled = ascii)
      handled := p.handled + 1 }
  else p

/-- The code points above ASCII in the label, each once, in rising order. -/
def pointsOf (label : List Char) : List Nat :=
  ((label.map Char.toNat).filter (0x80 ≤ ·)).mergeSort.eraseDups

def encode (label : List Char) : List Char :=
  let ascii := label.filter (·.toNat < 0x80)
  let init : Progress :=
    ⟨if ascii.isEmpty then [] else ascii ++ ['-'], 0, 72, ascii.length⟩
  let run := (pointsOf label).foldl
    (fun (state : Progress × Nat) n =>
      let p := { state.1 with
        delta := state.1.delta + (n - state.2) * (state.1.handled + 1) }
      let p := label.foldl (step ascii.length n) p
      ({ p with delta := p.delta + 1 }, n + 1))
    (init, 0x80)
  run.1.out

/-- One integer at the start of the digits, added to `i`, and the digits after
it. -/
def readInteger (bias : Nat) : (cs : List Char) → (i w k : Nat) → Option
    (Nat × List Char)
  | [], _, _, _ => none
  | c :: cs, i, w, k => do
    let d ← digitValue? c
    let i := i + d * w
    let t := threshold k bias
    if d < t then some (i, cs)
    else readInteger bias cs i (w * (36 - t)) (k + 36)

/-- Inserts the characters that the digits name; `fuel` bounds their number. -/
def insertAll : (fuel : Nat) → (cs out : List Char) → (n i bias : Nat) → Option
    (List Char)
  | 0, _, _, _, _, _ => none
  | fuel + 1, cs, out, n, i, bias =>
    if cs.isEmpty then some out
    else do
      let (next, rest) ← readInteger bias cs i 1 36
      let count := out.length + 1
      let n := n + next / count
      let place := next % count
      if n < 0x110000 ∧ ¬ (0xD800 ≤ n ∧ n ≤ 0xDFFF) then
        insertAll fuel rest (out.insertIdx place (Char.ofNat n)) n (place + 1)
          (adapt (next - i) count (i = 0))
      else none

/-- The label that the text spells, if it is well formed. -/
def decode? (cs : List Char) : Option (List Char) :=
  let tail := (cs.reverse.takeWhile (· ≠ '-')).reverse
  let head := (cs.take (cs.length - tail.length)).dropLast
  if head.all (·.toNat < 0x80) then insertAll (tail.length +
    1) tail head 0x80 0 72 else none

end FamilyOrders.Url.Punycode

namespace FamilyOrders.Url

open FamilyOrders.Text

/-! ## Hosts

Reading the host of a URL: an IPv6 address in brackets, a domain name, or an
IPv4 address, which is any name whose last label is a number.  Domain names are
percent-decoded and written in ASCII, by rules that may be those for the names
of any script. -/

def splitAt (sep : Char) : List Char → List (List Char)
  | [] => [[]]
  | c :: cs =>
    if c = sep then [] :: splitAt sep cs
    else match splitAt sep cs with
      | label :: labels => (c :: label) :: labels
      | [] => [[c]]

/-- The characters a domain name may not hold. -/
def isForbiddenInDomain (c : Char) : Bool :=
  c.toNat ≤ 0x20 || (0x7F ≤ c.toNat && c.toNat ≤ 0x9F) ||
    "#/:<>?@[\\]^|%".toList.contains c

/-- How the bytes of a domain name are written in ASCII; nothing for a name
that is refused. -/
abbrev DomainRules := Bytes → Option (List Char)

/-! ### Simple rules for domain names

Rules for names that need no more than lower case and Punycode. -/

/-- The form of a character in a domain name: full-width ASCII becomes ASCII,
letters become lower case, and characters without meaning vanish. -/
def foldDomainChar (c : Char) : List Char :=
  let n := c.toNat
  if c ∈ ['\u3002', '\uff0e', '\uff61'] then ['.']
  else if c ∈ ['\u00ad', '\u034f', '\u200b', '\u2060', '\u2064',
    '\ufeff'] then []
  else if 0xFE00 ≤ n ∧ n ≤ 0xFE0F then []
  else if 0xFF01 ≤ n ∧ n ≤ 0xFF5E then lowercase (Char.ofNat (n - 0xFEE0))
  else lowercase c

/-- Whether a label of a domain name is in its final form and not plain ASCII.
-/
def isFolded (label : List Char) : Bool :=
  label.flatMap foldDomainChar = label && !label.any isForbiddenInDomain &&
    !label.all (·.toNat < 0x80)

/-- A label in ASCII; a label that claims to be Punycode has to be so. -/
def asciiLabel? (label : List Char) : Option (List Char) :=
  if label.all (·.toNat < 0x80) then
    if label.take 4 = ['x', 'n', '-', '-'] then
      (Punycode.decode? (label.drop 4)).bind fun decoded =>
        if isFolded decoded then some label else none
    else some label
  else some (['x', 'n', '-', '-'] ++ Punycode.encode label)

def simpleDomains : DomainRules := fun bytes => do
  let name ← ofUtf8? bytes
  let folded := name.toList.flatMap foldDomainChar
  if folded.any fun c =>
    isForbiddenInDomain c || isBlank c || c.toNat = 0xFFFD then none
  else
    let labels ← (splitAt '.' folded).mapM asciiLabel?
    return ['.'].intercalate labels

/-! ### Addresses -/

/-- A number in decimal, octal or hexadecimal digits. -/
def ipv4Number? (cs : List Char) : Option Nat :=
  let inBase (base : Nat) (ds : List Char) : Option Nat :=
    ds.foldlM (fun n c => (hexValue? c).bind fun d =>
      if d < base then some (n * base + d) else none)
      0
  match cs with
  | [] => none
  | '0' :: 'x' :: ds => inBase 16 ds
  | '0' :: 'X' :: ds => inBase 16 ds
  | '0' :: d :: ds => inBase 8 (d :: ds)
  | ds => inBase 10 ds

/-- The labels of a name without the empty one after a last dot. -/
def properLabels (cs : List Char) : List (List Char) :=
  let labels := splitAt '.' cs
  if 1 < labels.length ∧ labels.getLast? = some [] then labels.dropLast
  else labels

def endsInNumber (cs : List Char) : Bool :=
  match (properLabels cs).getLast? with
  | some label =>
    (!label.isEmpty && label.all Char.isDigit) || (ipv4Number? label).isSome
  | none => false

/-- The address that up to four numbers make up; the last one fills all
remaining bytes. -/
def ipv4? (cs : List Char) : Option Nat := do
  let numbers ← (properLabels cs).mapM ipv4Number?
  let last ← numbers.getLast?
  let heads := numbers.dropLast
  if heads.length ≤ 3 ∧ heads.all (· ≤ 255) ∧
    last < Nat.pow 256 (4 - heads.length) then
    return heads.foldl (fun n head => n * 256 + head) 0 *
      Nat.pow 256 (4 - heads.length) + last
  else none

/-- A piece of an IPv6 address: one to four hexadecimal digits. -/
def ipv6Piece? (cs : List Char) : Option Nat :=
  if 1 ≤ cs.length ∧ cs.length ≤ 4 then
    cs.foldlM (fun n c => (hexValue? c).map (n * 16 + ·)) 0
  else none

/-- The two pieces that a dotted address at the end of an IPv6 address stands
for. -/
def dottedPieces? (cs : List Char) : Option (List Nat) := do
  let parts ← (splitAt '.' cs).mapM fun ds =>
    if ds.isEmpty || !ds.all Char.isDigit ||
      (ds.length > 1 && ds.head? = some '0') then none
    else
      let n := Nat.ofDigitChars 10 ds 0
      if n ≤ 255 then some n else none
  match parts with
  | [a, b, c, d] => return [a * 256 + b, c * 256 + d]
  | _ => none

/-- The pieces on one side of the double colon. -/
def pieces? (dotted : Bool) (cs : List Char) : Option (List Nat) :=
  if cs.isEmpty then some []
  else
    let texts := splitAt ':' cs
    match texts.getLast? with
    | some last =>
      if dotted && last.contains '.' then do
        let heads ← texts.dropLast.mapM ipv6Piece?
        return heads ++ (← dottedPieces? last)
      else texts.mapM ipv6Piece?
    | none => none

/-- What stands before and after the first double colon. -/
def splitDoubleColon : List Char → Option (List Char × List Char)
  | ':' :: ':' :: rest => some ([], rest)
  | c :: rest =>
    (splitDoubleColon rest).map fun (left, right) => (c :: left, right)
  | [] => none

def ipv6? (cs : List Char) : Option (List Nat) := do
  match splitDoubleColon cs with
  | some (left, right) =>
    let left ← pieces? false left
    let right ← pieces? true right
    if left.length + right.length ≤ 7 then
      return left ++ List.replicate (8 - left.length - right.length) 0 ++ right
    else none
  | none =>
    let pieces ← pieces? true cs
    if pieces.length = 8 then return pieces else none

def bracketed? : List Char → Option (List Char)
  | '[' :: rest => if rest.getLast? = some ']' then some rest.dropLast else none
  | _ => none

def readIpv6 (cs : List Char) : Except ParseError Host :=
  match (bracketed? cs).bind ipv6? with
  | some pieces => .ok (.ipv6 pieces)
  | none => .error .invalidIpv6Address

/-- The host of a web or file URL. -/
def Host.read (domains : DomainRules) (cs : List Char) :
    Except ParseError Host :=
  if cs.head? = some '[' then readIpv6 cs
  else match domains (percentDecode cs) with
    | none => .error .invalidDomainName
    | some [] => .error .emptyHost
    | some name =>
      if endsInNumber name then
        match ipv4? name with
        | some address => .ok (.ipv4 address)
        | none => .error .invalidIpv4Address
      else .ok (.domain name)

/-- The host of a URL of any other scheme, which is kept as it is written. -/
def Host.readAny (cs : List Char) : Except ParseError Host :=
  if cs.head? = some '[' then readIpv6 cs
  else if cs.any fun c => "\x00\t\n\r #/:<>?@[\\]^|".toList.contains c then
    .error .invalidDomainCharacter
  else .ok (.domain (percentEncode [] (utf8 (String.ofList cs))))

end FamilyOrders.Url
