/-!
# Encodings of text and bytes

Text as bytes in UTF-8, and bytes as text with escapes or in Base64.
-/

namespace FamilyOrders

/-! ## UTF-8

Text as bytes and bytes as text.  Reading cuts the bytes into well-formed
characters and maximal ill-formed pieces; strict reading refuses the latter,
lenient reading puts the replacement character for each of them. -/

/-- The content of a file or of a message. -/
abbrev Bytes := List UInt8

namespace Text

def utf8 (s : String) : Bytes :=
  s.toList.flatMap String.utf8EncodeChar

def isContinuation (b : UInt8) : Bool :=
  0x80 ≤ b && b ≤ 0xBF

/-- How many bytes follow a leading byte, and the bounds of the first of them.
-/
def following (lead : UInt8) : Option (Nat × UInt8 × UInt8) :=
  if 0xC2 ≤ lead && lead ≤ 0xDF then some (1, 0x80, 0xBF)
  else if lead = 0xE0 then some (2, 0xA0, 0xBF)
  else if lead = 0xED then some (2, 0x80, 0x9F)
  else if 0xE1 ≤ lead && lead ≤ 0xEF then some (2, 0x80, 0xBF)
  else if lead = 0xF0 then some (3, 0x90, 0xBF)
  else if 0xF1 ≤ lead && lead ≤ 0xF3 then some (3, 0x80, 0xBF)
  else if lead = 0xF4 then some (3, 0x80, 0x8F)
  else none

/-- The bits that a leading byte with `count` followers contributes. -/
def leadBits (lead : UInt8) (count : Nat) : Nat :=
  lead.toNat % Nat.pow 2 (6 - count)

/-- The bytes at the start that belong to the character begun by `lead`. -/
def tailOf (lead : UInt8) (rest : Bytes) : Bytes :=
  match following lead, rest with
  | some (count, low, high), b :: more =>
    if low ≤ b && b ≤ high then b :: (more.take
      (count - 1)).takeWhile isContinuation else []
  | _, _ => []

/-- The character made of a leading byte and its tail, if the tail is complete.
-/
def assemble (lead : UInt8) (tail : Bytes) : Option Char :=
  if lead < 0x80 then some (Char.ofNat lead.toNat)
  else match following lead with
    | some (count, _) =>
      if tail.length = count then
        some (Char.ofNat (tail.foldl (fun n b => n * 64 + b.toNat % 64)
          (leadBits lead count)))
      else none
    | none => none

/-- The characters in the bytes, with `none` for each ill-formed piece. -/
def utf8Pieces : Bytes → List (Option Char)
  | [] => []
  | lead :: rest =>
    let tail := tailOf lead rest
    assemble lead tail :: utf8Pieces (rest.drop tail.length)
termination_by bytes => bytes.length
decreasing_by simp only [List.length_drop, List.length_cons]; omega

/-- The text that the bytes spell, if they are well formed. -/
def ofUtf8? (bytes : Bytes) : Option String :=
  ((utf8Pieces bytes).mapM id).map String.ofList

/-- The text that the bytes spell, with U+FFFD for every ill-formed piece. -/
def ofUtf8Lossy (bytes : Bytes) : String :=
  String.ofList ((utf8Pieces bytes).map (·.getD '\ufffd'))

end Text

end FamilyOrders

namespace FamilyOrders.Text

/-! ## Percent-encoding

Bytes written as ASCII text, some of them as `%` and two hexadecimal digits, and
such text read back.  Reading leaves a `%` that no two hexadecimal digits follow
as it is. -/

def hexDigit (n : Nat) : Char :=
  "0123456789ABCDEF".toList.getD n '0'

def hexValue? (c : Char) : Option Nat :=
  let n := c.toNat
  if 0x30 ≤ n ∧ n ≤ 0x39 then some (n - 0x30)
  else if 0x41 ≤ n ∧ n ≤ 0x46 then some (n - 0x41 + 10)
  else if 0x61 ≤ n ∧ n ≤ 0x66 then some (n - 0x61 + 10)
  else none

def asciiChar (b : UInt8) : Char :=
  Char.ofNat b.toNat

/-- One byte, written as itself when it is printable ASCII outside `escaped`. -/
def percentByte (escaped : List Char) (b : UInt8) : List Char :=
  if 0x20 ≤ b ∧ b < 0x7F ∧ asciiChar b ∉ escaped then [asciiChar b]
  else ['%', hexDigit (b.toNat / 16), hexDigit (b.toNat % 16)]

def percentEncode (escaped : List Char) (bytes : Bytes) : List Char :=
  bytes.flatMap (percentByte escaped)

/-- The bytes that an encoded text denotes. -/
def percentDecode : List Char → Bytes
  | [] => []
  | '%' :: high :: low :: rest =>
    match hexValue? high, hexValue? low with
    | some h, some l => UInt8.ofNat (h * 16 + l) :: percentDecode rest
    | _, _ => UInt8.ofNat '%'.toNat :: percentDecode (high :: low :: rest)
  | c :: rest => String.utf8EncodeChar c ++ percentDecode rest

/-! ## Base64

Bytes as text over sixty-four digits, three bytes in four digits, with `=`
filling up the last group; and the bytes read back. -/

def base64Digits : List Char :=
  "ABCDEFGHIJKLMNOPQRSTUVWXYZabcdefghijklmnopqrstuvwxyz0123456789+/".toList

def base64Digit (n : Nat) : Char :=
  base64Digits.getD (n % 64) '='

def base64Chars : Bytes → List Char
  | a :: b :: c :: rest =>
    let n := (a.toNat * 256 + b.toNat) * 256 + c.toNat
    base64Digit (n / 262144) :: base64Digit (n / 4096) ::
      base64Digit (n / 64) ::
      base64Digit n :: base64Chars rest
  | [a, b] =>
    let n := (a.toNat * 256 + b.toNat) * 4
    [base64Digit (n / 4096), base64Digit (n / 64), base64Digit n, '=']
  | [a] =>
    let n := a.toNat * 16
    [base64Digit (n / 64), base64Digit n, '=', '=']
  | [] => []

def base64 (bytes : Bytes) : String :=
  String.ofList (base64Chars bytes)

def base64Value? (c : Char) : Option Nat :=
  base64Digits.idxOf? c

/-- The bytes of a padded Base64 text. -/
def base64Bytes? : List Char → Option Bytes
  | [] => some []
  | [a, b, '=', '='] => do
    let n := (← base64Value? a) * 64 + (← base64Value? b)
    return [UInt8.ofNat (n / 16)]
  | [a, b, c, '='] => do
    let n :=
      ((← base64Value? a) * 64 + (← base64Value? b)) * 64 + (← base64Value? c)
    return [UInt8.ofNat (n / 1024), UInt8.ofNat (n / 4)]
  | a :: b :: c :: d :: rest => do
    let n :=
      (((← base64Value? a) * 64 + (← base64Value? b)) * 64 +
        (← base64Value? c)) * 64 +
      (← base64Value? d)
    let more ← base64Bytes? rest
    return UInt8.ofNat (n / 65536) :: UInt8.ofNat (n / 256) :: UInt8.ofNat n ::
      more
  | _ => none

end FamilyOrders.Text
