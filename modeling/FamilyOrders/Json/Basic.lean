import FamilyOrders.Document.Basic

/-!
# JSON

Values of JSON, records and coded values in them, and their text.
-/

namespace FamilyOrders

/-! ## JSON values

A value as it stands in a JSON text.  The members of an object keep their order
and may repeat a name, since what a repeated name means is for the reader of the
object to say. -/

inductive Json
  | null
  | bool (value : Bool)
  /-- A number written with digits alone. -/
  | natural (value : Nat)
  /-- A number with a sign, a fraction or an exponent, as it is written. -/
  | numeral (literal : String)
  | string (value : String)
  | array (items : List Json)
  | object (members : List (String × Json))
  /-- A well-formed scalar that denotes nothing: a text with half a surrogate
  pair, or a number beyond every double.  It can be skipped but not used; an
  object with such a name is one too. -/
  | unusable
  deriving Inhabited

namespace Json

mutual

/-- How deep arrays and objects are nested. -/
def depth : Json → Nat
  | .array items => itemsDepth items + 1
  | .object members => membersDepth members + 1
  | _ => 0

def itemsDepth : List Json → Nat
  | [] => 0
  | item :: items => max item.depth (itemsDepth items)

def membersDepth : List (String × Json) → Nat
  | [] => 0
  | (_, value) :: members => max value.depth (membersDepth members)

end

mutual

def isUsable : Json → Bool
  | .unusable => false
  | .array items => itemsUsable items
  | .object members => membersUsable members
  | _ => true

def itemsUsable : List Json → Bool
  | [] => true
  | item :: items => item.isUsable && itemsUsable items

def membersUsable : List (String × Json) → Bool
  | [] => true
  | (_, value) :: members => value.isUsable && membersUsable members

end

def ofString? : Option String → Json
  | some s => .string s
  | none => .null

end Json

end FamilyOrders

namespace FamilyOrders.Json

/-! ## Records in JSON

How a record with named fields is found in a value, and the values of single
fields.  An object gives fields by name: in any order, with others beside them,
but none of them twice.  An array gives them by position, and may leave out the
last ones. -/

/-- The value of the first member with the name. -/
def lookup? (name : String) (members : List (String × Json)) : Option Json :=
  (members.find? fun member => member.1 == name).map (·.2)

/-- Whether no two members have the name. -/
def isUnique (members : List (String × Json)) (name : String) : Bool :=
  (members.filter fun member => member.1 == name).length ≤ 1

/-- The fields of an object by name, unless one of those asked for is given
twice. -/
def named? (names : List String) : Json → Option (String → Option Json)
  | .object members =>
    if names.all (isUnique members) then some fun name => lookup? name members
    else none
  | _ => none

/-- The fields that the items of an array stand for, in the order of the names.
-/
def listed (names : List String) (items : List Json) : String → Option Json :=
  fun name => lookup? name (names.zip items)

/-- The fields of an object, or of an array that lists them in the order of the
names. -/
def fields? (names : List String) : Json → Option (String → Option Json)
  | .array items =>
    if items.length ≤ names.length then some (listed names items) else none
  | value => named? names value

/-- The named fields of an object and, as an object of their own, all its other
members, kept aside for a second record. -/
def divided? (names : List String) : Json → Option
    ((String → Option Json) × Json)
  | .object members =>
    if names.all (isUnique members) then
      some (fun name => lookup? name members,
        .object (members.filter fun member => !names.contains member.1))
    else none
  | _ => none

/-- How the name of an enumeration's value may be wrapped: in an object that
gives it nothing but `null`, or also one that gives it an empty object. -/
inductive Wrapping
  | nullOnly
  | nullOrEmpty

def string? : Json → Option String
  | .string s => some s
  | _ => none

def name? (wrapping : Wrapping) : Json → Option String
  | .string s => some s
  | .object [(name, .null)] => some name
  | .object [(name, .object [])] =>
    match wrapping with
    | .nullOnly => none
    | .nullOrEmpty => some name
  | _ => none

/-- A natural number below the bound. -/
def natBelow? (bound : Nat) : Json → Option (Fin bound)
  | .natural n => if h : n < bound then some ⟨n, h⟩ else none
  | _ => none

/-- The values that a reader finds in the items of an array. -/
def list? (read : Json → Option α) : Json → Option (List α)
  | .array items => items.mapM read
  | _ => none

/-- A field that may be absent or `null`. -/
def optional (read : Json → Option α) : Option Json → Option (Option α)
  | none => some none
  | some .null => some none
  | some value => (read value).map some

/-- A field that has a default when it is absent. -/
def withDefault (fallback : α) (read : Json → Option α) : Option Json → Option α
  | none => some fallback
  | some value => read value

def required (read : Json → Option α) : Option Json → Option α
  | none => none
  | some value => read value

/-! ## Coded values in JSON

A coded value is a text, or an object with the code as its only name. -/

def coded? [Coded α] (wrapping : Wrapping) (value : Json) : Option α :=
  (name? wrapping value).bind Coded.ofCode?

def ofCoded [Coded α] (a : α) : Json :=
  .string (Coded.code a)

/-- The value that a writer makes, or `null`. -/
def ofOption (write : α → Json) : Option α → Json
  | some a => write a
  | none => .null

/-! ## Writing JSON

A value as text, on one line or spread over lines with an indentation of two. -/

def hexLower (n : Nat) : Char :=
  "0123456789abcdef".toList.getD n '0'

def escapeChar (c : Char) : List Char :=
  if c = '"' then ['\\', '"']
  else if c = '\\' then ['\\', '\\']
  else if c = '\n' then ['\\', 'n']
  else if c = '\r' then ['\\', 'r']
  else if c = '\t' then ['\\', 't']
  else if c = '\x08' then ['\\', 'b']
  else if c = '\x0c' then ['\\', 'f']
  else if c.toNat < 0x20 then
    ['\\', 'u', '0', '0', hexLower (c.toNat / 16), hexLower (c.toNat % 16)]
  else [c]

def quote (s : String) : List Char :=
  '"' :: s.toList.flatMap escapeChar ++ ['"']

/-- The text of a value without parts. -/
def scalarChars : Json → List Char
  | .bool true => "true".toList
  | .bool false => "false".toList
  | .natural n => Nat.toDigits 10 n
  | .numeral literal => literal.toList
  | .string s => quote s
  | _ => "null".toList

mutual

def compactChars : Json → List Char
  | .array items => '[' :: compactItems items ++ [']']
  | .object members => '\x7b' :: compactMembers members ++ ['\x7d']
  | value => scalarChars value

def compactItems : List Json → List Char
  | [] => []
  | [item] => item.compactChars
  | item :: items => item.compactChars ++ ',' :: compactItems items

def compactMembers : List (String × Json) → List Char
  | [] => []
  | [(name, value)] => quote name ++ ':' :: value.compactChars
  | (name, value) :: members =>
    quote name ++ ':' :: value.compactChars ++ ',' :: compactMembers members

end

def compact (value : Json) : String :=
  String.ofList value.compactChars

def newLine (level : Nat) : List Char :=
  '\n' :: List.replicate (2 * level) ' '

mutual

/-- The text of a value whose closing bracket stands at the given level. -/
def prettyChars (level : Nat) : Json → List Char
  | .array [] => ['[', ']']
  | .array items =>
    '[' :: prettyItems (level + 1) items ++ newLine level ++ [']']
  | .object [] => ['\x7b', '\x7d']
  | .object members =>
    '\x7b' :: prettyMembers (level + 1) members ++ newLine level ++ ['\x7d']
  | value => scalarChars value

def prettyItems (level : Nat) : List Json → List Char
  | [] => []
  | [item] => newLine level ++ item.prettyChars level
  | item :: items =>
    newLine level ++ item.prettyChars level ++ ',' :: prettyItems level items

def prettyMembers (level : Nat) : List (String × Json) → List Char
  | [] => []
  | [(name, value)] =>
    newLine level ++ quote name ++ ':' :: ' ' :: value.prettyChars level
  | (name, value) :: members =>
    newLine level ++ quote name ++ ':' :: ' ' :: value.prettyChars level ++
      ',' :: prettyMembers level members

end

def pretty (value : Json) : String :=
  String.ofList (value.prettyChars 0)

end FamilyOrders.Json
