import FamilyOrders.Json.Basic
import FamilyOrders.Toml.Values

/-!
# Reading TOML

A TOML text as the table that it describes.
-/

namespace FamilyOrders.Toml

/-! ## Tables in TOML

A document is a table of keys that grows line by line.  Nothing is ever defined
twice: a header may complete a table that so far was only passed through on the
way to another one, and dotted keys may go on with a table that dotted keys
began. -/

mutual

inductive Item
  | value (value : Json)
  | table (table : Table)
  /-- An array of tables, of which the last is still open. -/
  | rows (earlier : List Table) (last : Table)

/-- `passedThrough` says that no header defined the table, `dotted` that dotted
keys began it. -/
inductive Table
  | mk (passedThrough dotted : Bool) (entries : List (String × Item))

end

namespace Table

def passedThrough : Table → Bool
  | .mk passedThrough _ _ => passedThrough

def dotted : Table → Bool
  | .mk _ dotted _ => dotted

def entries : Table → List (String × Item)
  | .mk _ _ entries => entries

/-- The whole document before its first line, or a table given by a header. -/
def empty : Table :=
  .mk false false []

def get? (table : Table) (key : String) : Option Item :=
  (table.entries.find? fun entry => entry.1 == key).map (·.2)

/-- Puts an item in place of any other under the key. -/
def put (table : Table) (key : String) (item : Item) : Table :=
  .mk table.passedThrough table.dotted
    (table.entries.filter (fun entry => entry.1 != key) ++ [(key, item)])

/-- Changes the table that a path leads to, and makes the tables on the way.  A
path of dotted keys stays outside of tables that have a header. -/
def atPath (viaDots : Bool) (change : Table → Option Table) :
    List String → Table → Option Table
  | [], table => change table
  | key :: path, table =>
    match table.get? key with
    | none => do
      let inner ← atPath viaDots change path (.mk true viaDots [])
      return table.put key (.table inner)
    | some (.table inner) =>
      if viaDots && !inner.passedThrough then none
      else do
        let inner ← atPath viaDots change path inner
        return table.put key (.table inner)
    | some (.rows earlier last) => do
      let last ← atPath viaDots change path last
      return table.put key (.rows earlier last)
    | some (.value _) => none

/-- Adds an item under a new key; `viaDots` says that the key stood behind
others and dots. -/
def addNew (viaDots : Bool) (key : String) (item : Item) (table : Table) :
    Option Table :=
  if table.dotted != viaDots || (table.get? key).isSome then none
  else some (table.put key item)

/-- Adds a value under a dotted key. -/
def define (keys : List String) (key : String) (value : Json) (table : Table) :
    Option Table :=
  atPath true (addNew (!keys.isEmpty) key (.value value)) keys table

/-- Gives a table its header. -/
def openTable (key : String) (table : Table) : Option Table :=
  match table.get? key with
  | none => some (table.put key (.table empty))
  | some (.table inner) =>
    if inner.passedThrough && !inner.dotted then
      some (table.put key (.table (.mk false false inner.entries)))
    else none
  | some _ => none

/-- Begins the next table of an array. -/
def openRow (key : String) (table : Table) : Option Table :=
  match table.get? key with
  | none => some (table.put key (.rows [] empty))
  | some (.rows earlier last) =>
    some (table.put key (.rows (earlier ++ [last]) empty))
  | some _ => none

end Table

mutual

def Item.toJson : Item → Json
  | .value value => value
  | .table table => table.toJson
  | .rows earlier last => .array (rowsJson earlier ++ [last.toJson])

def Table.toJson : Table → Json
  | .mk _ _ entries => .object (entriesJson entries)

def rowsJson : List Table → List Json
  | [] => []
  | table :: tables => table.toJson :: rowsJson tables

def entriesJson : List (String × Item) → List (String × Json)
  | [] => []
  | (key, item) :: entries => (key, item.toJson) :: entriesJson entries

end

/-! ## Reading TOML

A document as the JSON value of the same shape.  Numbers that are no integers
are only told apart from everything else, and a date or time is an object with
its text under a reserved name. -/

def skipSpaces (cs : List Char) : List Char :=
  cs.dropWhile isSpace

def isBareKeyChar (c : Char) : Bool :=
  c.isAlphanum || c = '_' || c = '-'

/-- A single key, in quotes or not. -/
def readSimpleKey (cs : List Char) : Option (String × List Char) :=
  match cs with
  | '"' :: rest =>
    (readBasic (rest.length + 1) [] rest).map fun (key, rest) =>
    (String.ofList key, rest)
  | '\x27' :: rest =>
    (readLiteral rest).map fun (key, rest) => (String.ofList key, rest)
  | _ =>
    let key := cs.takeWhile isBareKeyChar
    if key.isEmpty then none else some (String.ofList key, cs.drop key.length)

/-- How many keys can be joined by dots, and how deep values can be nested. -/
def deepest : Nat := 79

/-- Keys joined by dots; `fuel` bounds their number. -/
def readKeys : (fuel : Nat) → List Char → Option (List String × List Char)
  | 0, _ => none
  | fuel + 1, cs => do
    let (key, rest) ← readSimpleKey (skipSpaces cs)
    match skipSpaces rest with
    | '.' :: rest =>
      let (keys, rest) ← readKeys fuel rest
      return (key :: keys, rest)
    | rest => return ([key], rest)

/-- The keys before the last one, the last one, and what follows. -/
def readKeyPath (cs : List Char) : Option
    (List String × String × List Char) := do
  let (keys, rest) ← readKeys deepest cs
  return (keys.dropLast, ← keys.getLast?, rest)

/-- What follows a comment, at a line end or at the end of the text. -/
def readComment (cs : List Char) : Option (List Char) :=
  let rest := cs.dropWhile isPrintable
  if rest.isEmpty || (newLine? rest).isSome then some rest else none

/-- Skips spaces, comments and line ends; `fuel` bounds their number. -/
def skipTrivia : (fuel : Nat) → List Char → Option (List Char)
  | 0, _ => none
  | fuel + 1, cs =>
    match skipBlankLines cs with
    | '#' :: rest => (readComment rest).bind (skipTrivia fuel)
    | rest => some rest

def isNumberStart (c : Char) : Bool :=
  c.isDigit || c = '+' || c = '-'

/-- The name under which the text of a date or time stands. -/
def momentKey : String := "$__toml_private_datetime"

/-- A number, date or time. -/
def readPlain (cs : List Char) : Option (Json × List Char) :=
  match readMoment cs with
  | some (text, rest) =>
    some (.object [(momentKey, .string (String.ofList text))], rest)
  | none => readNumber cs

def readWord (word : String) (value : Json) (cs : List Char) : Option
    (Json × List Char) :=
  if cs.take word.length = word.toList then some (value, cs.drop word.length)
  else none

mutual

/-- A value; `fuel` bounds the length of its text and `levels` its nesting. -/
def readValue : (fuel levels : Nat) → List Char → Option (Json × List Char)
  | 0, _, _ => none
  | fuel + 1, levels, cs =>
    match cs with
    | '[' :: rest =>
      match levels with
      | 0 => none
      | levels + 1 =>
        (readItems fuel levels rest).map fun (items, rest) =>
        (.array items, rest)
    | '\x7b' :: rest =>
      match levels with
      | 0 => none
      | levels + 1 =>
        match skipSpaces rest with
        | '\x7d' :: rest => some (.object [], rest)
        | rest =>
          (readEntries fuel levels .empty rest).map fun (table, rest) =>
          (table.toJson, rest)
    | 't' :: _ => readWord "true" (.bool true) cs
    | 'f' :: _ => readWord "false" (.bool false) cs
    | 'i' :: _ => readWord "inf" (.numeral "float") cs
    | 'n' :: _ => readWord "nan" (.numeral "float") cs
    | c :: _ =>
      if c = '"' || c = '\x27' then
        (readQuoted cs).map fun (text, rest) =>
        (.string (String.ofList text), rest)
      else if isNumberStart c then readPlain cs
      else none
    | [] => none

/-- The items of an array up to its closing bracket. -/
def readItems : (fuel levels : Nat) → List Char → Option (List Json × List Char)
  | 0, _, _ => none
  | fuel + 1, levels, cs => do
    match ← skipTrivia (cs.length + 1) cs with
    | ']' :: rest => return ([], rest)
    | rest =>
      let (item, rest) ← readValue fuel levels rest
      match ← skipTrivia (rest.length + 1) rest with
      | ',' :: rest =>
        let (items, rest) ← readItems fuel levels rest
        return (item :: items, rest)
      | ']' :: rest => return ([item], rest)
      | _ => none

/-- The entries of an inline table up to its closing brace. -/
def readEntries : (fuel levels : Nat) → (table : Table) → List Char → Option
    (Table × List Char)
  | 0, _, _, _ => none
  | fuel + 1, levels, table, cs => do
    let (keys, key, rest) ← readKeyPath cs
    match rest with
    | '=' :: rest =>
      let (value, rest) ← readValue fuel levels (skipSpaces rest)
      let table ← table.define keys key value
      match skipSpaces rest with
      | ',' :: rest => readEntries fuel levels table rest
      | '\x7d' :: rest => return (table, rest)
      | _ => none
    | _ => none

end

/-- What follows the end of a line, where only spaces and a comment may stand
before. -/
def readLineEnd (cs : List Char) : Option (List Char) :=
  match skipSpaces cs with
  | '#' :: rest => readComment rest
  | rest => if rest.isEmpty || (newLine? rest).isSome then some rest else none

/-- The document read so far, and the path of the table that keys go to. -/
structure Draft where
  root : Table := .empty
  path : List String := []

/-- A header in brackets, read after the first of them. -/
def readHeader (draft : Draft) (cs : List Char) : Option (Draft × List Char) :=
  match cs with
  | '[' :: rest => do
    let (keys, key, rest) ← readKeyPath rest
    match rest with
    | ']' :: ']' :: rest =>
      let root ← draft.root.atPath false (Table.openRow key) keys
      return ({ root, path := keys ++ [key] }, ← readLineEnd rest)
    | _ => none
  | _ => do
    let (keys, key, rest) ← readKeyPath cs
    match rest with
    | ']' :: rest =>
      let root ← draft.root.atPath false (Table.openTable key) keys
      return ({ root, path := keys ++ [key] }, ← readLineEnd rest)
    | _ => none

/-- A key with its value. -/
def readDefinition (draft : Draft) (cs : List Char) : Option
    (Draft × List Char) := do
  let (keys, key, rest) ← readKeyPath cs
  match rest with
  | '=' :: rest =>
    let (value, rest) ← readValue (rest.length + 1) deepest (skipSpaces rest)
    let root ← draft.root.atPath false (Table.define keys key value) draft.path
    return ({ draft with root }, ← readLineEnd rest)
  | _ => none

/-- The remaining lines; `fuel` bounds their number. -/
def readDocument : (fuel : Nat) → Draft → List Char → Option Draft
  | 0, _, _ => none
  | fuel + 1, draft, cs => do
    match ← skipTrivia (cs.length + 1) cs with
    | [] => return draft
    | '[' :: rest =>
      let (draft, rest) ← readHeader draft rest
      readDocument fuel draft rest
    | rest =>
      let (draft, rest) ← readDefinition draft rest
      readDocument fuel draft rest

/-- Drops the mark that may stand before a text in UTF-8. -/
def dropByteOrderMark : List Char → List Char
  | '\ufeff' :: rest => rest
  | cs => cs

/-- The value of a whole document. -/
def parse? (text : String) : Option Json :=
  let cs := dropByteOrderMark text.toList
  (readDocument (cs.length + 1) {} cs).map fun draft => draft.root.toJson

end FamilyOrders.Toml
