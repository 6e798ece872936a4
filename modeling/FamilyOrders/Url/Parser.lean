import FamilyOrders.Text.Characters
import FamilyOrders.Text.Encoding
import FamilyOrders.Url.Host

/-!
# Reading URLs

Absolute URLs in their normal form, and the files that they name.
-/

namespace FamilyOrders.Url

open FamilyOrders.Text

/-! ## Reading URLs

An absolute URL is read in its normal form: scheme and host in lower case, dot
segments resolved, the port left out where it is the scheme's own, and
characters outside each part's alphabet percent-encoded.  Web schemes and `file`
take a backslash for a slash. -/

def pathEscapes : List Char := " \"<>`#?\x7b\x7d".toList

def queryEscapes : List Char := " \"#<>".toList

def fragmentEscapes : List Char := " \"<>`".toList

def userEscapes : List Char := " \"<>`#?\x7b\x7d/:;=@[\\]^|".toList

def encodeChars (escaped cs : List Char) : List Char :=
  percentEncode escaped (utf8 (String.ofList cs))

/-- The schemes whose URLs have a host and are read the lenient way, with their
ports. -/
def webPort? (scheme : List Char) : Option Nat :=
  match String.ofList scheme with
  | "http" | "ws" => some 80
  | "https" | "wss" => some 443
  | "ftp" => some 21
  | _ => none

def isWeb (scheme : List Char) : Bool :=
  (webPort? scheme).isSome

/-- Whether a backslash counts as a slash. -/
def isLenient (scheme : List Char) : Bool :=
  isWeb scheme || scheme = fileScheme

def isSlash (scheme : List Char) (c : Char) : Bool :=
  c = '/' || (isLenient scheme && c = '\\')

def isSchemeChar (c : Char) : Bool :=
  c.isAlphanum || c = '+' || c = '-' || c = '.'

/-- The scheme in lower case and what follows its colon. -/
def splitScheme (cs : List Char) : Option (List Char × List Char) :=
  let name := cs.takeWhile isSchemeChar
  match name, cs.drop name.length with
  | first :: _, ':' :: rest =>
    if first.isAlpha then some (name.map Char.toLower, rest) else none
  | _, _ => none

/-- The segments between the slashes of a path. -/
def splitSegments (scheme : List Char) : List Char → List (List Char)
  | [] => [[]]
  | c :: cs =>
    if isSlash scheme c then [] :: splitSegments scheme cs
    else match splitSegments scheme cs with
      | segment :: segments => (c :: segment) :: segments
      | [] => [[c]]

/-- A dot, or one written percent-encoded. -/
def dropDot : List Char → Option (List Char)
  | '.' :: rest => some rest
  | '%' :: '2' :: 'e' :: rest => some rest
  | '%' :: '2' :: 'E' :: rest => some rest
  | _ => none

def isSingleDot (segment : List Char) : Bool :=
  dropDot segment = some []

def isDoubleDot (segment : List Char) : Bool :=
  (dropDot segment).bind dropDot = some []

def isDriveLetter : List Char → Bool
  | [c, mark] => c.isAlpha && (mark = ':' || mark = '|')
  | _ => false

/-- The segments without the last one; a drive letter stays. -/
def leave : List (List Char) → List (List Char)
  | [] => []
  | segment :: above =>
    if isDriveLetter segment then segment :: above else above

/-- A segment as it is kept: encoded, and at the start of a file path with a
drive letter's bar made a colon. -/
def keepSegment (scheme : List Char) (isFirst : Bool) (segment : List Char) :
    List Char :=
  if isFirst && scheme = fileScheme && isDriveLetter segment then
    segment.take 1 ++ [':']
  else encodeChars pathEscapes segment

/-- Resolves dot segments against the segments `above`, the last one first. -/
def resolveSegments (scheme : List Char) (above : List (List Char)) :
    List (List Char) → List (List Char)
  | [] => above.reverse
  | segment :: more =>
    let ended (above : List (List Char)) :=
      if more.isEmpty then [] :: above else above
    if isDoubleDot segment then resolveSegments scheme
      (ended (leave above)) more
    else if isSingleDot segment then resolveSegments scheme (ended above) more
    else
      resolveSegments scheme
        (keepSegment scheme above.isEmpty segment :: above) more

/-- A file path never starts with an empty segment, unless that is all. -/
def dropLeadingEmpty (segments : List (List Char)) : List (List Char) :=
  match segments.dropWhile List.isEmpty with
  | [] => [[]]
  | rest => rest

/-- The path of a URL that has slashes, read after its first slash. -/
def readSegments (scheme cs : List Char) : List (List Char) :=
  let segments := resolveSegments scheme [] (splitSegments scheme cs)
  if scheme = fileScheme then dropLeadingEmpty segments else segments

/-- Whether a file path, read after its first slash, starts with a drive. -/
def startsWithDrive (cs : List Char) : Bool :=
  match resolveSegments fileScheme [] (splitSegments fileScheme cs) with
  | first :: _ => isDriveLetter first
  | [] => false

def dropSlash (scheme : List Char) : List Char → List Char
  | c :: cs => if isSlash scheme c then cs else c :: cs
  | [] => []

/-- What stands before the query and the fragment, and these two. -/
def splitTail (cs : List Char) : List Char × Option (List Char) × Option
    (List Char) :=
  let beforeFragment := cs.takeWhile (· ≠ '#')
  let fragment := (cs.drop beforeFragment.length).tail?
  let body := beforeFragment.takeWhile (· ≠ '?')
  let query := (beforeFragment.drop body.length).tail?
  (body, query, fragment)

def withTail (scheme : List Char) (authority : Option Authority) (path : Path)
    (query fragment : Option (List Char)) : Url :=
  { scheme, authority, path
    query :=
      query.map (encodeChars
        (if isLenient scheme then '\x27' :: queryEscapes else queryEscapes))
    fragment := fragment.map (encodeChars fragmentEscapes) }

/-- The user part before the last `@` and what follows it. -/
def splitUser (cs : List Char) : Option (List Char) × List Char :=
  let host := (cs.reverse.takeWhile (· ≠ '@')).reverse
  if host.length = cs.length then (none, cs)
  else (some (cs.take (cs.length - host.length - 1)), host)

/-- The host and, after a colon outside brackets, the port. -/
def splitPort (inBrackets : Bool) : List Char → List Char × Option (List Char)
  | [] => ([], none)
  | c :: cs =>
    if c = ':' && !inBrackets then ([], some cs)
    else
      let (host, port) :=
        splitPort (if c = '[' then true else if c =
          ']' then false else inBrackets) cs
      (c :: host, port)

def readPort (scheme : List Char) (cs : List Char) : Except ParseError
    (Option Nat) :=
  if cs.all Char.isDigit && Nat.ofDigitChars 10 cs 0 < 65536 then
    let port := Nat.ofDigitChars 10 cs 0
    .ok (if cs.isEmpty || webPort? scheme = some port then none else some port)
  else .error .invalidPort

/-- The part of a URL between its slashes and its path. -/
def readAuthority (domains : DomainRules) (scheme cs : List Char) :
    Except ParseError Authority := do
  let (user, rest) := splitUser cs
  let (hostText, portText) := splitPort false rest
  let name := (user.getD []).takeWhile (· ≠ ':')
  let password := ((user.getD []).drop name.length).drop 1
  if hostText.isEmpty then
    if isWeb scheme || portText.isSome || user.isSome then throw .emptyHost
    else return ⟨[], [], .domain [], none⟩
  else
    let host ←
      if isWeb scheme then Host.read domains hostText
      else Host.readAny hostText
    let port ← match portText with
      | some cs => readPort scheme cs
      | none => pure none
    return ⟨encodeChars userEscapes name, encodeChars userEscapes password,
      host, port⟩

def localhost : List Char := "localhost".toList

/-- A file URL: a host other than this machine's is kept, unless the path
starts with a drive. -/
def readFile (domains : DomainRules) (body : List Char)
    (query fragment : Option (List Char)) : Except ParseError Url := do
  match body with
  | first :: second :: rest =>
    if isSlash fileScheme first && isSlash fileScheme second then
      let hostText := rest.takeWhile fun c => !isSlash fileScheme c
      if isDriveLetter hostText then
        return withTail fileScheme
          none (.segments (readSegments fileScheme rest)) query fragment
      let pathText := dropSlash fileScheme (rest.drop hostText.length)
      let path := readSegments fileScheme pathText
      let host ←
        if hostText.isEmpty then pure none
        else (Host.read domains hostText).map some
      let authority := host.bind fun host =>
        if host = .domain localhost || startsWithDrive pathText then none
        else some ⟨[], [], host, none⟩
      return withTail fileScheme authority (.segments path) query fragment
    else
      let path := readSegments fileScheme (dropSlash fileScheme body)
      return withTail fileScheme none (.segments path) query fragment
  | _ =>
    let path := readSegments fileScheme (dropSlash fileScheme body)
    return withTail fileScheme none (.segments path) query fragment

/-- A URL of a scheme other than `file`, read after the slashes before its host.
-/
def readAfterSlashes (domains : DomainRules) (scheme body : List Char)
    (query fragment : Option (List Char)) : Except ParseError Url := do
  let authorityText := body.takeWhile fun c => !isSlash scheme c
  let pathText := body.drop authorityText.length
  let authority ← readAuthority domains scheme authorityText
  let path :=
    if pathText.isEmpty && !isWeb scheme then []
    else readSegments scheme (dropSlash scheme pathText)
  return withTail scheme (some authority) (.segments path) query fragment

def readAfterScheme (domains : DomainRules) (scheme cs : List Char) :
    Except ParseError Url :=
  let (body, query, fragment) := splitTail cs
  if scheme = fileScheme then readFile domains body query fragment
  else if isWeb scheme then
    readAfterSlashes domains scheme (body.dropWhile (isSlash scheme)) query
      fragment
  else match body with
    | '/' :: '/' :: rest =>
      readAfterSlashes domains scheme rest query fragment
    | '/' :: rest =>
      .ok (withTail scheme none (.segments (readSegments scheme rest)) query
        fragment)
    | _ =>
      .ok (withTail scheme none (.rootless (encodeChars [] body)) query
        fragment)

def isControlOrSpace (c : Char) : Bool :=
  c.toNat ≤ 0x20

def isTabOrNewline (c : Char) : Bool :=
  c = '\t' || c = '\n' || c = '\r'

/-- Reads an absolute URL; controls and spaces around it and tabs and line ends
anywhere are dropped first. -/
def read (domains : DomainRules) (cs : List Char) : Except ParseError Url :=
  let cs := (strip isControlOrSpace cs).filter fun c => !isTabOrNewline c
  match splitScheme cs with
  | some (scheme, rest) => readAfterScheme domains scheme rest
  | none => .error .relativeWithoutBase

def parse (domains : DomainRules) (s : String) : Except ParseError Url :=
  read domains s.toList

/-! ## Files named by URLs

The `file` URL of an absolute path, and the path that a URL names on this
machine.  A path is kept as the bytes of the names between its slashes. -/

/-- The characters escaped in a path segment made from a file name. -/
def nameEscapes : List Char := '/' :: '%' :: '\\' :: pathEscapes

/-- The URL of the file reached from the root through the given names. -/
def ofFile (names : List Bytes) : Url :=
  { scheme := fileScheme
    authority := none
    path :=
      .segments (if names.isEmpty then [[]] else names.map
        (percentEncode nameEscapes))
    query := none
    fragment := none }

def isDriveByte (b : UInt8) : Bool :=
  (0x41 ≤ b && b ≤ 0x5A) || (0x61 ≤ b && b ≤ 0x7A)

/-- A path that ends in a drive letter gets a slash after it. -/
def closeDrive (path : Bytes) : Bytes :=
  match path.reverse with
  | mark :: letter :: _ :: _ =>
    if (mark = 0x3A || mark = 0x7C) && isDriveByte letter then path ++ [0x2F]
    else path
  | _ => path

/-- Whether no host is named, or this machine. -/
def isLocal (url : Url) : Bool :=
  match url.authority with
  | none => true
  | some authority =>
    authority.host = .domain [] || authority.host = .domain localhost

/-- The path that the URL names, as the bytes of its text, if it names one on
this machine. -/
def filePath? (url : Url) : Option Bytes :=
  match url.path with
  | .segments (name :: names) =>
    if url.isLocal then
      some (closeDrive ((name :: names).flatMap fun segment =>
        0x2F :: percentDecode segment))
    else none
  | _ => none

end FamilyOrders.Url
