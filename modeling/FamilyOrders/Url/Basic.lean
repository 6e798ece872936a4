/-!
# URLs

The parts of a URL and its written form.  A path is either a row of segments
after slashes or, for schemes such as `mailto`, a text without any structure.
-/

namespace FamilyOrders.Url

inductive Host
  | domain (name : List Char)
  | ipv4 (address : Nat)
  /-- Eight pieces of sixteen bits. -/
  | ipv6 (pieces : List Nat)
  deriving DecidableEq

structure Authority where
  username : List Char
  password : List Char
  host : Host
  port : Option Nat
  deriving DecidableEq

inductive Path
  | segments (names : List (List Char))
  | rootless (text : List Char)
  deriving DecidableEq

inductive ParseError
  | emptyHost
  | invalidDomainName
  | invalidPort
  | invalidIpv4Address
  | invalidIpv6Address
  | invalidDomainCharacter
  | relativeWithoutBase
  deriving DecidableEq

def ParseError.message : ParseError → String
  | .emptyHost => "empty host"
  | .invalidDomainName => "invalid international domain name"
  | .invalidPort => "invalid port number"
  | .invalidIpv4Address => "invalid IPv4 address"
  | .invalidIpv6Address => "invalid IPv6 address"
  | .invalidDomainCharacter => "invalid domain character"
  | .relativeWithoutBase => "relative URL without a base"

/-- The lower-case hexadecimal numeral without leading zeros. -/
def hexChars (n : Nat) : List Char :=
  Nat.toDigits 16 n

/-- The pieces of an IPv6 address, joined by colons. -/
def joinPieces (pieces : List Nat) : List Char :=
  [':'].intercalate (pieces.map hexChars)

/-- The length of the run of zeros at the start. -/
def zerosAt (pieces : List Nat) : Nat :=
  (pieces.takeWhile (· = 0)).length

/-- Where the first longest run of at least two zeros starts, and its length. -/
def longestZeros (pieces : List Nat) : Option (Nat × Nat) :=
  let runs := (List.range pieces.length).map fun i =>
    (i, zerosAt (pieces.drop i))
  let longest :=
    runs.foldl (fun best run => if best.2 < run.2 then run else best) (0, 1)
  if 2 ≤ longest.2 then some longest else none

def Host.chars : Host → List Char
  | .domain name => name
  | .ipv4 address =>
    ['.'].intercalate ([16777216, 65536, 256, 1].map fun unit =>
      Nat.toDigits 10 (address / unit % 256))
  | .ipv6 pieces =>
    match longestZeros pieces with
    | some (start, length) =>
      '[' :: joinPieces (pieces.take start) ++ [':', ':'] ++
        joinPieces (pieces.drop (start + length)) ++ [']']
    | none => '[' :: joinPieces pieces ++ [']']

def Authority.chars (authority : Authority) : List Char :=
  let user := authority.username ++
    (if authority.password.isEmpty then [] else ':' :: authority.password)
  (if user.isEmpty then [] else user ++ ['@']) ++ authority.host.chars ++
    match authority.port with
    | some port => ':' :: Nat.toDigits 10 port
    | none => []

def Path.chars : Path → List Char
  | .segments names => names.flatMap ('/' :: ·)
  | .rootless text => text

end Url

structure Url where
  scheme : List Char
  authority : Option Url.Authority
  path : Url.Path
  query : Option (List Char)
  fragment : Option (List Char)
  deriving DecidableEq

namespace Url

def fileScheme : List Char := ['f', 'i', 'l', 'e']

/-- What stands between the scheme and the path.  A file URL has slashes there
even without a host; elsewhere a path that starts with two slashes is set apart
from them by a dot. -/
def authorityChars (url : Url) : List Char :=
  match url.authority, url.path with
  | some authority, _ => '/' :: '/' :: authority.chars
  | none, .segments ([] :: _ :: _) =>
    if url.scheme = fileScheme then ['/', '/'] else ['/', '.']
  | none, _ => if url.scheme = fileScheme then ['/', '/'] else []

def chars (url : Url) : List Char :=
  url.scheme ++ ':' :: url.authorityChars ++ url.path.chars ++
    (url.query.map ('?' :: ·)).getD [] ++ (url.fragment.map ('#' :: ·)).getD []

def text (url : Url) : String :=
  String.ofList url.chars

end Url

end FamilyOrders
