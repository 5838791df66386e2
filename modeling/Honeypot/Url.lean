import Honeypot.Address.Basic
import Honeypot.Text.Case

/-!
# Locators

Cutting a locator into scheme, authority and path, and an authority into host and port. A locator
is refused if the brackets of its authority do not match or hold no address of eight groups, or if
its authority holds a character that stands for one of the separators.
-/

namespace Honeypot

/-- The parts of a locator that are looked at. -/
structure Url where
  scheme : String
  authority : String
  path : String
  deriving Repr, DecidableEq

namespace Url

/-- Why a locator has no parts or no port. -/
inductive Fault where
  /-- Only one of the two brackets occurs in the authority. -/
  | unbalancedBracket
  /-- What stands in brackets is no address of eight groups, or more than a port stands around
  them. -/
  | badBracketedHost
  /-- A character of the authority stands for a separator. -/
  | hiddenSeparator
  /-- The port is no decimal number up to 65535. -/
  | badPort
  deriving Repr, DecidableEq

def isSchemeChar (c : Char) : Bool :=
  c.toNat < 128 && (c.isAlphanum || c == '+' || c == '-' || c == '.')

/-- Splits the scheme off, in lower case. -/
def splitScheme (cs : List Char) : List Char × List Char :=
  match Text.cutFirst ':' cs with
  | some (left, right) =>
    if (left.head?).any (fun c => c.toNat < 128 && c.isAlpha) && left.all isSchemeChar then
      (left.map Char.toLower, right)
    else ([], cs)
  | none => ([], cs)

def endsAuthority (c : Char) : Bool := c == '/' || c == '?' || c == '#'

/-- Characters whose plain form holds one of the signs that separate the parts of a locator. -/
def hiddenSeparators : List Nat := [
  0x2100, 0x2101, 0x2105, 0x2106, 0xFF0F, 0x2047, 0x2048, 0x2049, 0xFE16, 0xFE56, 0xFF1F,
  0xFE5F, 0xFF03, 0xFE6B, 0xFF20, 0x2A74, 0xFE13, 0xFE55, 0xFF1A]

/-- Whether a host in brackets is of a version to come: a `v`, hexadecimal digits, a point, and
more without a line feed. -/
def isFutureHost (cs : List Char) : Bool :=
  match cs with
  | 'v' :: rest =>
    let digits := rest.takeWhile fun c => (Text.hexValue? c).isSome
    match rest.drop digits.length with
    | '.' :: more => !digits.isEmpty && !more.isEmpty && !more.contains '\n'
    | _ => false
  | _ => false

/-- Whether a text may stand in brackets. -/
def isBracketable (cs : List Char) : Bool :=
  if cs.head? == some 'v' then isFutureHost cs
  else
    match Address.parse? (String.ofList cs) with
    | some (.v6 _) => true
    | _ => false

/-- The text after the first occurrence of a sign, or nothing. -/
def afterFirst (sep : Char) (cs : List Char) : List Char :=
  match Text.cutFirst sep cs with
  | some (_, right) => right
  | none => []

/-- The text before the first occurrence of a sign, or all of it. -/
def beforeFirst (sep : Char) (cs : List Char) : List Char := cs.takeWhile (· != sep)

/-- The host and the port of an authority, behind the user. -/
def hostPart (authority : List Char) : List Char :=
  match Text.cutLast '@' authority with
  | some (_, right) => right
  | none => authority

/-- Whether the host of an authority in which there are brackets may be so: an address in brackets
with nothing before them and at most a port behind them, and an address without brackets too. -/
def isBracketedWell (authority : List Char) : Bool :=
  match Text.cutFirst '[' (hostPart authority) with
  | some (before, inside) =>
    before.isEmpty && ((afterFirst ']' inside).head?).all (· == ':') &&
      isBracketable (beforeFirst ']' inside)
  | none => isBracketable (beforeFirst ':' (hostPart authority))

/-- The fault of an authority, if it has one. -/
def authorityFault? (cs : List Char) : Option Fault :=
  if cs.contains '[' != cs.contains ']' then some .unbalancedBracket
  else if cs.contains '[' && !isBracketedWell cs then some .badBracketedHost
  else if cs.any fun c => hiddenSeparators.contains c.toNat then some .hiddenSeparator
  else none

/-- Schemes whose last segment may carry parameters after a semicolon. -/
def schemesWithParameters : List String := [
  "", "ftp", "hdl", "prospero", "http", "imap", "https", "shttp", "rtsp", "rtsps", "rtspu", "sip",
  "sips", "mms", "sftp", "tel"]

/-- A path without the parameters of its last segment. -/
def withoutParameters (path : List Char) : List Char :=
  match Text.cutLast '/' path with
  | some (left, last) => left ++ '/' :: beforeFirst ';' last
  | none => beforeFirst ';' path

def parse (s : String) : Except Fault Url :=
  let cs := (s.toList.dropWhile fun c => c.toNat ≤ 32).filter fun c =>
    !(c == '\t' || c == '\r' || c == '\n')
  let (scheme, rest) := splitScheme cs
  let (authority, rest) :=
    match rest with
    | '/' :: '/' :: more =>
      (more.takeWhile (!endsAuthority ·), more.dropWhile (!endsAuthority ·))
    | _ => ([], rest)
  match authorityFault? authority with
  | some fault => .error fault
  | none =>
    let path := beforeFirst '?' (beforeFirst '#' rest)
    let scheme := String.ofList scheme
    let path := if schemesWithParameters.contains scheme then withoutParameters path else path
    .ok ⟨scheme, String.ofList authority, String.ofList path⟩

/-- The host and the port of an authority as they are written. -/
def hostAndPort (u : Url) : List Char × List Char :=
  let target := hostPart u.authority.toList
  if target.contains '[' then
    let inside := afterFirst '[' target
    (beforeFirst ']' inside, afterFirst ':' (afterFirst ']' inside))
  else (beforeFirst ':' target, afterFirst ':' target)

/-- The host in lower case, except for the name of a scope. -/
def host? (u : Url) : Option String :=
  let host := u.hostAndPort.1
  if host.isEmpty then none
  else
    let name := Text.lower (String.ofList (beforeFirst '%' host))
    some (name ++ String.ofList (host.drop (beforeFirst '%' host).length))

def port? (u : Url) : Except Fault (Option Nat) :=
  let digits := u.hostAndPort.2
  if digits.isEmpty then .ok none
  else if !digits.all Char.isDigit then .error .badPort
  else
    let n := digits.foldl (fun n c => n * 10 + (c.toNat - 48)) 0
    if n ≤ 65535 then .ok (some n) else .error .badPort

/-- The last segment of the path, or a default if it is empty. -/
def fileName (u : Url) (default : String) : String :=
  let name := Text.afterLast '/' u.path
  if name.isEmpty then default else name

end Url

end Honeypot
