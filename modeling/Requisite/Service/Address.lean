import Requisite.Service.Escape
import Requisite.Text.Digit

/-!
# Addresses

An address has a scheme, a host, a path, a query and a fragment, of which all but the path may be
missing. A query is pairs of a name and a value, joined by ampersands.
-/

namespace Requisite.Service

/-- The parts of an address, but for its fragment. -/
structure Address where
  scheme : Option (List Char) := none
  host : List Char := []
  path : List Char
  query : List Char := []

namespace Address

/-- A control or a space. -/
def isControlOrSpace (c : Char) : Bool := c.toNat ≤ 0x20

/-- A tab or the end of a line, which count for nothing in an address. -/
def isIgnored (c : Char) : Bool := c == '\t' || c == '\n' || c == '\r'

/-- A character that may stand in a scheme. -/
def isSchemeChar (c : Char) : Bool := c.isAlphanum || "+-.".toList.contains c

/-- The scheme before the first colon, in lower case, and what follows it. -/
def cutScheme (cs : List Char) : Option (List Char) × List Char :=
  let scheme := cs.takeWhile (· != ':')
  match cs.dropWhile (· != ':') with
  | [] => (none, cs)
  | _ :: rest =>
    if scheme.head?.any Char.isAlpha && scheme.all isSchemeChar then
      (some (scheme.map Char.toLower), rest)
    else (none, cs)

/-- The host after two slashes, and what follows it. -/
def cutHost : List Char → List Char × List Char
  | '/' :: '/' :: cs =>
    let isPart (c : Char) : Bool := !("/?#".toList.contains c)
    (cs.takeWhile isPart, cs.dropWhile isPart)
  | cs => ([], cs)

/-- The address that a text writes. -/
def ofList (cs : List Char) : Address :=
  let cs := (cs.dropWhile isControlOrSpace).filter fun c => !isIgnored c
  let (scheme, afterScheme) := cutScheme cs
  let (host, afterHost) := cutHost afterScheme
  let beforeFragment := afterHost.takeWhile (· != '#')
  { scheme, host
    path := beforeFragment.takeWhile (· != '?')
    query := (beforeFragment.dropWhile (· != '?')).drop 1 }

end Address

/-! ## Hosts -/

/-- Why no request can be made for an address. -/
inductive AddressFault where
  /-- There is a query both in the address and beside it. -/
  | twoQueries
  /-- The brackets of the host do not match. -/
  | brackets
  /-- The port is no number that a port may have. -/
  | port
  /-- A part of the host between dots is empty or too long. -/
  | hostPart
  /-- The query would break the line of an address to go on to. -/
  | brokenLine
  deriving DecidableEq, Repr

/-- The greatest number of a port. -/
def maxPort : Nat := 65535

/-- The port that is written after a host, or `none` where none is. -/
def portOf (digits : List Char) : Except AddressFault (Option Nat) :=
  if digits.isEmpty then .ok none
  else if digits.all Char.isDigit then
    let n := Text.ofDigits (digits.map fun c => c.toNat - 0x30)
    if n ≤ maxPort then .ok (if n = 0 then none else some n) else .error .port
  else .error .port

/-- The longest part of a host between dots. -/
def maxHostPart : Nat := 63

/-- Whether no part of a host before its last dot is empty, and none is too long. -/
def hasHostParts (name : List Char) : Bool :=
  let parts := name.splitOn '.'
  parts.dropLast.all (fun part => !part.isEmpty) && parts.all fun part => part.length ≤ maxHostPart

/-- The port that a scheme implies. -/
def impliedPort? (scheme : List Char) : Option Nat :=
  if scheme = "http".toList || scheme = "ws".toList then some 80
  else if scheme = "https".toList || scheme = "wss".toList then some 443
  else none

/-- The name and the port of a server; a name in brackets may have colons. -/
def cutPort (server : List Char) : List Char × List Char :=
  let isName (c : Char) : Bool := c != ':'
  match server.dropWhile (· != '[') with
  | _ :: bracketed =>
    (bracketed.takeWhile (· != ']'),
      ((bracketed.dropWhile (· != ']')).dropWhile isName).drop 1)
  | [] => (server.takeWhile isName, (server.dropWhile isName).drop 1)

/-- A host in lower case, without the port that its scheme implies. -/
def plainHost (scheme host : List Char) : Except AddressFault (List Char) := do
  let user := (host.reverse.dropWhile (· != '@')).reverse
  let (name, digits) := cutPort (host.reverse.takeWhile (· != '@')).reverse
  let port ← portOf digits
  let written := match port with
    | some n => if impliedPort? scheme = some n then [] else ':' :: Nat.toDigits 10 n
    | none => []
  let name' := if name.contains ':' then '[' :: name ++ [']'] else name
  if hasHostParts name then .ok ((user ++ name' ++ written).map Char.toLower)
  else .error .hostPart

/-- What stands before the path in the written address of a page of this service. -/
def Address.origin (a : Address) : Except AddressFault (List Char) := do
  let scheme := a.scheme.getD "http".toList
  let host := if a.host.isEmpty then "localhost".toList else a.host
  if a.host.contains '[' == a.host.contains ']' then
    .ok (scheme ++ "://".toList ++ (← plainHost scheme host))
  else .error .brackets

/-! ## Queries -/

/-- The name and the value of one part of a query; a part without an equals sign has the empty
value. -/
def pairOf (part : List Char) : String × String :=
  (decodePart (part.takeWhile (· != '=')), decodePart ((part.dropWhile (· != '=')).drop 1))

/-- The names and values of a query, in order; empty parts are left out. -/
def parameters (query : String) : List (String × String) :=
  ((query.toList.splitOn '&').filter fun part => !part.isEmpty).map pairOf

end Requisite.Service
