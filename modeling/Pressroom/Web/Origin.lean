import Pressroom.Web.Host
import Pressroom.Text.Case

/-!
Origins: the scheme and the host of an address, and the number that may stand behind the host. Two
addresses are of the same origin when all three are the same. Not every address can be read.
-/
namespace Pressroom

namespace Web

/-- An address as far as its origin goes. The number behind the host is not read yet. -/
structure Origin where
  scheme : String
  host : String
  digits : List Char
  deriving DecidableEq

namespace Origin

/-- Splits what stands before the last separator from what stands behind it, if there is one. -/
def cutLast (separator : Char) (cs : List Char) : Option (List Char × List Char) :=
  if cs.contains separator then
    some ((cs.reverse.dropWhile (· != separator)).tail.reverse,
      (cs.reverse.takeWhile (· != separator)).reverse)
  else none

/-- Whether characters are the name of a scheme. -/
def isScheme (cs : List Char) : Bool :=
  cs.head?.any Char.isAlpha && cs.all fun c => c.isAlphanum || "+-.".toList.contains c

/-- The scheme of an address and what stands behind it. An address may have none. -/
def cutScheme (cs : List Char) : List Char × List Char :=
  let (scheme, rest) := cut ':' cs
  if cs.contains ':' && isScheme scheme then (scheme, rest) else ([], cs)

/-- What two slashes introduce, up to the path. -/
def authority : List Char → List Char
  | '/' :: '/' :: rest => rest.takeWhile fun c => c != '/' && c != '?' && c != '#'
  | _ => []

/-- The characters that are short for several, one of them a character that parts an address. -/
def compounds : List Char :=
  ['\u2047', '\u2048', '\u2049', '\u2100', '\u2101', '\u2105', '\u2106', '\u2A74', '\uFE13',
    '\uFE16', '\uFE55', '\uFE56', '\uFE5F', '\uFE6B', '\uFF03', '\uFF0F', '\uFF1A', '\uFF1F',
    '\uFF20']

/-- What stands in the first brackets. -/
def bracketed (authority : List Char) : List Char := (cut ']' (cut '[' authority).2).1

/-- Whether an authority can be taken apart. One with a bracket on one side only cannot, nor can one
with something else than an address in its brackets. -/
def isReadable (authority : List Char) : Bool :=
  authority.contains '[' == authority.contains ']'
    && (!authority.contains '[' || Host.mayBeBracketed (bracketed authority))
    && !authority.any compounds.contains

/-- The host and what stands behind it, without the user in front. A host in brackets may hold
colons. -/
def cutHost (authority : List Char) : List Char × List Char :=
  let place := match cutLast '@' authority with
    | some (_, place) => place
    | none => authority
  if place.contains '[' then
    let (host, rest) := cut ']' (cut '[' place).2
    (host, (cut ':' rest).2)
  else cut ':' place

/-- A host in small letters. What follows a percent sign names a zone and stays as it is. -/
def lowerHost (cs : List Char) : String :=
  lowerCase (String.ofList (cs.takeWhile (· != '%'))) ++ String.ofList (cs.dropWhile (· != '%'))

/-- The origin of an address; the parts that are not there are empty. -/
def read? (address : String) : Option Origin :=
  let (scheme, rest) := cutScheme (tidy address.toList)
  let authority := authority rest
  if isReadable authority then
    let (host, digits) := cutHost authority
    some ⟨lowerCase (String.ofList scheme), lowerHost host, digits⟩
  else none

/-- What stands behind the host of an address. -/
inductive HostNumber where
  | unnamed
  | number (n : Nat)
  | broken
  deriving DecidableEq

/-- The largest number that may stand behind a host. -/
def largestNumber : Nat := 65535

/-- Reads the number behind the host. -/
def hostNumber (o : Origin) : HostNumber :=
  if o.digits.isEmpty then .unnamed
  else if o.digits.all Char.isDigit && o.digits.length ≤ maxDigits then
    let n := Host.decimal o.digits
    if n ≤ largestNumber then .number n else .broken
  else .broken

/-- How an address compares with the place it should come from. -/
inductive Comparison where
  | same
  | different
  | broken
  deriving DecidableEq

/-- Compares an origin with the one it should be. The numbers are looked at last. -/
def compare (o wanted : Origin) : Comparison :=
  if o.scheme != wanted.scheme || o.host != wanted.host then .different
  else match o.hostNumber, wanted.hostNumber with
    | .broken, _ | _, .broken => .broken
    | p, q => if p = q then .same else .different

/-- Compares an address with the encrypted one of a host. -/
def compareSecure (address host : String) : Comparison :=
  match read? address, read? ("https://" ++ host ++ "/") with
  | some o, some wanted => o.compare wanted
  | _, _ => .broken

end Origin

end Web

end Pressroom
