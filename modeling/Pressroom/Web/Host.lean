import Pressroom.Number.Whole
import Pressroom.Web.Target

/-!
Hosts. A host is a name, or an address in brackets. An address is eight groups of digits between
colons; two colons together stand for a run of groups that are zero, and the last two groups may be
written as four bytes.
-/
namespace Pressroom

namespace Web

namespace Host

def isHexDigit (c : Char) : Bool := (Json.hexValue? c).isSome

/-- The number that decimal digits write. -/
def decimal (cs : List Char) : Nat := ofDigits (cs.map fun c => c.toNat - '0'.toNat)

/-- Whether characters are a group: up to four hexadecimal digits. -/
def isGroup (cs : List Char) : Bool := !cs.isEmpty && cs.length ≤ 4 && cs.all isHexDigit

/-- Whether characters are a byte in decimal, without zeros in front. -/
def isByte (cs : List Char) : Bool :=
  !cs.isEmpty && cs.length ≤ 3 && cs.all Char.isDigit && (cs == ['0'] || cs.head? != some '0')
    && decimal cs ≤ 255

/-- Whether characters are four bytes between dots. -/
def isFourBytes (cs : List Char) : Bool :=
  let bytes := splitAt '.' cs
  bytes.length == 4 && bytes.all isByte

/-- How many groups the pieces between colons stand for, if they are groups. The last piece may be
four bytes, which stand for two groups. -/
def groupCount? : List (List Char) → Option Nat
  | [] => some 0
  | [last] => if isGroup last then some 1 else if isFourBytes last then some 2 else none
  | piece :: rest => if isGroup piece then (groupCount? rest).map (· + 1) else none

/-- What stands in front of the first two colons that stand together, and what stands behind them. -/
def cutDouble : List Char → Option (List Char × List Char)
  | [] => none
  | ':' :: ':' :: rest => some ([], rest)
  | c :: rest => (cutDouble rest).map fun (front, back) => (c :: front, back)

/-- The pieces between colons on one side of two colons; there may be none. -/
def sidePieces (cs : List Char) : List (List Char) := if cs.isEmpty then [] else splitAt ':' cs

/-- The number of groups in an address. -/
def groups : Nat := 8

/-- Whether characters are an address. Two colons together stand for one group at least. -/
def isAddress (cs : List Char) : Bool :=
  match cutDouble cs with
  | none => groupCount? (splitAt ':' cs) == some groups
  | some (front, back) =>
    (sidePieces front).all isGroup &&
      (groupCount? (sidePieces back)).any fun n => (sidePieces front).length + n < groups

/-- Whether characters may stand in brackets: an address, perhaps with the zone that it is meant in,
or a form of address that is still to come, with its version. -/
def mayBeBracketed : List Char → Bool
  | 'v' :: rest =>
    let (version, address) := cut '.' rest
    !version.isEmpty && version.all isHexDigit && !address.isEmpty
  | cs =>
    let (address, zone) := cut '%' cs
    isAddress address && (!cs.contains '%' || (!zone.isEmpty && !zone.contains '%'))

end Host

end Web

end Pressroom
