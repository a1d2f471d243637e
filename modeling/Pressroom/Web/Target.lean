import Pressroom.Text.Utf8
import Pressroom.Json.Reader

/-!
Targets of requests and forms: percent escapes, paths, and pairs of names and values. Of a name that
occurs several times the first value counts.
-/
namespace Pressroom

namespace Web

/-- The bytes that a text with percent escapes stands for. Escapes that are none stand for
themselves. -/
def unescape : List Char → List Nat
  | [] => []
  | '%' :: a :: b :: rest =>
    match Json.hexValue? a, Json.hexValue? b with
    | some high, some low => (high * 16 + low) :: unescape rest
    | _, _ => '%'.toNat :: unescape (a :: b :: rest)
  | c :: rest => utf8Code c.toNat ++ unescape rest

/-- Two hexadecimal digits in capitals. -/
def hexPair (b : Nat) : List Char :=
  [b / 16 % 16, b % 16].map fun n => (Nat.digitChar n).toUpper

/-- A byte as a percent escape. -/
def escapeByte (b : Nat) : List Char := '%' :: hexPair b

/-- The characters that bytes stand for; a byte that fits nowhere is given to `bad`. The first
argument is at least the number of bytes. -/
def decodeWith (bad : Nat → List Char) : Nat → List Nat → List Char
  | 0, _ => []
  | fuel + 1, bytes =>
    match utf8Front bytes, bytes with
    | .char n rest, _ => Char.ofNat n :: decodeWith bad fuel rest
    | .malformed, b :: rest => bad b ++ decodeWith bad fuel rest
    | _, _ => []

/-- Decodes a path; bytes that fit nowhere become U+FFFD. -/
def decodePath (cs : List Char) : List Char :=
  let bytes := unescape cs
  decodeWith (fun _ => ['\uFFFD']) bytes.length bytes

/-- Decodes a name or a value; bytes that fit nowhere stay escaped. -/
def decodePart (cs : List Char) : String :=
  let bytes := unescape (cs.map fun c => if c = '+' then ' ' else c)
  String.ofList (decodeWith escapeByte bytes.length bytes)

/-- The pieces of a list between separators. -/
def splitAt (separator : Char) : List Char → List (List Char)
  | [] => [[]]
  | c :: rest =>
    if c = separator then [] :: splitAt separator rest
    else match splitAt separator rest with
      | piece :: pieces => (c :: piece) :: pieces
      | [] => [[c]]

/-- The part before the first separator and the part behind it. -/
def cut (separator : Char) (cs : List Char) : List Char × List Char :=
  (cs.takeWhile (· != separator), (cs.dropWhile (· != separator)).tail)

/-- The pairs of a form or a query, in order. -/
def readPairs (cs : List Char) : List (String × String) :=
  ((splitAt '&' cs).filter fun piece => !piece.isEmpty).map fun piece =>
    let (name, value) := cut '=' piece
    (decodePart name, decodePart value)

/-- A target taken apart. The path is decoded, the query is not. -/
structure Target where
  host : String
  path : List Char
  query : List Char

/-- The host that requests go to unless the target names one. -/
def defaultHost : String := "localhost"

/-- Blanks and controls in front of a target, and line breaks and tabs in it, do not count. -/
def tidy (cs : List Char) : List Char :=
  (cs.dropWhile fun c => c.toNat ≤ 0x20).filter fun c => c != '\t' && c != '\n' && c != '\r'

/-- Takes a target apart. What follows a number sign is left out. -/
def readTarget (target : String) : Target :=
  let cs := (tidy target.toList).takeWhile (· != '#')
  let (path, query) := cut '?' cs
  match path with
  | '/' :: '/' :: rest =>
    ⟨String.ofList (rest.takeWhile (· != '/')), decodePath (rest.dropWhile (· != '/')), query⟩
  | _ => ⟨defaultHost, decodePath path, query⟩

/-- Whether a byte may stand in an address as it is. -/
def isPlainByte (extra : List Char) (b : Nat) : Bool :=
  b < 0x80 && (let c := Char.ofNat b; c.isAlphanum || "_.-~!$&'()*+,/:;=@%".toList.contains c
    || extra.contains c)

/-- Escapes what may not stand in an address. -/
def escape (extra : List Char) (cs : List Char) : List Char :=
  cs.flatMap fun c =>
    (utf8Code c.toNat).flatMap fun b =>
      if isPlainByte extra b then [Char.ofNat b] else escapeByte b

/-- The path without its leading slashes, and one slash in front. -/
def rooted (path : List Char) : List Char := '/' :: path.dropWhile (· == '/')

/-- The address of a target. -/
def Target.address (t : Target) (secure : Bool) : String :=
  let query := if t.query.isEmpty then [] else '?' :: escape ['?'] t.query
  (if secure then "https://" else "http://") ++ t.host
    ++ String.ofList (escape [] (rooted t.path) ++ query)

end Web

end Pressroom
