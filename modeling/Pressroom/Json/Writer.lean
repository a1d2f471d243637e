import Pressroom.Json.Basic

/-!
Writing JSON text in ASCII: two-character separators, everything outside the printable ASCII range
as `\u` escapes, characters past U+FFFF as two halves.
-/
namespace Pressroom

namespace Json

/-- A unit of sixteen bits as an escape. -/
def unitEscape (n : Nat) : List Char := '\\' :: 'u' :: hexDigits 4 n

/-- A code point inside a written text. -/
def writePoint (p : Point) : List Char :=
  let n := p.code
  if n = 0x22 then ['\\', '"']
  else if n = 0x5C then ['\\', '\\']
  else if n = 0x0A then ['\\', 'n']
  else if n = 0x0D then ['\\', 'r']
  else if n = 0x09 then ['\\', 't']
  else if n = 0x0C then ['\\', 'f']
  else if n = 0x08 then ['\\', 'b']
  else if 0x20 ≤ n ∧ n < 0x7F then [Char.ofNat n]
  else if n < 0x10000 then unitEscape n
  else unitEscape (0xD800 + (n - 0x10000) / 0x400) ++ unitEscape (0xDC00 + (n - 0x10000) % 0x400)

def writeText (t : Text) : List Char := '"' :: t.flatMap writePoint ++ ['"']

mutual

/-- A value as JSON text. -/
def write : Json → List Char
  | null => "null".toList
  | bool b => if b then "true".toList else "false".toList
  | whole n => (toString n).toList
  | real .nan => "NaN".toList
  | real (.infinite s) => if s then "-Infinity".toList else "Infinity".toList
  | real x => x.render.toList
  | text t => writeText t
  | list xs => '[' :: writeItems xs ++ [']']
  | object ms => '\x7b' :: writeMembers ms ++ ['\x7d']

def writeItems : List Json → List Char
  | [] => []
  | [x] => write x
  | x :: xs => write x ++ [',', ' '] ++ writeItems xs

def writeMembers : List (Text × Json) → List Char
  | [] => []
  | [(k, v)] => writeText k ++ [':', ' '] ++ write v
  | (k, v) :: ms => writeText k ++ [':', ' '] ++ write v ++ [',', ' '] ++ writeMembers ms

end

/-- Order of names by code points. -/
def nameLe : Text → Text → Bool
  | [], _ => true
  | _ :: _, [] => false
  | p :: s, q :: t => if p.code = q.code then nameLe s t else p.code < q.code

/-- Members in the order of their names. -/
def sortMembers (ms : List (Text × Json)) : List (Text × Json) :=
  ms.mergeSort fun a b => nameLe a.1 b.1

/-- A value as a string of JSON text. -/
def render (v : Json) : String := String.ofList v.write

end Json

end Pressroom
