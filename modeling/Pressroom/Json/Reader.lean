import Pressroom.Json.Basic
import Pressroom.Number.Whole

/-!
Reading JSON text. A fault is reported with the place of the first character that cannot go on, as
line, column and offset. When a name repeats in an object, its last value counts; `NaN` and the
infinities are read as numbers; raw control characters inside texts are refused.

A reader works on the characters that are left, and a fault remembers how many were left. A step
into a list or an object takes two units of fuel and eats at least one character, so twice the
length of the text is fuel enough.
-/
namespace Pressroom

namespace Json

/-- Why a text is not JSON. -/
inductive ReadCause where
  | expectingValue
  | expectingName
  | expectingColon
  | expectingComma
  | extraData
  | unterminatedText
  | controlCharacter
  | badEscape
  | badUnicodeEscape
  | byteOrderMark
  | number (fault : WholeFault)

def ReadCause.message : ReadCause → String
  | expectingValue => "Expecting value"
  | expectingName => "Expecting property name enclosed in double quotes"
  | expectingColon => "Expecting ':' delimiter"
  | expectingComma => "Expecting ',' delimiter"
  | extraData => "Extra data"
  | unterminatedText => "Unterminated string starting at"
  | controlCharacter => "Invalid control character at"
  | badEscape => "Invalid \\escape"
  | badUnicodeEscape => "Invalid \\uXXXX escape"
  | byteOrderMark => "Unexpected UTF-8 BOM (decode using utf-8-sig)"
  | number f => f.message

/-- A cause, and how many characters were left where it showed. -/
structure Fault where
  cause : ReadCause
  left : Nat

/-- What a reader gives: a value and the characters after it. -/
abbrev Reading (α : Type) := Except Fault (α × List Char)

/-- The four blanks that may stand between the parts of a value. -/
def isSpace (c : Char) : Bool := c == ' ' || c == '\t' || c == '\n' || c == '\r'

def skipSpace (cs : List Char) : List Char := cs.dropWhile isSpace

def hexValue? (c : Char) : Option Nat :=
  if '0' ≤ c ∧ c ≤ '9' then some (c.toNat - '0'.toNat)
  else if 'a' ≤ c ∧ c ≤ 'f' then some (c.toNat - 'a'.toNat + 10)
  else if 'A' ≤ c ∧ c ≤ 'F' then some (c.toNat - 'A'.toNat + 10)
  else none

/-- The number that four hexadecimal digits write. -/
def hexUnit? (a b c d : Char) : Option Nat := do
  let a ← hexValue? a
  let b ← hexValue? b
  let c ← hexValue? c
  let d ← hexValue? d
  return ((a * 16 + b) * 16 + c) * 16 + d

/-- The character that a letter after a backslash stands for. -/
def escaped? : Char → Option Char
  | '"' => some '"'
  | '\\' => some '\\'
  | '/' => some '/'
  | 'b' => some '\x08'
  | 'f' => some '\x0c'
  | 'n' => some '\n'
  | 'r' => some '\r'
  | 't' => some '\t'
  | _ => none

/-- Puts a code point in front of a text that was read. -/
def consPoint (p : Point) (r : Text × List Char) : Text × List Char := (p :: r.1, r.2)

/-- Reads a text up to its closing mark, halves of pairs still apart. -/
def readPoints : List Char → Reading Text
  | [] => .error ⟨.unterminatedText, 0⟩
  | '"' :: rest => .ok ([], rest)
  | ['\\'] => .error ⟨.unterminatedText, 0⟩
  | '\\' :: 'u' :: a :: b :: c :: d :: rest =>
    match hexUnit? a b c d with
    | some n =>
      if rest.isEmpty then .error ⟨.badUnicodeEscape, 5⟩
      else (readPoints rest).map (consPoint (Point.ofCode n))
    | none => .error ⟨.badUnicodeEscape, rest.length + 5⟩
  | '\\' :: 'u' :: rest => .error ⟨.badUnicodeEscape, rest.length + 1⟩
  | '\\' :: c :: rest =>
    match escaped? c with
    | some e => (readPoints rest).map (consPoint (.char e))
    | none => .error ⟨.badEscape, rest.length + 2⟩
  | c :: rest =>
    if c.toNat < 0x20 then .error ⟨.controlCharacter, rest.length + 1⟩
    else (readPoints rest).map (consPoint (.char c))

/-- The fault of a text: one that does not end is reported where it starts. -/
def textFault (rest : List Char) (f : Fault) : Fault :=
  match f.cause with
  | .unterminatedText => ⟨.unterminatedText, rest.length + 1⟩
  | _ => f

/-- Reads a text after its opening mark. -/
def readText (rest : List Char) : Reading Text :=
  match readPoints rest with
  | .error f => .error (textFault rest f)
  | .ok (t, after) => .ok (Text.joinHalves t, after)

def isDigit (c : Char) : Bool := '0' ≤ c && c ≤ '9'

def digitValues (cs : List Char) : List Nat := cs.map fun c => c.toNat - '0'.toNat

/-- Takes the digits of a whole part: one zero, or digits that start with another one. -/
def takeWholePart : List Char → List Char × List Char
  | [] => ([], [])
  | c :: rest =>
    if c == '0' then (['0'], rest)
    else if isDigit c then (c :: rest.takeWhile isDigit, rest.dropWhile isDigit)
    else ([], c :: rest)

/-- Takes a point and the digits after it; without a digit nothing is taken. -/
def takeFraction : List Char → Option (List Char × List Char)
  | '.' :: rest =>
    if (rest.takeWhile isDigit).isEmpty then none
    else some (rest.takeWhile isDigit, rest.dropWhile isDigit)
  | _ => none

/-- Takes an optional sign and digits; true means minus. -/
def takeSignedDigits (cs : List Char) : Option ((Bool × List Char) × List Char) :=
  let (negative, body) := match cs with
    | '-' :: rest => (true, rest)
    | '+' :: rest => (false, rest)
    | rest => (false, rest)
  if (body.takeWhile isDigit).isEmpty then none
  else some ((negative, body.takeWhile isDigit), body.dropWhile isDigit)

/-- Takes a power of ten; without a digit nothing is taken. -/
def takeExponent : List Char → Option ((Bool × List Char) × List Char)
  | c :: rest => if c == 'e' || c == 'E' then takeSignedDigits rest else none
  | [] => none

/-- A whole number from its digits, refused when there are too many of them. -/
def wholeOf (negative : Bool) (ds : List Char) : Except WholeFault Json :=
  if ds.length > maxDigits then .error (.tooLong ds.length)
  else .ok (whole (Binary.signed negative (ofDigits (digitValues ds))))

/-- A floating-point number from the digits of its three parts. -/
def realOf (negative : Bool) (ds fraction : List Char) (power : Bool × List Char) : Json :=
  let shift := Binary.signed power.1 (ofDigits (digitValues power.2))
  real (Binary.ofDecimal negative (ofDigits (digitValues (ds ++ fraction)))
    (shift - (fraction.length : Int)))

/-- Reads a number after its sign. A fault is reported where the number starts, sign included. -/
def readNumber (negative : Bool) (cs : List Char) : Reading Json :=
  let fault := fun (cause : ReadCause) =>
    Except.error ⟨cause, cs.length + (if negative then 1 else 0)⟩
  let (ds, rest) := takeWholePart cs
  if ds.isEmpty then fault .expectingValue
  else
    let (fraction, afterFraction) := match takeFraction rest with
      | some (f, r) => (some f, r)
      | none => (none, rest)
    match takeExponent afterFraction, fraction with
    | some (power, r), f => .ok (realOf negative ds (f.getD []) power, r)
    | none, some f => .ok (realOf negative ds f (false, []), afterFraction)
    | none, none =>
      match wholeOf negative ds with
      | .ok v => .ok (v, rest)
      | .error f => fault (.number f)

mutual

/-- Reads one value. -/
def readValue : Nat → List Char → Reading Json
  | 0, cs => .error ⟨.expectingValue, cs.length⟩
  | fuel + 1, cs =>
    match cs with
    | '"' :: rest => (readText rest).map fun r => (text r.1, r.2)
    | '\x7b' :: rest =>
      match skipSpace rest with
      | '\x7d' :: after => .ok (object [], after)
      | inside => (readMembers fuel inside).map fun r => (object (settle r.1), r.2)
    | '[' :: rest =>
      match skipSpace rest with
      | ']' :: after => .ok (list [], after)
      | inside => (readItems fuel inside).map fun r => (list r.1, r.2)
    | 'n' :: 'u' :: 'l' :: 'l' :: rest => .ok (null, rest)
    | 't' :: 'r' :: 'u' :: 'e' :: rest => .ok (bool true, rest)
    | 'f' :: 'a' :: 'l' :: 's' :: 'e' :: rest => .ok (bool false, rest)
    | 'N' :: 'a' :: 'N' :: rest => .ok (real .nan, rest)
    | 'I' :: 'n' :: 'f' :: 'i' :: 'n' :: 'i' :: 't' :: 'y' :: rest =>
      .ok (real (.infinite false), rest)
    | '-' :: 'I' :: 'n' :: 'f' :: 'i' :: 'n' :: 'i' :: 't' :: 'y' :: rest =>
      .ok (real (.infinite true), rest)
    | '-' :: rest => readNumber true rest
    | cs => readNumber false cs

/-- Reads the members of an object up to its closing mark. -/
def readMembers : Nat → List Char → Reading (List (Text × Json))
  | 0, cs => .error ⟨.expectingName, cs.length⟩
  | fuel + 1, cs =>
    match cs with
    | '"' :: rest =>
      match readText rest with
      | .error f => .error f
      | .ok (name, rest) =>
        match skipSpace rest with
        | ':' :: rest =>
          match readValue fuel (skipSpace rest) with
          | .error f => .error f
          | .ok (v, rest) =>
            match skipSpace rest with
            | '\x7d' :: rest => .ok ([(name, v)], rest)
            | ',' :: rest =>
              (readMembers fuel (skipSpace rest)).map fun r => ((name, v) :: r.1, r.2)
            | rest => .error ⟨.expectingComma, rest.length⟩
        | rest => .error ⟨.expectingColon, rest.length⟩
    | cs => .error ⟨.expectingName, cs.length⟩

/-- Reads the items of a list up to its closing mark. -/
def readItems : Nat → List Char → Reading (List Json)
  | 0, cs => .error ⟨.expectingValue, cs.length⟩
  | fuel + 1, cs =>
    match readValue fuel cs with
    | .error f => .error f
    | .ok (v, rest) =>
      match skipSpace rest with
      | ']' :: rest => .ok ([v], rest)
      | ',' :: rest => (readItems fuel (skipSpace rest)).map fun r => (v :: r.1, r.2)
      | rest => .error ⟨.expectingComma, rest.length⟩

end

/-- Reads a whole text as one value. -/
def readChars (cs : List Char) : Except Fault Json :=
  match cs with
  | '\uFEFF' :: _ => .error ⟨.byteOrderMark, cs.length⟩
  | cs =>
    match readValue (2 * cs.length + 2) (skipSpace cs) with
    | .error f => .error f
    | .ok (v, rest) =>
      match skipSpace rest with
      | [] => .ok v
      | rest => .error ⟨.extraData, rest.length⟩

/-- The value a text writes, if it writes one. -/
def read? (s : String) : Option Json := (readChars s.toList).toOption

/-- The report of a fault in a text: the cause and its place. Digits beyond the limit are reported
without a place. -/
def Fault.report (cs : List Char) (f : Fault) : String :=
  let before := cs.take (cs.length - f.left)
  let line := before.count '\n' + 1
  let column := (before.reverse.takeWhile (· != '\n')).length + 1
  match f.cause with
  | .number n => n.message
  | cause => s!"{cause.message}: line {line} column {column} (char {before.length})"

/-- Reads a text, or gives the report of what is wrong with it. -/
def read (s : String) : Except String Json :=
  (readChars s.toList).mapError (Fault.report s.toList)

end Json

end Pressroom
