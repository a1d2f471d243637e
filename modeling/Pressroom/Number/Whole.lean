import Pressroom.Text.Blank
import Pressroom.Text.Digit
import Pressroom.Text.Quoted

/-!
Whole numbers written in decimal: blanks around, an optional sign, and digits of any script with
single low lines between them. More than 4300 digits are refused.
-/
namespace Pressroom

/-- The longest run of decimal digits that is read as a number. -/
def maxDigits : Nat := 4300

/-- Why a text is no whole number. -/
inductive WholeFault where
  | malformed (text : Text)
  | tooLong (digits : Nat)

/-- How many code points of a refused text its report shows. -/
def shownInReport : Nat := 200

def WholeFault.message : WholeFault → String
  | malformed t =>
    "invalid literal for int() with base 10: " ++ Text.shown (t.quoted.take shownInReport)
  | tooLong n =>
    s!"Exceeds the limit ({maxDigits} digits) for integer string conversion: value has {n} digits"
      ++ "; use sys.set_int_max_str_digits() to increase the limit"

/-- What a code point is inside a written number. -/
inductive NumeralMark where
  | digit (d : Nat)
  | lowLine
  | blank
  | plus
  | minus
  | other
  deriving DecidableEq

/-- White space around a number: the separators U+001C to U+001F do not count. -/
def isNumeralBlank (n : Nat) : Bool := isBlankCode n && !(0x1C ≤ n && n ≤ 0x1F)

def NumeralMark.ofPoint (p : Point) : NumeralMark :=
  let n := p.code
  if isNumeralBlank n then blank
  else if n = 0x2B then plus
  else if n = 0x2D then minus
  else if n = 0x5F then lowLine
  else match decimalValue? n with
    | some d => digit d
    | none => other

/-- The number with these decimal digits, first digit first. -/
def ofDigits (ds : List Nat) : Nat := ds.foldl (fun n d => 10 * n + d) 0

/-- Takes digits with single low lines between them off the front. `barAllowed` says whether a low
line may come next. -/
def takeNumeral (barAllowed : Bool) : List NumeralMark → Option (List Nat × List NumeralMark)
  | .digit d :: rest => (takeNumeral true rest).map fun r => (d :: r.1, r.2)
  | .lowLine :: rest => if barAllowed then takeNumeralAfterBar rest else none
  | rest => if barAllowed then some ([], rest) else none
where
  /-- After a low line a digit has to follow. -/
  takeNumeralAfterBar : List NumeralMark → Option (List Nat × List NumeralMark)
    | .digit d :: rest => (takeNumeral true rest).map fun r => (d :: r.1, r.2)
    | _ => none

/-- Takes an optional sign off the front; true means minus. -/
def takeSign : List NumeralMark → Bool × List NumeralMark
  | .minus :: rest => (true, rest)
  | .plus :: rest => (false, rest)
  | rest => (false, rest)

/-- Reads a whole number. -/
def readWhole (t : Text) : Except WholeFault Int :=
  let (negative, body) := takeSign ((t.map NumeralMark.ofPoint).dropWhile (· == .blank))
  match takeNumeral false body with
  | none => .error (.malformed t)
  | some (ds, rest) =>
    if ds.length > maxDigits then .error (.tooLong ds.length)
    else if rest.all (· == .blank) then
      .ok (if negative then -(ofDigits ds : Int) else (ofDigits ds : Int))
    else .error (.malformed t)

end Pressroom
