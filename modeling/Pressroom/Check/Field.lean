import Pressroom.Check.Complaint
import Pressroom.Check.Clean

/-!
Checks of single values: email addresses, permission masks, titles, types, names, passwords and
expiry times. Lengths count code points.
-/
namespace Pressroom

namespace Check

def emailMax : Nat := 100
def titleMax : Nat := 255
def postTypeMax : Nat := 100
def fullnameMax : Nat := 255
def authorIdMax : Nat := 36

/-- The largest permission mask: 63 bits, all set. -/
def permissionsMax : Int := 0x7FFFFFFFFFFFFFFF

/-- What may stand in the parts of an address. -/
def isAddressPoint (p : Point) : Bool := p != .char '@' && !p.isBlank

/-- A dot with at least one code point on each side. -/
def hasInnerDot (t : Text) : Bool := (t.drop 1).dropLast.contains (.char '.')

/-- A name, one `@`, and a domain with a dot inside it; no white space and no other `@`. -/
def isAddress (t : Text) : Bool :=
  match t.dropWhile (· != .char '@') with
  | [] => false
  | _ :: domain =>
    let name := t.takeWhile (· != .char '@')
    !name.isEmpty && name.all isAddressPoint && domain.all isAddressPoint && hasInnerDot domain

/-- The text without one line feed at its very end. -/
def dropFinalNewline (t : Text) : Text :=
  if t.getLast? = some (.char '\n') then t.dropLast else t

/-- Checks an email address by its shape. One line feed at the very end is let through. -/
def email (v : Json) : Verdict :=
  if !v.truthy then .error (.required "Email")
  else match v with
    | .text t =>
      if t.length > emailMax then .error (.tooLong "Email")
      else if isAddress (dropFinalNewline t) then .ok () else .error .notEmail
    | _ => .error (.notString "Email")

/-- Checks a permission mask. -/
def permissions (v : Json) : Verdict :=
  match v with
  | .null => .error (.required "Permissions")
  | .whole n =>
    if n < 0 || permissionsMax < n then .error .permissionsOutOfRange else .ok ()
  | _ => .error .permissionsNotInteger

/-- Checks that a value is a text of at most `max` code points. -/
def textUpTo (what : String) (max : Nat) (v : Json) : Verdict :=
  match v with
  | .text t => if t.length > max then .error (.tooLong what) else .ok ()
  | _ => .error (.notString what)

def title (v : Json) : Verdict := textUpTo "Title" titleMax v

def postType (v : Json) : Verdict := textUpTo "Type" postTypeMax v

def authorId (v : Json) : Verdict := textUpTo "AuthorID" authorIdMax v

def fullname (v : Json) : Verdict :=
  if v.truthy then textUpTo "Fullname" fullnameMax v else .error (.required "Fullname")

/-- Checks a new password before it is hashed. -/
def password (v : Json) : Verdict :=
  if !v.truthy then .error (.required "Password")
  else match v with
    | .text t => if t.length < Complaint.passwordMin then .error .passwordTooShort else .ok ()
    | _ => .error (.notString "Password")

/-- Checks an expiry in seconds since the beginning of 1970. -/
def expiresAt (v : Json) : Verdict :=
  match v with
  | .whole n => if n < 0 then .error .expiryNegative else .ok ()
  | _ => .error .expiryNotInteger

/-- A value that counts as not supplied: null or an empty text. -/
def isBlankValue : Json → Bool
  | .null => true
  | .text [] => true
  | _ => false

/-- Checks that every one of the fields is supplied, and names the first that is not. -/
def requiredFields (data : Json) : List String → Verdict
  | [] => .ok ()
  | field :: rest =>
    if isBlankValue (data.getD field) then .error (.missing field) else requiredFields data rest

end Check

end Pressroom
