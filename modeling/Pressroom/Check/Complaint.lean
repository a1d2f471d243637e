/-!
What can be wrong with a value that a caller supplies, and how it is said.
-/
namespace Pressroom

inductive Complaint where
  | missing (field : String)
  | required (what : String)
  | notString (what : String)
  | tooLong (what : String)
  | notEmail
  | permissionsNotInteger
  | permissionsOutOfRange
  | passwordTooShort
  | expiryNotInteger
  | expiryNegative
  deriving DecidableEq

namespace Complaint

/-- The fewest characters of a new password. -/
def passwordMin : Nat := 6

def message : Complaint → String
  | missing field => s!"Missing required field: {field}"
  | required what => s!"{what} is required"
  | notString what => s!"{what} must be a string"
  | tooLong what => s!"{what} is too long"
  | notEmail => "Email must look like name@example.com"
  | permissionsNotInteger => "Permissions must be an integer"
  | permissionsOutOfRange => "Permissions must be a non-negative 63-bit integer"
  | passwordTooShort => s!"Password must be at least {passwordMin} characters"
  | expiryNotInteger => "ExpiresAt must be an integer epoch"
  | expiryNegative => "ExpiresAt must not be negative"

end Complaint

/-- The outcome of a check. -/
abbrev Verdict := Except Complaint Unit

end Pressroom
