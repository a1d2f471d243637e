/-!
Values that are new each time: ids of rows, tokens of API keys, and secrets of sessions. Each kind
is numbered by a counter of its own, and different numbers give different texts.
-/
namespace Pressroom

/-- How many values of each kind have been given out. -/
structure Fresh where
  ids : Nat
  tokens : Nat
  secrets : Nat
  deriving DecidableEq

/-- A number in decimal, filled up on the left to a width. -/
def padded (fill : Char) (width n : Nat) : String :=
  let digits := toString n
  String.ofList (List.replicate (width - digits.length) fill) ++ digits

/-- What every token of an API key begins with. -/
def tokenMark : String := "chukfi_"

namespace Fresh

def none : Fresh := ⟨0, 0, 0⟩

/-- The id with a number: thirty-six characters, up to a million million ids. -/
def idText (n : Nat) : String := "00000000-0000-4000-8000-" ++ padded '0' 12 n

/-- The token with a number. -/
def tokenText (n : Nat) : String := tokenMark ++ padded 'A' 43 n

/-- The secret with a number. -/
def secretText (n : Nat) : String := "secret-" ++ padded 'A' 40 n

/-- The id that comes next. -/
def nextId (f : Fresh) : String := idText (f.ids + 1)

/-- The token that comes next. -/
def nextToken (f : Fresh) : String := tokenText (f.tokens + 1)

/-- The secret that comes next. -/
def nextSecret (f : Fresh) : String := secretText (f.secrets + 1)

def usedId (f : Fresh) : Fresh := { f with ids := f.ids + 1 }

def usedToken (f : Fresh) : Fresh := { f with tokens := f.tokens + 1 }

def usedSecret (f : Fresh) : Fresh := { f with secrets := f.secrets + 1 }

end Fresh

end Pressroom
