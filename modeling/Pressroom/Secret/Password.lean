import Pressroom.Secret.Blowfish
import Pressroom.Text.Utf8

/-!
Password hashes. A hash is `$`, the scheme, `$`, two digits of cost, `$`, twenty-two characters of
salt and thirty-one of digest. A password is right for a hash if hashing it with the hash's own
scheme, cost and salt writes the same hash again.
-/
namespace Pressroom

namespace Password

/-- The sixty-four characters that write six bits each. -/
def alphabet : List Char :=
  "./ABCDEFGHIJKLMNOPQRSTUVWXYZabcdefghijklmnopqrstuvwxyz0123456789".toList

def sixBits (n : Nat) : Char := alphabet.getD (n % 64) '.'

/-- Writes bytes six bits at a time, the last group filled up with zeros. -/
def encode : List Nat → List Char
  | [] => []
  | [a] => [sixBits (a / 4), sixBits (a % 4 * 16)]
  | [a, b] => [sixBits (a / 4), sixBits (a % 4 * 16 + b / 16), sixBits (b % 16 * 4)]
  | a :: b :: c :: rest =>
    sixBits (a / 4) :: sixBits (a % 4 * 16 + b / 16) :: sixBits (b % 16 * 4 + c / 64) ::
      sixBits (c % 64) :: encode rest

/-- The bytes that groups of four values of six bits hold; bits left over are dropped. -/
def joinSixes : List Nat → List Nat
  | a :: b :: c :: d :: rest =>
    (a * 4 + b / 16) :: (b % 16 * 16 + c / 4) :: (c % 4 * 64 + d) :: joinSixes rest
  | [a, b, c] => [a * 4 + b / 16, b % 16 * 16 + c / 4]
  | [a, b] => [a * 4 + b / 16]
  | _ => []

/-- Reads what `encode` writes, unless a character is none of the sixty-four. -/
def decode? (cs : List Char) : Option (List Nat) :=
  (cs.mapM fun c => (alphabet.idxOf? c)).map joinSixes

/-- The words that are enciphered: the ASCII text `OrpheanBeholderScryDoubt`. -/
def plainWords : List (UInt32 × UInt32) :=
  [(0x4F727068, 0x65616E42), (0x65686F6C, 0x64657253), (0x63727944, 0x6F756274)]

def wordBytes (w : UInt32) : List Nat :=
  [24, 16, 8, 0].map fun s => w.toNat / twoTo s % 256

/-- The twenty-three bytes of digest of a password's bytes. -/
def digest (cost : Nat) (salt password : List Nat) : List Nat :=
  let bytes := fun (ns : List Nat) => (ns.map UInt8.ofNat).toArray
  let boxes := Blowfish.schedule cost (bytes salt) (bytes (password ++ [0]))
  (plainWords.flatMap fun p =>
    let (l, r) := Blowfish.encipherMany boxes p.1 p.2
    wordBytes l ++ wordBytes r).take 23

/-- What a hash says of itself: the scheme, the cost, and the bytes of the salt. -/
structure Header where
  scheme : String
  cost : Nat
  salt : List Nat

/-- A number written with two digits. -/
def twoDigits (n : Nat) : String := String.ofList [Nat.digitChar (n / 10 % 10), Nat.digitChar (n % 10)]

/-- The text of a hash. -/
def write (h : Header) (digest : List Nat) : String :=
  s!"${h.scheme}${twoDigits h.cost}$" ++ String.ofList (encode h.salt ++ encode digest)

/-- The longest password in bytes. -/
def maxBytes : Nat := 72

/-- Why a password cannot be hashed. -/
inductive Fault where
  | unencodable
  | tooLong
  deriving DecidableEq

def Fault.message : Fault → String
  | unencodable => "surrogates not allowed"
  | tooLong => "password cannot be longer than 72 bytes, truncate manually if necessary "
      ++ "(e.g. my_password[:72])"

/-- Hashes a password with a given header. -/
def hashWith (h : Header) (password : Text) : Except Fault String :=
  match password.string? with
  | none => .error .unencodable
  | some s =>
    let bytes := utf8 s
    if bytes.length > maxBytes then .error .tooLong
    else .ok (write h (digest h.cost h.salt bytes))

/-- The schemes that are told apart by name only. -/
def schemes : List String := ["2a", "2b", "2y"]

/-- Reads the header of a hash. -/
def readHeader? (hash : String) : Option Header :=
  match hash.toList.splitOn '$' with
  | [[], scheme, cost, body] =>
    match decode? (body.take 22) with
    | some salt =>
      let c := Nat.ofDigitChars 10 cost 0
      if schemes.contains (String.ofList scheme) && cost.all Char.isDigit && 4 ≤ c && c ≤ 31
          && salt.length == 16 then some ⟨String.ofList scheme, c, salt⟩
      else none
    | none => none
  | _ => none

/-- Whether a password is right for a stored hash. A text that is no hash is right for none. -/
def check (password : Text) (hash : String) : Bool :=
  match readHeader? hash with
  | none => false
  | some h =>
    match hashWith h password with
    | .error _ => false
    | .ok written => written == hash

/-- The cost of the hashes that are made here. -/
def newCost : Nat := 4

/-- The salt of the hashes that are made here: the bytes that `abcdefghijklmnopqrstuu` writes. -/
def newHeader : Header :=
  ⟨"2b", newCost, (decode? "abcdefghijklmnopqrstuu".toList).getD []⟩

/-- Hashes a password for storing. -/
def hash (password : Text) : Except Fault String := hashWith newHeader password

end Password

end Pressroom
