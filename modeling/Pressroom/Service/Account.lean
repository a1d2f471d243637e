import Pressroom.Store.Users
import Pressroom.Store.Keys
import Pressroom.Secret.Password
import Pressroom.Secret.Sha256
import Pressroom.Record.Check
import Pressroom.Service.Fresh

/-!
Who somebody is: users by address and password, and the owners of API keys. Of a token only the
digest is kept, so a token that is presented is looked up by its digest.
-/
namespace Pressroom

namespace Account

/-- The digest that is kept of a token. -/
def tokenDigest (token : String) : String := Sha256.hex token

/-- Whether a digest is the digest of a token. -/
def tokenMatches (token digest : String) : Bool := tokenDigest token == digest

/-- Why nobody can be authenticated. -/
inductive LoginFault where
  | store (fault : StoreFault)
  | passwordNotText

/-- The live user with an address and a password, if the password is right. -/
def authenticate (s : Store) (email : Text) (password : Json) :
    Except LoginFault (Option User) :=
  match s.userByEmail? email false with
  | .error f => .error (.store f)
  | .ok none => .ok none
  | .ok (some user) =>
    match password with
    | .text p => .ok (if Password.check p user.data.password then some user else none)
    | _ => .error .passwordNotText

/-- Why a token is not accepted. -/
inductive Refusal where
  | invalid
  | expired
  | ownerMissing
  deriving DecidableEq

def Refusal.label : Refusal → String
  | invalid => "invalid"
  | expired => "expired"
  | ownerMissing => "owner-missing"

/-- Whether a token has the form that tokens have. -/
def isTokenLike (token : String) : Bool := token.startsWith tokenMark

/-- Whether a key has expired; `reached` says of a time in seconds whether it has come. -/
def hasExpired (key : ApiKey) (reached : Int → Bool) : Bool := key.data.expires.any reached

/-- The live user whose key it is. -/
def ownerOf (s : Store) (key : ApiKey) : StoreResult (Except Refusal User) :=
  match key.data.owner with
  | none => .ok (.error .ownerMissing)
  | some owner =>
    if owner = "" then .ok (.error .ownerMissing)
    else match s.userByEmail? (Text.ofString owner) false with
      | .error f => .error f
      | .ok none => .ok (.error .ownerMissing)
      | .ok (some user) => .ok (.ok user)

/-- The live user to whom the live key of a token belongs. -/
def resolve (s : Store) (token : String) (reached : Int → Bool) :
    StoreResult (Except Refusal User) :=
  if !isTokenLike token then .ok (.error .invalid)
  else match s.keyByDigest? (some (Text.ofString (tokenDigest token))) with
    | .error f => .error f
    | .ok none => .ok (.error .invalid)
    | .ok (some key) =>
      if hasExpired key reached then .ok (.error .expired) else ownerOf s key

/-- Whether a time in seconds has come at an instant. -/
def reachedAt (now : Instant) (seconds : Int) : Bool := seconds * microsPerSecond ≤ now

/-- Adds a key for a token. -/
def issue (s : Store) (id token : String) (now : Instant) (owner : Option Text)
    (expires : Option Int) : StoreResult (Store × ApiKey) :=
  s.createKey id now ⟨some (Text.ofString (tokenDigest token)), owner, expires⟩

end Account

end Pressroom
