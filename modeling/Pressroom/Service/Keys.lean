import Pressroom.Service.Basic
import Pressroom.Check.Field

/-!
Handlers for API keys. All of them are for administrators. The token of a key is shown once, in the
answer that issues it.
-/
namespace Pressroom

namespace Service

open Web

/-- The live keys, or those of one owner. -/
def listKeys (s : Service) (v : Visit) : Service × Reply :=
  s.guarded v Registry.adminName fun _ =>
    let found := match v.request.parameter? "owner" with
      | some owner => s.store.listKeysOf (some (Text.ofString owner))
      | none => s.store.listKeys false
    match found with
    | .error _ => (s, .error 500 "Failed to list keys")
    | .ok keys => (s, .json 200 (.list (keys.map fun k => k.keyRecord.publicJson)))

def secondsPerDay : Int := 86400

/-- The most days a key can be issued for. -/
def maxDays : Int := 36500

/-- The whole number that a value stands for: the whole part of a number, or the number that a text
writes. -/
def wholePart? : Json → Option Int
  | .whole n => some n
  | .real x => x.truncate?
  | .text t => (readWhole t).toOption
  | _ => none

/-- Reads when a key is to expire, given as a number of days; null stands for never. -/
def readExpiry (now : Instant) (v : Json) : Except String (Option Int) :=
  match v with
  | .null => .ok none
  | v =>
    match wholePart? v with
    | none => .error "Invalid expires_days value"
    | some days =>
      if 1 ≤ days && days ≤ maxDays then
        .ok (some (Cookie.secondsOf now + days * secondsPerDay))
      else .error s!"expires_days must be between 1 and {maxDays}"

/-- What the owner of a new key is: a live user by address. -/
def readOwner (s : Store) (owner : Json) : Except Reply Text :=
  match Check.email owner with
  | .error c => .error (refusal c)
  | .ok () =>
    let email := owner.display
    match s.userByEmail? email false with
    | .error _ => .error .failure
    | .ok none =>
      .error (.json 400 (.ofFields [("error", .text (Text.ofString "No user with email " ++ email))]))
    | .ok (some _) => .ok email

/-- The content of a request that issues a key. None at all stands for an empty object. -/
def readKeyRequest (r : Request) : Except Reply Json :=
  match r.json? with
  | none => .ok (.object [])
  | some .null => .ok (.object [])
  | some data => if data.isObject then .ok data else .error notObject

/-- The owner and the expiry of a new key; the owner is the caller if none is named. -/
def readNewKey (s : Store) (v : Visit) (caller : User) : Except Reply (Text × Option Int) := do
  let data ← readKeyRequest v.request
  let named := data.getD "owner_email"
  let owner ← readOwner s (if named.truthy then named else .string caller.data.email)
  let expires ← (readExpiry v.now (data.getD "expires_days")).mapError (.error 400)
  return (owner, expires)

/-- Issues a key for a live user. -/
def createKey (s : Service) (v : Visit) : Service × Reply :=
  s.guarded v Registry.adminName fun caller =>
    match readNewKey s.store v caller.user with
    | .error reply => (s, reply)
    | .ok (owner, expires) =>
      match s.issueKey v.now (some owner) expires with
      | (s, .error _) => (s, .error 500 "Failed to create key")
      | (s, .ok (key, token)) =>
        (s, .json 201 (.ofFields (key.keyRecord.publicMembers ++ [("Token", .string token),
          ("message", .string "Save this key now - it will not be shown again!")])))

/-- Revokes a live key. -/
def deleteKey (s : Service) (v : Visit) : Service × Reply :=
  s.guarded v Registry.adminName fun _ =>
    match s.store.deleteKey v.key v.now with
    | .error _ => (s, .error 500 "Failed to delete key")
    | .ok (_, false) => (s, .error 404 "Key not found")
    | .ok (store, true) => ({ s with store }, .success)

end Service

end Pressroom
