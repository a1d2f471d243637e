import Pressroom.Service.Account
import Pressroom.Permission.Registry
import Pressroom.Settings.Basic
import Pressroom.Store.Posts
import Pressroom.Store.Setup
import Pressroom.Web.Limiter
import Pressroom.Web.Message
import Pressroom.Web.Route

/-!
The running service: what it insists on, what it stores, and what it has given out and counted. Its
handlers take a visit and give the service as it is afterwards, with an answer.
-/
namespace Pressroom

open Web

/-- What a service insists on. `limit` is how often each handler may be used within a minute. -/
structure Policy where
  csrf : Bool
  limit : Option Int
  https : Bool
  debug : Bool

namespace Policy

/-- The policy of a profile. -/
def ofProfile (p : Profile) (s : Settings) : Policy :=
  match p with
  | .testing => ⟨false, none, s.forceHttps, false⟩
  | .production => ⟨true, some s.ratePerMinute, s.forceHttps, false⟩
  | .development => ⟨true, some s.ratePerMinute, s.forceHttps, true⟩

/-- The policy for tests, with guards switched on one by one. -/
def forTests (csrf limited : Bool) (s : Settings) : Policy :=
  ⟨csrf, if limited then some s.ratePerMinute else none, s.forceHttps, false⟩

end Policy

/-- The state of the service. `platform` is the version of what it runs on. -/
structure Service where
  policy : Policy
  seed : Store.Seed
  platform : String
  store : Store
  registry : Registry
  fresh : Fresh
  limiter : Limiter Endpoint

namespace Service

def version : String := "1.0.0"

/-- The permissions that the handlers ask for, beside that of administrators. -/
def viewPosts : String := "ViewPosts"
def editPosts : String := "EditPosts"

/-- Sets the store up, with an administrator if there are no users. -/
def setUp (s : Service) (now : Instant) : Service × Except Store.SetupFault Unit :=
  match s.store.setUp s.fresh.nextId now s.seed with
  | (store, .error f) => ({ s with store }, .error f)
  | (store, .ok seeded) =>
    ({ s with store, fresh := if seeded then s.fresh.usedId else s.fresh }, .ok ())

/-- Why a service does not start. -/
inductive StartFault where
  | setting (fault : WholeFault)
  | setUp (fault : Store.SetupFault)

/-- A new service over an empty store. -/
def start (policy : Policy) (settings : Settings) (platform : String) (now : Instant) :
    Except StartFault Service :=
  let service : Service := {
    policy
    seed := ⟨settings.adminEmail, settings.adminPassword⟩
    platform
    store := .blank
    registry := Registry.initial.ensureAll [viewPosts, editPosts]
    fresh := .none
    limiter := [] }
  match service.setUp now with
  | (_, .error f) => .error (.setUp f)
  | (service, .ok ()) => .ok service

/-! ### Adding rows -/

/-- Adds a user under the next id, which is used up even if the store refuses. -/
def addUser (s : Service) (now : Instant) (n : NewUser) : Service × StoreResult User :=
  let fresh := s.fresh.usedId
  match s.store.createUser s.fresh.nextId now n with
  | .error f => ({ s with fresh }, .error f)
  | .ok (store, user) => ({ s with fresh, store }, .ok user)

/-- Adds a post in the same way. -/
def addPost (s : Service) (now : Instant) (n : PostParts) : Service × StoreResult Post :=
  let fresh := s.fresh.usedId
  match s.store.createPost s.fresh.nextId now n with
  | .error f => ({ s with fresh }, .error f)
  | .ok (store, post) => ({ s with fresh, store }, .ok post)

/-- Adds a key with a given digest in the same way. -/
def addKey (s : Service) (now : Instant) (n : KeyParts) : Service × StoreResult ApiKey :=
  let fresh := s.fresh.usedId
  match s.store.createKey s.fresh.nextId now n with
  | .error f => ({ s with fresh }, .error f)
  | .ok (store, key) => ({ s with fresh, store }, .ok key)

/-- Issues a key: adds one for the next token and gives the token. -/
def issueKey (s : Service) (now : Instant) (owner : Option Text) (expires : Option Int) :
    Service × StoreResult (ApiKey × String) :=
  let token := s.fresh.nextToken
  let fresh := s.fresh.usedToken.usedId
  match Account.issue s.store s.fresh.nextId token now owner expires with
  | .error f => ({ s with fresh }, .error f)
  | .ok (store, key) => ({ s with fresh, store }, .ok (key, token))

/-! ### Visits -/

/-- One request at one instant, with the session it came with and the id in its path. -/
structure Visit where
  now : Instant
  request : Request
  session : Session
  id : String

/-- The id in the path. -/
def Visit.key (v : Visit) : Text := Text.ofString v.id

/-- The header that carries the token of an API key. -/
def keyHeader : String := "X-API-Key"

/-- The live user of a session. -/
def sessionUser (s : Service) (session : Session) : Option User :=
  match session.user with
  | none => none
  | some id =>
    match s.store.user? (Text.ofString id) false with
    | .ok found => found
    | .error _ => none

/-- Who sends a request, and whether by an API key. -/
structure Caller where
  user : User
  byKey : Bool

/-- Who sends a request. A token that is presented decides alone; without one it is the user of the
session. -/
def caller (s : Service) (v : Visit) : Except Reply Caller :=
  match v.request.headerFilled? keyHeader with
  | some token =>
    if !Account.isTokenLike token then .error (.error 401 "Invalid API key format")
    else match Account.resolve s.store token (Account.reachedAt v.now) with
      | .error _ => .error .failure
      | .ok (.error .expired) => .error (.error 401 "API key expired")
      | .ok (.error _) => .error (.error 401 "Invalid API key")
      | .ok (.ok user) => .ok ⟨user, true⟩
  | none =>
    match s.sessionUser v.session with
    | some user => .ok ⟨user, false⟩
    | none => .error (.error 401 "Authentication required")

/-- Who sends a request, if the permission that is needed is theirs. -/
def permitted (s : Service) (v : Visit) (permission : String) : Except Reply Caller :=
  match s.caller v with
  | .error reply => .error reply
  | .ok caller =>
    match s.registry.has caller.user.data.permissions permission with
    | .error _ => .error .failure
    | .ok false => .error (.error 403 s!"{permission} permission required")
    | .ok true => .ok caller

/-- Does something for a caller with a permission; all others are refused. -/
def guarded (s : Service) (v : Visit) (permission : String)
    (action : Caller → Service × Reply) : Service × Reply :=
  match s.permitted v permission with
  | .error reply => (s, reply)
  | .ok caller => action caller

/-- The refusal of a request whose content is no JSON object. -/
def notObject : Reply := .error 400 "Request body must be a JSON object"

/-- The refusal of a value. -/
def refusal (c : Complaint) : Reply := .error 400 c.message

end Service

end Pressroom
