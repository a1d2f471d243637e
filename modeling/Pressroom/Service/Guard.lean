import Pressroom.Service.Basic
import Pressroom.Web.Origin

/-!
What a request passes before a handler sees it: the limit on requests, the way to an encrypted
connection, and the secret that guards writes. Also the headers that every answer carries.
-/
namespace Pressroom

namespace Service

open Web

/-- Which limit a request counts for: that of its handler. Logins have a limit of their own. -/
def limitedEndpoint? : Found → Option Endpoint
  | .handler e _ | .options e _ => if e = .login || e = .files then none else some e
  | _ => none

/-- What the limit says of a request. -/
inductive Admission where
  | admitted
  | tooMany
  | broken

/-- Counts a request for a limit. A negative limit is none that could be kept. -/
def countRequest (s : Service) (now : Instant) (found : Found) : Service × Admission :=
  match s.policy.limit, limitedEndpoint? found with
  | some limit, some e =>
    if limit < 0 then (s, .broken)
    else
      let (limiter, within) := s.limiter.hit e now limit.toNat
      ({ s with limiter }, if within then .admitted else .tooMany)
  | _, _ => (s, .admitted)

/-- How many logins a minute may see. -/
def loginLimit : Nat := 10

/-- Counts a login. -/
def countLogin (s : Service) (now : Instant) : Service × Bool :=
  match s.policy.limit with
  | none => (s, true)
  | some _ =>
    let (limiter, within) := s.limiter.hit .login now loginLimit
    ({ s with limiter }, within)

/-- Whether a request came over an encrypted connection, perhaps only up to a proxy. -/
def cameSecurely (r : Request) : Bool :=
  r.secure || r.header? "X-Forwarded-Proto" == some "https"

/-- Where a request is sent that has to be repeated over an encrypted connection. -/
def secureRedirect? (p : Policy) (r : Request) : Option Reply :=
  if p.https && !p.debug && !cameSecurely r then
    some (.pageWith 302 "Location" (Target.address { r.target with host := r.host } true))
  else none

/-- The methods that write. -/
def writeMethods : List String := ["POST", "PUT", "PATCH", "DELETE"]

/-- The name of the secret in forms. -/
def secretField : String := "csrf_token"

/-- The secret that comes with a request: in a form, else in a header. -/
def presentedSecret? (r : Request) : Option String :=
  let filled := fun (v : String) => v != ""
  let form := r.form
  let field? := (form.lookup secretField).filter filled
  let ending? := form.find? fun f => f.1.endsWith secretField
    && filled ((form.lookup f.1).getD "")
  field?.or ((ending?.map fun f => (form.lookup f.1).getD "").or
    ((r.headerFilled? "X-CSRFToken").or (r.headerFilled? "X-CSRF-Token")))

/-- Whether a request carries the secret of its session. -/
def hasSecret (r : Request) (session : Session) : Bool :=
  match presentedSecret? r, session.secret with
  | some presented, some secret => presented == secret
  | _, _ => false

/-- The refusal of a request over an encrypted connection that does not come from a page of the
service itself. -/
def foreignPage? (r : Request) : Option Reply :=
  if !r.secure then none
  else match r.headerFilled? "Referer" with
    | none => some (.page 400)
    | some referer =>
      match Origin.compareSecure referer r.host with
      | .same => none
      | .different => some (.page 400)
      | .broken => some .failure

/-- Whether a request is one for logging in. -/
def isLogin : Found → Bool
  | .handler .login _ | .options .login _ => true
  | _ => false

/-- Whether a request has to carry the secret of its session: it writes, it is no login, and it
presents no token of an API key. -/
def needsSecret (p : Policy) (r : Request) (found : Found) : Bool :=
  p.csrf && (r.headerFilled? keyHeader).isNone && !isLogin found && writeMethods.contains r.method

/-- The refusal of a write that may not come from the client's own will. -/
def forged? (p : Policy) (r : Request) (found : Found) (session : Session) : Option Reply :=
  if !needsSecret p r found then none
  else if !hasSecret r session then some (.page 400)
  else foreignPage? r

/-- The headers that every answer carries. -/
def securityHeaders (p : Policy) (r : Request) : List (String × String) :=
  [("X-Content-Type-Options", "nosniff"), ("X-Frame-Options", "SAMEORIGIN"),
    ("Referrer-Policy", "strict-origin-when-cross-origin")] ++
  (if p.https then [("Content-Security-Policy", "default-src 'self'")] else []) ++
  (if p.https && cameSecurely r then
    [("Strict-Transport-Security", "max-age=31556926; includeSubDomains")] else [])

end Service

end Pressroom
