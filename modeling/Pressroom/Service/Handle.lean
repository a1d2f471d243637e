import Pressroom.Service.Guard
import Pressroom.Service.Status
import Pressroom.Service.Login
import Pressroom.Service.Posts
import Pressroom.Service.Users
import Pressroom.Service.Keys

/-!
Answering a request: it passes the guards, its path and method choose a handler, and what the handler
answers is sent back with the session, if that was changed.
-/
namespace Pressroom

namespace Service

open Web

/-- The handler of an endpoint. -/
def dispatch (s : Service) (e : Endpoint) (v : Visit) : Service × Reply :=
  match e with
  | .files => (s, .page 404)
  | .health => (s, s.health)
  | .version => (s, s.versions)
  | .login => (s, s.login v)
  | .logout => (s, s.logout v)
  | .csrfToken => s.csrfToken v
  | .whoami => (s, s.whoami v)
  | .changePassword => s.changePassword v
  | .listPosts => (s, s.listPosts v)
  | .trash => s.trash v
  | .getPost => (s, s.getPost v)
  | .createPost => s.createPost v
  | .updatePost => s.updatePost v
  | .deletePost => s.deletePost v
  | .restorePost => s.restorePost v
  | .listUsers => s.listUsers v
  | .getUser => s.getUser v
  | .createUser => s.createUser v
  | .updateUser => s.updateUser v
  | .deleteUser => s.deleteUser v
  | .listKeys => s.listKeys v
  | .createKey => s.createKey v
  | .deleteKey => s.deleteKey v

/-- Whether a handler looks for the user of the session. -/
def looksAtSession (e : Endpoint) (r : Request) : Bool :=
  match e with
  | .files | .health | .version | .csrfToken | .listPosts | .getPost => false
  | .login | .logout | .changePassword => true
  | _ => (r.headerFilled? keyHeader).isNone

/-- Lets a handler answer, logins only within their limit. A session that was only looked at may
change by that. -/
def serve (s : Service) (now : Instant) (r : Request) (session : Session) (e : Endpoint)
    (id : String) : Service × Reply :=
  let (s, within) := if e = .login then s.countLogin now else (s, true)
  if !within then (s, .page 429)
  else
    let seen := if looksAtSession e r then session.look r.agent else session
    let (s, reply) := s.dispatch e ⟨now, r, seen, id⟩
    (s, if reply.session.isNone && seen ≠ session then reply.withSession seen else reply)

/-- The methods in an answer. -/
def allowHeader (methods : List String) : String := ", ".intercalate methods

/-- Answers a request that has passed the guards. -/
def route (s : Service) (now : Instant) (r : Request) (found : Found) (session : Session) :
    Service × Reply :=
  match found with
  | .handler e id => s.serve now r session e id
  | .options _ methods => (s, .pageWith 200 "Allow" (allowHeader methods))
  | .wrongMethod methods => (s, .pageWith 405 "Allow" (allowHeader methods))
  | .redirect path =>
    let target := { r.target with path, host := lowerCase r.host }
    (s, .pageWith 308 "Location" (target.address r.secure))
  | .nothing => (s, .page 404)

/-- Answers a request that is within the limit. -/
def guardedRoute (s : Service) (now : Instant) (r : Request) (found : Found) (session : Session) :
    Service × Reply :=
  match secureRedirect? s.policy r with
  | some reply => (s, reply)
  | none =>
    match forged? s.policy r found session with
    | some reply => (s, reply)
    | none => s.route now r found session

/-- Answers a request. -/
def answer (s : Service) (now : Instant) (r : Request) : Service × Reply :=
  let found := find r.target.path r.method
  match s.countRequest now found with
  | (s, .tooMany) => (s, .page 429)
  | (s, .broken) => (s, .failure)
  | (s, .admitted) => s.guardedRoute now r found (Cookie.sessionAt r.cookie now)

/-- The type of the content of a reply. -/
def contentType (reply : Reply) : String :=
  if reply.body.isSome then "application/json" else "text/html; charset=utf-8"

/-- The response that carries a reply. -/
def respond (p : Policy) (now : Instant) (r : Request) (reply : Reply) : Response where
  status := reply.status
  body := if r.method = "HEAD" then none else reply.body
  headers := securityHeaders p r ++ ("Content-Type", contentType reply) :: reply.headers
  cookie := match reply.session with
    | none => .keep
    | some session => .replace (Cookie.issue session now)

/-- Handles a request. -/
def handle (s : Service) (now : Instant) (r : Request) : Service × Response :=
  let (s, reply) := s.answer now r
  (s, respond s.policy now r reply)

end Service

end Pressroom
