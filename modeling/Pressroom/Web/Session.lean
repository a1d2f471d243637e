import Pressroom.Time.Stamp

/-!
Sessions. What the service remembers of a client travels with the client in a signed cookie, which
counts for thirty-one days from the second in which it was issued.
-/
namespace Pressroom

namespace Web

/-- What a session holds: who is logged in, whether by a fresh login, from which program, and the
secret that guards writes. -/
structure Session where
  user : Option String
  fresh : Option Bool
  agent : Option String
  secret : Option String
  deriving DecidableEq

namespace Session

def empty : Session := ⟨none, none, none, none⟩

/-- The session after a login. -/
def login (s : Session) (user agent : String) : Session :=
  { s with user := some user, fresh := some true, agent := some agent }

/-- The session after a logout. The secret stays. -/
def logout (s : Session) : Session := { s with user := none, fresh := none, agent := none }

/-- What looking for the user leaves of a session: one that is used from another program than the
one that logged in is no longer fresh. -/
def look (s : Session) (agent : String) : Session :=
  if s = empty || s.agent = some agent then s else { s with fresh := some false }

end Session

/-- A session on its way, with the second in which it was issued. -/
structure Cookie where
  session : Session
  issued : Int
  deriving DecidableEq

namespace Cookie

/-- How many seconds a cookie counts. -/
def lifetime : Int := 31 * 86400

/-- The full seconds of an instant. -/
def secondsOf (now : Instant) : Int := Int.tdiv now microsPerSecond

/-- The session of a request: that of its cookie as long as the cookie counts, else an empty one. -/
def sessionAt (c : Option Cookie) (now : Instant) : Session :=
  match c with
  | none => .empty
  | some c =>
    let age := secondsOf now - c.issued
    if 0 ≤ age && age ≤ lifetime then c.session else .empty

/-- The cookie that carries a session from now on; an empty session needs none. -/
def issue (s : Session) (now : Instant) : Option Cookie :=
  if s = .empty then none else some ⟨s, secondsOf now⟩

end Cookie

end Web

end Pressroom
