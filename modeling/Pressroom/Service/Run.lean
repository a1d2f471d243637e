import Pressroom.Service.Handle
import Pressroom.Service.Call

/-!
Runs of the service: clients send requests, calls are made from inside, and the clock moves between
two steps. A client keeps its cookie and the secret it was last given.
-/
namespace Pressroom

open Web

/-- What a client keeps. -/
structure Client where
  cookie : Option Cookie
  secret : Option String

namespace Client

def fresh : Client := ⟨none, none⟩

/-- The secret in an answer, if it gives one. -/
def givenSecret? (r : Response) : Option String :=
  match r.body.bind fun body => body.get? Service.secretField with
  | some (.text t) => some t.shown
  | _ => none

/-- What a client keeps after an answer. -/
def after (c : Client) (r : Response) : Client where
  cookie := match r.cookie with
    | .keep => c.cookie
    | .replace cookie => cookie
  secret := (givenSecret? r).or c.secret

/-- The request as the client sends it: with its cookie, and with its secret if it shows it. -/
def send (c : Client) (r : Request) (showSecret : Bool) : Request :=
  { r with
    cookie := c.cookie
    headers := if showSecret then r.headers ++ [("X-CSRFToken", c.secret.getD "")]
      else r.headers }

end Client

/-- A service with its clients at an instant. -/
structure Run where
  service : Service
  clients : List (String × Client)
  clock : Instant

namespace Run

/-- One thing that happens. -/
inductive Event where
  | request (client : String) (r : Request) (showSecret : Bool)
  | call (c : Call)

/-- What comes of it. -/
inductive Result where
  | response (r : Response)
  | value (outcome : Call.Outcome)

/-- A run that begins. -/
def start (service : Service) (clock : Instant) : Run := ⟨service, [], clock⟩

/-- What a client keeps; one that was never seen keeps nothing. -/
def client (run : Run) (name : String) : Client := (run.clients.lookup name).getD .fresh

/-- Replaces what a client keeps. -/
def setClient (run : Run) (name : String) (c : Client) : Run :=
  { run with clients := (name, c) :: run.clients.filter fun p => p.1 != name }

/-- The run at a later or an earlier instant. -/
def advance (run : Run) (span : Int) : Run := { run with clock := run.clock + span }

/-- Lets one thing happen. -/
def step (run : Run) : Event → Run × Result
  | .request name r showSecret =>
    let client := run.client name
    let (service, response) := run.service.handle run.clock (client.send r showSecret)
    (({ run with service } : Run).setClient name (client.after response), .response response)
  | .call c =>
    let (service, outcome) := c.perform run.service run.clock
    ({ run with service }, .value outcome)

/-- Lets several things happen, each after a span of time. -/
def steps (run : Run) : List (Int × Event) → Run × List Result
  | [] => (run, [])
  | (span, e) :: rest =>
    let (run, result) := (run.advance span).step e
    let (run, results) := run.steps rest
    (run, result :: results)

end Run

end Pressroom
