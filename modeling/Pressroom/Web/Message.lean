import Pressroom.Web.Target
import Pressroom.Web.Session
import Pressroom.Text.Case

/-!
Requests and the answers to them.
-/
namespace Pressroom

namespace Web

/-- The content of a request, and the type it is declared as. The text is what the bytes decode to,
before anything is read from it; bytes that do not decode stand for a text that is no JSON. JSON nests
no deeper than its reader follows. -/
structure Content where
  type : Option String
  text : String

/-- A request. `secure` says whether it came over an encrypted connection. -/
structure Request where
  method : String
  target : Target
  headers : List (String × String)
  secure : Bool
  cookie : Option Cookie
  content : Option Content

namespace Request

/-- Names of headers are the same in every case, and a hyphen is the same as a low line. -/
def headerKey (name : String) : List Char :=
  name.toList.map fun c => if c = '-' then '_' else c.toUpper

/-- The value of a header; values of a repeated header are joined. -/
def header? (r : Request) (name : String) : Option String :=
  match r.headers.filter fun h => headerKey h.1 == headerKey name with
  | [] => none
  | found => some (", ".intercalate (found.map (·.2)))

/-- The value of a header that is there and not empty. -/
def headerFilled? (r : Request) (name : String) : Option String :=
  (r.header? name).filter fun v => v != ""

/-- The host that a request goes to: the one its header names, else that of its target. The number
that such a connection has unless told otherwise is left out. -/
def host (r : Request) : String :=
  let host := ((r.header? "Host").getD r.target.host).toList
  let number := (if r.secure then ":443" else ":80").toList
  String.ofList
    (if number.isSuffixOf host then host.take (host.length - number.length) else host)

/-- The program that sends a request. -/
def agent (r : Request) : String := (r.header? "User-Agent").getD ""

/-- The declared type of the content, without parameters and in small letters. -/
def mediaType (r : Request) : String :=
  match r.content.bind (·.type) with
  | none => ""
  | some type => lowerCase (stripString (String.ofList (type.toList.takeWhile (· != ';'))))

/-- Whether a type is one of JSON. -/
def isJsonType (type : String) : Bool :=
  type == "application/json" || (type.startsWith "application/" && type.endsWith "+json")

/-- The content as JSON, if it is declared as JSON and is JSON. A byte order mark in front does not
count. -/
def json? (r : Request) : Option Json :=
  match r.content with
  | none => none
  | some content =>
    if isJsonType r.mediaType then
      let cs := content.text.toList
      (Json.readChars (if cs.head? = some '\uFEFF' then cs.tail else cs)).toOption
    else none

/-- The content as a JSON object. -/
def object? (r : Request) : Option Json := r.json?.filter Json.isObject

/-- The fields of a form that is sent as one text. A form that is sent in parts is not read. -/
def form (r : Request) : List (String × String) :=
  match r.content with
  | none => []
  | some content =>
    if r.mediaType = "application/x-www-form-urlencoded" then readPairs content.text.toList else []

/-- The parameters of the query. -/
def query (r : Request) : List (String × String) := readPairs r.target.query

/-- A parameter of the query that is there and not empty. -/
def parameter? (r : Request) (name : String) : Option String :=
  (r.query.lookup name).filter fun v => v != ""

end Request

/-- What a handler answers. `session` is the session to send back, if it was changed. -/
structure Reply where
  status : Nat
  body : Option Json
  headers : List (String × String)
  session : Option Session

namespace Reply

/-- An answer in JSON. -/
def json (status : Nat) (body : Json) : Reply := ⟨status, some body, [], none⟩

/-- An answer in JSON that names an error. -/
def error (status : Nat) (message : String) : Reply :=
  json status (.ofFields [("error", .string message)])

/-- An answer whose page carries no JSON. -/
def page (status : Nat) : Reply := ⟨status, none, [], none⟩

/-- A page with a header of its own. -/
def pageWith (status : Nat) (name value : String) : Reply := ⟨status, none, [(name, value)], none⟩

/-- The answer when something fails that nobody foresaw. -/
def failure : Reply := page 500

/-- The answer when something succeeded that has no result. -/
def success : Reply := json 200 (.ofFields [("success", .bool true)])

/-- An answer that changes the session. -/
def withSession (r : Reply) (s : Session) : Reply := { r with session := some s }

end Reply

/-- What happens to the cookie of a client. -/
inductive CookieChange where
  | keep
  | replace (cookie : Option Cookie)

/-- An answer on its way. -/
structure Response where
  status : Nat
  body : Option Json
  headers : List (String × String)
  cookie : CookieChange

end Web

end Pressroom
