import Pressroom.Web.Target

/-!
Routes. A path is matched piece by piece; a fixed piece goes before a piece that stands for an id.
Paths match exactly, `HEAD` is answered wherever `GET` is, and `OPTIONS` everywhere.
-/
namespace Pressroom

namespace Web

/-- What a request can be for. -/
inductive Endpoint where
  | files
  | health
  | version
  | login
  | logout
  | csrfToken
  | whoami
  | changePassword
  | listPosts
  | trash
  | getPost
  | createPost
  | updatePost
  | deletePost
  | restorePost
  | listUsers
  | getUser
  | createUser
  | updateUser
  | deleteUser
  | listKeys
  | createKey
  | deleteKey
  deriving DecidableEq

/-- A piece of a path: fixed, or an id. -/
inductive Piece where
  | fixed (name : String)
  | id
  deriving DecidableEq

structure Route where
  pieces : List Piece
  methods : List String
  endpoint : Endpoint

namespace Route

/-- The routes. Those with fixed pieces come before those with an id in the same place. -/
def table : List Route :=
  let posts := Piece.fixed "posts"
  let users := [Piece.fixed "api", Piece.fixed "users"]
  let keys := [Piece.fixed "api", Piece.fixed "keys"]
  let api := fun (name : String) => [Piece.fixed "api", Piece.fixed name]
  [⟨[.fixed "health"], ["GET"], .health⟩,
    ⟨api "version", ["GET"], .version⟩,
    ⟨api "login", ["POST"], .login⟩,
    ⟨api "logout", ["POST"], .logout⟩,
    ⟨api "csrf-token", ["GET"], .csrfToken⟩,
    ⟨api "whoami", ["GET"], .whoami⟩,
    ⟨api "user" ++ [.fixed "change-password"], ["POST"], .changePassword⟩,
    ⟨[posts], ["GET"], .listPosts⟩,
    ⟨[posts], ["POST"], .createPost⟩,
    ⟨[posts, .fixed "trash"], ["GET"], .trash⟩,
    ⟨[posts, .id], ["GET"], .getPost⟩,
    ⟨[posts, .id], ["PUT", "PATCH"], .updatePost⟩,
    ⟨[posts, .id], ["DELETE"], .deletePost⟩,
    ⟨[posts, .id, .fixed "restore"], ["POST"], .restorePost⟩,
    ⟨users, ["GET"], .listUsers⟩,
    ⟨users, ["POST"], .createUser⟩,
    ⟨users ++ [.id], ["GET"], .getUser⟩,
    ⟨users ++ [.id], ["PUT", "PATCH"], .updateUser⟩,
    ⟨users ++ [.id], ["DELETE"], .deleteUser⟩,
    ⟨keys, ["GET"], .listKeys⟩,
    ⟨keys, ["POST"], .createKey⟩,
    ⟨keys ++ [.id], ["DELETE"], .deleteKey⟩]

/-- The methods a route answers. -/
def answered (r : Route) : List String :=
  r.methods ++ (if r.methods.contains "GET" then ["HEAD"] else []) ++ ["OPTIONS"]

/-- Matches the parts of a path, and gives the id in it. -/
def matchPieces : List Piece → List String → Option String
  | [], [] => some ""
  | .fixed name :: pieces, part :: parts =>
    if name = part then matchPieces pieces parts else none
  | .id :: pieces, part :: parts =>
    if part = "" then none else (matchPieces pieces parts).map fun _ => part
  | _, _ => none

end Route

/-- What a path and a method lead to. -/
inductive Found where
  | handler (endpoint : Endpoint) (id : String)
  | options (endpoint : Endpoint) (methods : List String)
  | wrongMethod (methods : List String)
  | redirect (path : List Char)
  | nothing
  deriving DecidableEq

/-- The methods for files, of which there are none. -/
def fileMethods : List String := ["GET", "HEAD", "OPTIONS"]

/-- Whether the parts of a path name a file. -/
def isFilePath (parts : List String) : Bool :=
  match parts with
  | "static" :: part :: _ => part != ""
  | _ => false

/-- The routes that match the parts of a path, with the id in it. -/
def matching (parts : List String) : List (Route × String) :=
  Route.table.filterMap fun r => (Route.matchPieces r.pieces parts).map fun id => (r, id)

/-- What the parts of a path and a method lead to, if anything. -/
def findParts (parts : List String) (method : String) : Option Found :=
  if isFilePath parts then
    if method = "OPTIONS" then some (.options .files fileMethods)
    else if fileMethods.contains method then some (.handler .files "")
    else some (.wrongMethod fileMethods)
  else
    let matched := matching parts
    let methods := (matched.flatMap fun m => m.1.answered).eraseDups
    match matched.find? fun m => m.1.answered.contains method with
    | some (r, id) =>
      some (if method = "OPTIONS" then .options r.endpoint methods else .handler r.endpoint id)
    | none => if matched.isEmpty then none else some (.wrongMethod methods)

/-- Each pair of neighbouring slashes as one slash. -/
def mergeSlashes : List Char → List Char
  | '/' :: '/' :: rest => '/' :: mergeSlashes rest
  | c :: rest => c :: mergeSlashes rest
  | [] => []

/-- The parts of a path. -/
def partsOf (path : List Char) : List String :=
  (splitAt '/' (rooted path).tail).map String.ofList

/-- What a path and a method lead to. A path that would match with fewer slashes leads there. -/
def find (path : List Char) (method : String) : Found :=
  match findParts (partsOf path) method with
  | some found => found
  | none =>
    let merged := mergeSlashes (rooted path)
    if merged = rooted path then .nothing
    else match findParts (partsOf merged) method with
      | none => .nothing
      | some (.wrongMethod methods) => .wrongMethod methods
      | some _ => .redirect merged

end Web

end Pressroom
