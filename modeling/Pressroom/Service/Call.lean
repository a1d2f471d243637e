import Pressroom.Service.Basic
import Pressroom.Store.Columns

/-!
Calls: what is asked of the service from inside, without a request. A call is made at an instant and
gives a value, or says why it cannot; a call that fails leaves the store as it was.
-/
namespace Pressroom

open Web

inductive Call where
  | createUser (n : NewUser)
  | getUser (id : Text) (deletedToo : Bool)
  | getUserByEmail (email : Text) (deletedToo : Bool)
  | listUsers (deletedToo : Bool)
  | updateUser (id : Text) (changes : Json)
  | updatePassword (id : Text) (password : Option Text)
  | deleteUser (id : Text)
  | restoreUser (id : Text)
  | countUsers (deletedToo : Bool)
  | createPost (n : PostParts)
  | getPost (id : Text) (deletedToo : Bool)
  | findPost (title : Option Text)
  | listPosts (f : Store.PostFilter)
  | updatePost (id : Text) (changes : Json)
  | deletePost (id : Text)
  | restorePost (id : Text)
  | countPosts (deletedToo : Bool)
  | createKey (n : KeyParts)
  | getKey (id : Text) (deletedToo : Bool)
  | getKeyByDigest (digest : Option Text)
  | listKeys (deletedToo : Bool)
  | listKeysOf (owner : Option Text)
  | deleteKey (id : Text)
  | authenticate (email : Text) (password : Json)
  | issueKey (owner : Option Text) (expires : Option Int)
  | resolveKey (token : String) (moment : Option Json.Amount)
  | registerPermission (name : String)
  | hasPermission (mask : Int) (name : String)
  | setUp
  | dropTable (table : String)
  | wipe (table : String)
  | setTime (table id : String) (column : Store.TimeColumn) (value : Option String)
  | loseStore
  | describeSchema

/-- Why a call fails. -/
inductive CallFault where
  | store (fault : StoreFault)
  | login (fault : Account.LoginFault)
  | permission (fault : Registry.Fault)
  | setUp (fault : Store.SetupFault)

namespace Call

/-- The outcome of a call. -/
abbrev Outcome := Except CallFault Json

/-- A question to the store. -/
def ask {α : Type} (s : Service) (r : StoreResult α) (encode : α → Json) : Service × Outcome :=
  (s, match r with
    | .error f => .error (.store f)
    | .ok a => .ok (encode a))

/-- A change of the store that says whether it found its row. -/
def change (s : Service) : StoreResult (Store × Bool) → Service × Outcome
  | .error f => (s, .error (.store f))
  | .ok (store, found) => ({ s with store }, .ok (.bool found))

/-- A change of the store without an answer. -/
def damage (s : Service) : StoreResult Store → Service × Outcome
  | .error f => (s, .error (.store f))
  | .ok store => ({ s with store }, .ok .null)

/-- An addition that has been made. -/
def added {α : Type} (encode : α → Json) (r : Service × StoreResult α) : Service × Outcome :=
  ask r.1 r.2 encode

def user (u : User) : Json := u.userRecord.toJson
def post (p : Post) : Json := p.postRecord.toJson
def key (k : ApiKey) : Json := k.keyRecord.toJson

/-- A value that may be missing. -/
def option {α : Type} (encode : α → Json) (o : Option α) : Json := o.elim .null encode

def list {α : Type} (encode : α → Json) (xs : List α) : Json := .list (xs.map encode)

def count (n : Nat) : Json := .whole n

/-- Whom a token belongs to, or why it is not accepted. -/
def resolved : Except Account.Refusal User → Json
  | .ok u => .list [user u, .null]
  | .error r => .list [.null, .string r.label]

/-- Whether a time in seconds has come: at a moment that is named, else now. -/
def reached (moment : Option Json.Amount) (now : Instant) : Int → Bool :=
  match moment with
  | some m => fun seconds => Record.atMost (.whole seconds) m
  | none => Account.reachedAt now

/-- Makes a call. -/
def perform (s : Service) (now : Instant) : Call → Service × Outcome
  | createUser n => added user (s.addUser now n)
  | getUser id deletedToo => ask s (s.store.user? id deletedToo) (option user)
  | getUserByEmail email deletedToo => ask s (s.store.userByEmail? email deletedToo) (option user)
  | listUsers deletedToo => ask s (s.store.listUsers deletedToo) (list user)
  | updateUser id given =>
    change s ((Store.userChanges given).bind fun c => s.store.updateUser id now c)
  | updatePassword id password => change s (s.store.updatePassword id now password)
  | deleteUser id => change s (s.store.deleteUser id now)
  | restoreUser id => change s (s.store.restoreUser id now)
  | countUsers deletedToo => ask s (s.store.countUsers deletedToo) count
  | createPost n => added post (s.addPost now n)
  | getPost id deletedToo => ask s (s.store.post? id deletedToo) (option post)
  | findPost title => ask s (s.store.postByTitle? title) (option post)
  | listPosts f => ask s (s.store.listPosts f) (list post)
  | updatePost id given =>
    change s ((Store.postChanges given).bind fun c => s.store.updatePost id now c)
  | deletePost id => change s (s.store.deletePost id now)
  | restorePost id => change s (s.store.restorePost id now)
  | countPosts deletedToo => ask s (s.store.countPosts deletedToo) count
  | createKey n => added key (s.addKey now n)
  | getKey id deletedToo => ask s (s.store.key? id deletedToo) (option key)
  | getKeyByDigest digest => ask s (s.store.keyByDigest? digest) (option key)
  | listKeys deletedToo => ask s (s.store.listKeys deletedToo) (list key)
  | listKeysOf owner => ask s (s.store.listKeysOf owner) (list key)
  | deleteKey id => change s (s.store.deleteKey id now)
  | authenticate email password =>
    (s, match Account.authenticate s.store email password with
      | .error f => .error (.login f)
      | .ok found => .ok (option user found))
  | issueKey owner expires =>
    added (fun (k, token) => .list [key k, .string token]) (s.issueKey now owner expires)
  | resolveKey token moment => ask s (Account.resolve s.store token (reached moment now)) resolved
  | registerPermission name =>
    match s.registry.register name with
    | .error f => (s, .error (.permission f))
    | .ok (bit, registry) => ({ s with registry }, .ok (.whole bit))
  | hasPermission mask name =>
    (s, match s.registry.has mask name with
      | .error f => .error (.permission f)
      | .ok granted => .ok (.bool granted))
  | setUp =>
    match s.setUp now with
    | (s, .error f) => (s, .error (.setUp f))
    | (s, .ok ()) => (s, .ok .null)
  | dropTable table => damage s (s.store.dropTable table)
  | wipe table => damage s (s.store.wipe table)
  | setTime table id column value => damage s (s.store.setTime table id column value)
  | loseStore => ({ s with store := { s.store with reachable := false } }, .ok .null)
  | describeSchema =>
    (s, if s.store.reachable then .ok s.store.schema.describe
      else .error (.store .unreachable))

end Call

end Pressroom
