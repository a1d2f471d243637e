import Pressroom.Store.Users
import Pressroom.Store.Posts
import Pressroom.Json.Writer

/-!
Changes of rows by the names of columns. A column that cannot be changed is refused, whatever else
is asked for.
-/
namespace Pressroom

namespace Store

/-- A value as a column of texts keeps it. This is what the database does with a text, with null and
with a truth value; such a column is given no other kinds of values, and here they are kept as they are
displayed, which the database does not do. -/
def textCell : Json → Option Text
  | .null => none
  | .bool b => some (Text.ofString (if b then "1" else "0"))
  | v => some v.display

/-- A value as a column of whole numbers keeps it. This is what the database does with a whole number of
sixty-four bits (a longer one is refused when it is bound), with null and with a truth value; such a
column is given no other kinds of values, and here they are missing, which the database does not do. -/
def wholeCell : Json → Option Int
  | .whole n => some n
  | .bool b => some (if b then 1 else 0)
  | _ => none

/-- The names that are none of the columns, in order. -/
def unknownNames (columns : List String) (given : Json) : List String :=
  let unknown := given.names.filter fun n => !columns.any fun c => Text.ofString c == n
  (unknown.mergeSort Json.nameLe).map Text.shown

/-- Refuses names that are none of the columns. -/
def knownOnly (noun : String) (columns : List String) (given : Json) : StoreResult Unit :=
  match unknownNames columns given with
  | [] => .ok ()
  | names => .error (.unknownColumns noun names)

def userColumns : List String := ["fullname", "email", "permissions"]

/-- The changes of a user that an object asks for. -/
def userChanges (given : Json) : StoreResult UserChanges := do
  knownOnly "user" userColumns given
  return ⟨(given.get? "fullname").map textCell, (given.get? "email").map textCell,
    (given.get? "permissions").map wholeCell⟩

def postColumns : List String := ["type", "body", "title", "author_id"]

/-- The changes of a post that an object asks for. -/
def postChanges (given : Json) : StoreResult PostChanges := do
  knownOnly "post" postColumns given
  let change := fun (column : String) => (given.get? column).map textCell
  return ⟨change "type", change "body", change "title", change "author_id"⟩

end Store

end Pressroom
