import Pressroom.Store.Basic

/-!
The table of posts. Any part of a post may be missing, and no two posts have to differ in anything
but their ids.
-/
namespace Pressroom

/-- The parts of a post. -/
structure PostParts where
  type : Option Text
  body : Option Text
  title : Option Text
  author : Option Text

/-- Changes of a post: none leaves a part alone, and a part may be taken away. -/
structure PostChanges where
  type : Option (Option Text)
  body : Option (Option Text)
  title : Option (Option Text)
  author : Option (Option Text)

namespace PostChanges

def none : PostChanges := ⟨.none, .none, .none, .none⟩

def isEmpty (c : PostChanges) : Bool :=
  c.type.isNone && c.body.isNone && c.title.isNone && c.author.isNone

end PostChanges

namespace Store

def bindPost (n : PostParts) : StoreResult PostData := do
  let type ← bindOption n.type
  let body ← bindOption n.body
  let title ← bindOption n.title
  let author ← bindOption n.author
  return ⟨type, body, title, author⟩

/-- Adds a post under a new id. -/
def createPost (s : Store) (id : String) (now : Instant) (n : PostParts) :
    StoreResult (Store × Post) := do
  s.need "posts"
  let data ← bindPost n
  if s.posts.any fun r => r.id == id then .error .conflict
  else .ok ({ s with posts := s.posts ++ [.newRow id data now] }, .newItem id data now)

/-- The post with an id. -/
def post? (s : Store) (id : Text) (deletedToo : Bool) : StoreResult (Option Post) := do
  s.need "posts"
  let id ← bind id
  readRow? (findRow? s.posts deletedToo id)

/-- The oldest live post with exactly this title. -/
def postByTitle? (s : Store) (title : Option Text) : StoreResult (Option Post) := do
  s.need "posts"
  let title ← bindOption title
  let found := (rowsFor s.posts false).filter fun r => title.isSome && r.data.title == title
  readRow? (oldestFirst found).head?

/-- Which posts are listed. -/
structure PostFilter where
  type : Option Text
  author : Option Text
  deletedToo : Bool

/-- The posts that satisfy a filter, newest first. -/
def listPosts (s : Store) (f : PostFilter) : StoreResult (List Post) := do
  s.need "posts"
  let type ← bindOption f.type
  let author ← bindOption f.author
  let found := (rowsFor s.posts f.deletedToo).filter fun r =>
    (type.isNone || r.data.type == type) && (author.isNone || r.data.author == author)
  readRows (newestFirst found)

def countPosts (s : Store) (deletedToo : Bool) : StoreResult Nat := do
  s.need "posts"
  return (rowsFor s.posts deletedToo).length

/-- A change of a part that may be missing, on its way into the store. -/
def bindPart : Option (Option Text) → StoreResult (Option (Option String))
  | none => .ok none
  | some t => (bindOption t).map some

/-- Changes parts of a live post, and says whether there is one. Without changes it only looks. -/
def updatePost (s : Store) (id : Text) (now : Instant) (c : PostChanges) :
    StoreResult (Store × Bool) := do
  if c.isEmpty then
    let found ← s.post? id false
    return (s, found.isSome)
  s.need "posts"
  let type ← bindPart c.type
  let body ← bindPart c.body
  let title ← bindPart c.title
  let author ← bindPart c.author
  let id ← bind id
  match findRow? s.posts false id with
  | none => return (s, false)
  | some _ =>
    let change := fun (p : PostData) =>
      { type := type.getD p.type, body := body.getD p.body, title := title.getD p.title,
        author := author.getD p.author : PostData }
    return ({ s with posts := reviseRow s.posts id (revised now change) }, true)

/-- Deletes a live post, and says whether there was one. -/
def deletePost (s : Store) (id : Text) (now : Instant) : StoreResult (Store × Bool) := do
  s.need "posts"
  let id ← bind id
  match findRow? s.posts false id with
  | none => return (s, false)
  | some _ => return ({ s with posts := reviseRow s.posts id (softDeleted now) }, true)

/-- Brings a deleted post back, and says whether there was one. -/
def restorePost (s : Store) (id : Text) (now : Instant) : StoreResult (Store × Bool) := do
  s.need "posts"
  let id ← bind id
  match findRow? s.posts true id with
  | none => return (s, false)
  | some r =>
    if r.isLive then return (s, false)
    else return ({ s with posts := reviseRow s.posts id (restored now) }, true)

end Store

end Pressroom
