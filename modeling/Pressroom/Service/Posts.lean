import Pressroom.Service.Basic
import Pressroom.Check.Field

/-!
Handlers for posts. Everyone may read live posts; the deleted ones and every change ask for a
permission.
-/
namespace Pressroom

namespace Service

open Web

/-- The posts in an answer. -/
def postsJson (posts : List Post) : Json := .list (posts.map fun p => p.postRecord.publicJson)

def postReply (status : Nat) (p : Post) : Reply := .json status p.postRecord.publicJson

def postNotFound : Reply := .error 404 "Post not found"

/-- The live posts of the type and the author asked for. -/
def listPosts (s : Service) (v : Visit) : Reply :=
  let asked := fun (name : String) => (v.request.parameter? name).map Text.ofString
  match s.store.listPosts ⟨asked "type", asked "author", false⟩ with
  | .error _ => .error 500 "Failed to fetch posts"
  | .ok posts => .json 200 (postsJson posts)

/-- The deleted posts. -/
def trash (s : Service) (v : Visit) : Service × Reply :=
  s.guarded v viewPosts fun _ =>
    match s.store.listPosts ⟨none, none, true⟩ with
    | .error _ => (s, .failure)
    | .ok posts => (s, .json 200 (postsJson (posts.filter fun p => !p.isLive)))

/-- A live post. -/
def getPost (s : Service) (v : Visit) : Reply :=
  match s.store.post? v.key false with
  | .error _ => .failure
  | .ok none => postNotFound
  | .ok (some p) => postReply 200 p

/-- One part of a post as it is sent: null counts as missing, and every part is cleaned and checked
in its own way. One code point more than allowed is kept so that the check can see it. -/
def cleanPart (key : String) (v : Json) : Except Complaint (Option Text) :=
  let cleaned := fun (t : Text) (max : Nat) (check : Json → Verdict) =>
    let t := t.clean (max + 1)
    (check (.text t)).map fun _ => some t
  match v with
  | .null => .ok none
  | .text t =>
    if key = "Title" then cleaned t Check.titleMax Check.title
    else if key = "Type" then cleaned t Check.postTypeMax Check.postType
    else if key = "AuthorID" then cleaned t Check.authorIdMax Check.authorId
    else .ok (some t)
  | _ => .error (.notString key)

/-- The parts of a new post. -/
def readParts (data : Json) : Except Complaint PostParts := do
  let type ← cleanPart "Type" (data.getD "Type")
  let body ← cleanPart "Body" (data.getD "Body")
  let title ← cleanPart "Title" (data.getD "Title")
  let author ← cleanPart "AuthorID" (data.getD "AuthorID")
  return ⟨type, body, title, author⟩

/-- Whether a part is missing or empty. -/
def isBlankPart : Option Text → Bool
  | none => true
  | some t => t.isEmpty

/-- The parts of a new post, all of them fit, with the caller as author if none is named. -/
def newPost (data : Json) (caller : User) : Except Complaint PostParts :=
  match Check.requiredFields data ["Title"] with
  | .error c => .error c
  | .ok () =>
    match readParts data with
    | .error c => .error c
    | .ok parts =>
      if isBlankPart parts.title then .error (.missing "Title")
      else if isBlankPart parts.author then
        .ok { parts with author := some (Text.ofString caller.id) }
      else .ok parts

/-- Adds a post. -/
def createPost (s : Service) (v : Visit) : Service × Reply :=
  s.guarded v editPosts fun caller =>
    match v.request.object? with
    | none => (s, notObject)
    | some data =>
      match newPost data caller.user with
      | .error c => (s, refusal c)
      | .ok parts =>
        match s.addPost v.now parts with
        | (s, .error _) => (s, .error 500 "Failed to create post")
        | (s, .ok p) => (s, postReply 201 p)

/-- A change of one part: none if the part is not sent. -/
def readChange (data : Json) (key : String) : Except Complaint (Option (Option Text)) :=
  match data.get? key with
  | none => .ok none
  | some v => (cleanPart key v).map some

/-- The changes of a post. -/
def readChanges (data : Json) : Except Complaint PostChanges := do
  let type ← readChange data "Type"
  let body ← readChange data "Body"
  let title ← readChange data "Title"
  let author ← readChange data "AuthorID"
  return ⟨type, body, title, author⟩

/-- Changes the parts of a live post that are sent; a part sent as null is taken away. -/
def updatePost (s : Service) (v : Visit) : Service × Reply :=
  s.guarded v editPosts fun _ =>
    match v.request.object? with
    | none => (s, notObject)
    | some data =>
      match readChanges data with
      | .error c => (s, refusal c)
      | .ok changes =>
        if changes.isEmpty then
          (s, .error 400 "No updatable fields supplied. Use: Type, Body, Title, AuthorID")
        else
          let failed := Reply.error 500 "Failed to update post"
          match s.store.updatePost v.key v.now changes with
          | .error _ => (s, failed)
          | .ok (_, false) => (s, postNotFound)
          | .ok (store, true) =>
            match store.post? v.key false with
            | .ok (some p) => ({ s with store }, postReply 200 p)
            | _ => ({ s with store }, failed)

/-- Deletes a live post. -/
def deletePost (s : Service) (v : Visit) : Service × Reply :=
  s.guarded v editPosts fun _ =>
    match s.store.deletePost v.key v.now with
    | .error _ => (s, .failure)
    | .ok (_, false) => (s, postNotFound)
    | .ok (store, true) => ({ s with store }, .success)

/-- Brings a deleted post back. -/
def restorePost (s : Service) (v : Visit) : Service × Reply :=
  s.guarded v editPosts fun _ =>
    match s.store.restorePost v.key v.now with
    | .error _ => (s, .failure)
    | .ok (_, false) => (s, .error 404 "Deleted post not found")
    | .ok (store, true) =>
      match store.post? v.key false with
      | .ok (some p) => ({ s with store }, postReply 200 p)
      | _ => ({ s with store }, .failure)

end Service

end Pressroom
