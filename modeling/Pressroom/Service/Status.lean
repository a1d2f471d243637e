import Pressroom.Service.Basic

/-!
Handlers that tell how the service is: whether its store can be reached, and how much is in it.
-/
namespace Pressroom

namespace Service

open Web

/-- Whether the store can be reached. -/
def health (s : Service) : Reply :=
  let answer := fun (status : Nat) (word : String) (check : List (String × Json)) =>
    Reply.json status (.ofFields [("status", .string word), ("version", .string version),
      ("checks", .ofFields [("database", .ofFields check)])])
  if s.store.reachable then answer 200 "healthy" [("status", .string "ok")]
  else answer 503 "unhealthy"
    [("status", .string "error"), ("message", .string StoreFault.unreachable.message)]

/-- How many live users and posts there are; none of either if one of them cannot be counted. -/
def contentCounts (s : Store) : Nat × Nat :=
  match s.countUsers false, s.countPosts false with
  | .ok users, .ok posts => (users, posts)
  | _, _ => (0, 0)

/-- The versions of the service and of what it runs on, and how much is in the store. -/
def versions (s : Service) : Reply :=
  let (users, posts) := contentCounts s.store
  .json 200 (.ofFields [("version", .string version), ("python_version", .string s.platform),
    ("api_version", .string "v1"), ("users", .whole users), ("posts", .whole posts)])

end Service

end Pressroom
