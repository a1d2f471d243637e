import Pressroom.Web.Route

/-!
Which requests a handler sees. A path and a method lead to a handler only by a route of the table
that answers the method, or to the files.
-/
namespace Pressroom

namespace Web

variable {path : List Char} {parts : List String} {method id : String} {e : Endpoint}

theorem findParts_handler (h : findParts parts method = some (.handler e id)) :
    e = .files ∧ method ∈ fileMethods ∨
      ∃ r ∈ Route.table, r.endpoint = e ∧ method ∈ r.answered := by
  rw [findParts] at h
  split at h
  · split at h
    · cases h
    · split at h
      · rename_i hmethod
        cases h
        exact .inl ⟨rfl, by simpa using hmethod⟩
      · cases h
  · dsimp only at h
    split at h
    · rename_i r found hfound
      have hmem := List.mem_of_find?_eq_some hfound
      obtain ⟨route, hroute, hmatch⟩ := List.mem_filterMap.1 hmem
      have hanswered := List.find?_some hfound
      rw [Option.map_eq_some_iff] at hmatch
      obtain ⟨_, -, hpair⟩ := hmatch
      cases hpair
      split at h
      · cases h
      · cases h
        exact .inr ⟨r, hroute, rfl, by simpa using hanswered⟩
    · split at h <;> cases h

theorem find_handler (h : find path method = .handler e id) :
    e = .files ∧ method ∈ fileMethods ∨
      ∃ r ∈ Route.table, r.endpoint = e ∧ method ∈ r.answered := by
  rw [find] at h
  split at h
  · rename_i hfound
    rw [h] at hfound
    exact findParts_handler hfound
  · dsimp only at h
    split at h
    · cases h
    · split at h <;> cases h

/-- The handlers that are asked by `GET` and `HEAD`. -/
def Endpoint.isAsked : Endpoint → Bool
  | .files | .health | .version | .csrfToken | .whoami | .listPosts | .trash | .getPost
  | .listUsers | .getUser | .listKeys => true
  | _ => false

theorem isAsked_of_answered :
    ∀ r ∈ Route.table, ("GET" ∈ r.answered ∨ "HEAD" ∈ r.answered) ↔ r.endpoint.isAsked := by
  decide +kernel

/-- `GET` and `HEAD` lead to no other handlers. -/
theorem find_get (h : find path method = .handler e id) (hget : method = "GET" ∨ method = "HEAD") :
    e.isAsked = true := by
  rcases find_handler h with ⟨rfl, -⟩ | ⟨r, hr, rfl, hanswered⟩
  · rfl
  · rcases hget with rfl | rfl
    · exact (isAsked_of_answered r hr).1 (.inl hanswered)
    · exact (isAsked_of_answered r hr).1 (.inr hanswered)

end Web

end Pressroom
