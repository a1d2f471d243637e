import Pressroom.Proofs.Service.Reach

/-!
A request that is refused changes nothing, whatever state the service has come into, and neither does
a request that only asks. The change of a user is left out: it stores the password by itself, after
everything else.
-/
namespace Pressroom

namespace Service

open Web

variable {s m : Service} {now : Instant} {r : Request} {e : Endpoint} {v : Visit}

/-- What arrives at a handler other than the change of a user is refused without a change. -/
theorem arrived_refused (hs : s.store.Sound) (hnow : InEra now)
    (h : s.arrival? now r = some (m, e, v)) (he : e ≠ .updateUser)
    (hrefused : ¬ Successful (s.handle now r).2.status) :
    (s.handle now r).1.store = s.store := by
  obtain ⟨hleft, hstatus⟩ := handle_arrived h
  have hm := (arrival?_same h).store
  have hv := (arrival?_visit h).1
  have hsettles : m.Settles v (m.dispatch e v) :=
    dispatch_settles (by rw [hm]; exact hs) (by rw [hv]; exact hnow) he
  rw [hstatus] at hrefused
  rcases hsettles with hsame | ⟨-, hsuccess⟩
  · rw [hleft, hsame, hm]
  · exact absurd hsuccess hrefused

/-- What arrives at a handler that only reads is answered without a change. -/
theorem arrived_asked (h : s.arrival? now r = some (m, e, v)) (he : e.isAsked = true) :
    (s.handle now r).1.store = s.store := by
  rw [(handle_arrived h).1, asked_store he, (arrival?_same h).store]

/-- In every state that a service gets into, a request other than the change of a user leaves all
tables alone unless it is answered with success, and one that only asks leaves them alone always. -/
theorem refused_changes_nothing {policy : Policy} {settings : Settings} {platform : String}
    {begin : Instant} {first : Service} (hbegin : InEra begin)
    (hstart : start policy settings platform begin = .ok first) (hreach : first.Reaches s)
    (hnow : InEra now) (r : Request) :
    ((∀ id, find r.target.path r.method ≠ .handler .updateUser id) →
        ¬ Successful (s.handle now r).2.status → (s.handle now r).1.store = s.store) ∧
      (r.method = "GET" ∨ r.method = "HEAD" → (s.handle now r).1.store = s.store) := by
  have hs := (hreach.sound (start_sound hbegin hstart)).store
  cases h : s.arrival? now r with
  | none => exact ⟨fun _ _ => (handle_turned_away h).store, fun _ => (handle_turned_away h).store⟩
  | some arrival =>
    obtain ⟨m, e, v⟩ := arrival
    have hfound := arrival?_found h
    constructor
    · intro hother hrefused
      have he : e ≠ .updateUser := fun he => hother v.id (he ▸ hfound)
      exact arrived_refused hs hnow h he hrefused
    · intro hasked
      exact arrived_asked h (find_get hfound hasked)

/-- A stranger may neither delete a post nor read one that is not there. -/
theorem refused_changes_nothing_stranger :
    ∃ first, start (.ofProfile .testing .standard) .standard "" 0 = .ok first ∧
      (first.handle 0 (strangerRequest "DELETE")).2.status = 401 ∧
      (first.handle 0 (strangerRequest "DELETE")).1.store = first.store ∧
      (first.handle 0 (strangerRequest "GET")).2.status = 404 ∧
      (first.handle 0 (strangerRequest "GET")).1.store = first.store := by
  have hfound : find "/posts/1".toList "DELETE" = .handler .deletePost "1" := by decide +kernel
  obtain ⟨first, hstart, hdelete, hget⟩ :
      ∃ first, start (.ofProfile .testing .standard) .standard "" 0 = .ok first ∧
        (first.handle 0 (strangerRequest "DELETE")).2.status = 401 ∧
        (first.handle 0 (strangerRequest "GET")).2.status = 404 :=
    ⟨_, rfl, by decide +kernel, by decide +kernel⟩
  have hrule := refused_changes_nothing inEra_zero hstart .refl inEra_zero
  refine ⟨first, hstart, hdelete, (hrule _).1 (fun id h => ?_) ?_, hget, (hrule _).2 (.inl rfl)⟩
  · cases hfound.symm.trans h
  · rw [hdelete]; rintro ⟨-, h⟩; omega

end Service

end Pressroom
