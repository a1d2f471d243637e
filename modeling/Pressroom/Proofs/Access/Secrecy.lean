import Pressroom.Proofs.Service.Seed
import Pressroom.Proofs.Service.Veil

/-!
Secrets never get into an answer. Two services may differ in every hash of a password and every
digest of a token: a request that asks for none of them gets the same answer from both, and leaves
them with no other difference. The way to a handler does not look at the store at all, and what the
handlers do is the same over the veiled service.
-/
namespace Pressroom

open Web

namespace Service

variable {s : Service}

/-- Two services that differ in the hashes of passwords and the digests of tokens at most. -/
def SameButSecrets (s t : Service) : Prop := s.veil = t.veil

/-- A request without a token of a key that neither logs in nor changes the own password. -/
structure AsksNoSecret (r : Request) : Prop where
  keyless : r.headerFilled? keyHeader = none
  noLogin : ∀ id, find r.target.path r.method ≠ .handler .login id
  noChange : ∀ id, find r.target.path r.method ≠ .handler .changePassword id

theorem handle_veil {now : Instant} {r : Request} (hr : AsksNoSecret r)
    (hissue : ∀ id, find r.target.path r.method = .handler .createKey id → s.TokenUnused) :
    unseen (s.veil.handle now r) = unseen (s.handle now r) := by
  cases harrival : s.arrival? now r with
  | none =>
    have hstore : (s.answer now r).1.store = s.store := (answer_turned_away harrival).same.store
    rw [handle, handle, veil, answer_withStore _ harrival, ← hstore]
    exact congrArg (fun x => ((s.answer now r).1.withStore x, _)) (Store.veil_veil _)
  | some arrival =>
    obtain ⟨m, e, v⟩ := arrival
    have hfound := arrival?_found harrival
    have hsame := arrival?_same harrival
    obtain ⟨-, hrequest, -⟩ := arrival?_visit harrival
    have harrivalV : s.veil.arrival? now r = some (m.veil, e, v) := by
      rw [veil, arrival?_withStore _ harrival, ← hsame.store]
      rfl
    have hunused : e = .createKey → m.TokenUnused := by
      rintro rfl
      rw [TokenUnused, hsame.store, hsame.fresh]
      exact hissue v.id hfound
    have hdiscreet : unseen (m.veil.dispatch e v) = unseen (m.dispatch e v) :=
      discreet_dispatch (by rw [hrequest]; exact hr.keyless)
        (by rintro rfl; exact hr.noLogin v.id hfound)
        (by rintro rfl; exact hr.noChange v.id hfound) hunused
    rw [handle, handle, answer_arrived harrival, answer_arrived harrivalV]
    obtain ⟨a, b, reply, hx, hy, hleft⟩ := unseen_eq hdiscreet
    -- The headers of the response go by the policy of the service that is left.
    have hpolicy : a.veil.policy = b.veil.policy := by rw [hleft]
    rw [hx, hy]
    dsimp only [unseen]
    rw [hleft, show a.policy = b.policy from hpolicy]

/-- Two services that differ in secrets at most give one answer to a request that asks for none of
them, and still differ in secrets at most afterwards. A key can be asked for as well, as long as its
digest is that of no key in either of them. -/
theorem secrets_never_answered {s t : Service} (h : SameButSecrets s t) {now : Instant} {r : Request}
    (hr : AsksNoSecret r) (hissue : ∀ id, find r.target.path r.method = .handler .createKey id →
      s.TokenUnused ∧ t.TokenUnused) :
    (s.handle now r).2 = (t.handle now r).2 ∧
      SameButSecrets (s.handle now r).1 (t.handle now r).1 := by
  have hs : unseen (s.veil.handle now r) = unseen (s.handle now r) :=
    handle_veil hr fun id hfound => (hissue id hfound).1
  have ht : unseen (t.veil.handle now r) = unseen (t.handle now r) :=
    handle_veil hr fun id hfound => (hissue id hfound).2
  rw [SameButSecrets] at h
  rw [h] at hs
  obtain ⟨hleft, hanswer⟩ := Prod.mk.inj (hs.symm.trans ht)
  exact ⟨hanswer, hleft⟩

/-! ### Other passwords -/

/-- The service with the same text in place of every hash. -/
def withHashes (s : Service) (hash : String) : Service :=
  s.withStore { s.store with
    users := s.store.users.map (Entry.mapData fun u => { u with password := hash }) }

theorem withHashes_veil (s : Service) (hash : String) : (s.withHashes hash).veil = s.veil := by
  simp only [veil, withHashes, withStore, Store.veil, List.map_map]
  rfl

/-- The first administrator asks for the users. -/
def usersRequest : Request :=
  ⟨"GET", ⟨defaultHost, "/api/users".toList, []⟩, [], false, some seedCookie, none⟩

/-- Whatever stands in place of the hash, the first administrator is shown the same users. -/
theorem secrets_never_answered_users :
    ∃ first, start (.ofProfile .testing .standard) .standard "" 0 = .ok first ∧
      SameButSecrets (first.withHashes "a") (first.withHashes "b") ∧
      (first.withHashes "a").store.users ≠ (first.withHashes "b").store.users ∧
      ((first.withHashes "a").handle 0 usersRequest).2.status = 200 ∧
      ((first.withHashes "a").handle 0 usersRequest).2
        = ((first.withHashes "b").handle 0 usersRequest).2 := by
  obtain ⟨first, hstart, hdiffer, hstatus⟩ :
      ∃ first, start (.ofProfile .testing .standard) .standard "" 0 = .ok first ∧
        (first.withHashes "a").store.users ≠ (first.withHashes "b").store.users ∧
        ((first.withHashes "a").handle 0 usersRequest).2.status = 200 :=
    ⟨_, rfl, by decide +kernel, by decide +kernel⟩
  have hsame : SameButSecrets (first.withHashes "a") (first.withHashes "b") :=
    (withHashes_veil first "a").trans (withHashes_veil first "b").symm
  have hother : ∀ e id, e ≠ .listUsers →
      find usersRequest.target.path usersRequest.method ≠ .handler e id := by
    have hfound : find usersRequest.target.path usersRequest.method = .handler .listUsers "" := by
      decide +kernel
    rintro e id he h
    cases hfound.symm.trans h
    exact he rfl
  have hr : AsksNoSecret usersRequest :=
    ⟨rfl, fun id => hother .login id (by decide), fun id => hother .changePassword id (by decide)⟩
  exact ⟨first, hstart, hsame, hdiffer, hstatus, (secrets_never_answered hsame hr
    fun id h => absurd h (hother .createKey id (by decide))).1⟩

end Service

end Pressroom
