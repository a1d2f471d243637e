import Pressroom.Proofs.Access.IssuedKey
import Pressroom.Proofs.Web.Origin

/-!
Requests that fail inside. Requests leave nothing behind by which another request could fail, and the
handlers that hash no password never fail. What fails is the way to them, in two places: a limit that is
negative cannot be kept, so that every request that counts for it fails; and a write with the right
secret fails if the page it comes from cannot be read from its `Referer`, while one from a foreign page,
or from none, is refused. `fails_iff` says that there is no third place.
-/
namespace Pressroom

open Web

namespace Service

open Store

variable {s m : Service} {now : Instant} {r : Request} {found : Found} {session : Session}

/-! ### What fails on the way -/

/-- The limit is negative, and the request counts for it. -/
def LimitFails (s : Service) (r : Request) : Prop :=
  ∃ limit, s.policy.limit = some limit ∧ limit < 0 ∧
    (limitedEndpoint? (find r.target.path r.method)).isSome = true

/-- A write over an encrypted connection carries the secret of its session, and the address of the page
it comes from cannot be compared with that of the service; `Origin.compareSecure_eq_broken_iff` says
when that is. -/
structure RefererFails (p : Policy) (r : Request) (session : Session) : Prop where
  write : needsSecret p r (find r.target.path r.method) = true
  secret : hasSecret r session = true
  secure : r.secure = true
  referer : ∃ referer, r.headerFilled? "Referer" = some referer ∧
    Origin.compareSecure referer r.host = .broken

theorem countRequest_broken_iff :
    (s.countRequest now (find r.target.path r.method)).2 = .broken ↔ s.LimitFails r := by
  rw [countRequest, LimitFails]
  cases s.policy.limit with
  | none => simp
  | some limit =>
    cases limitedEndpoint? (find r.target.path r.method) with
    | none => simp
    | some e =>
      dsimp only
      split
      · rename_i hneg; simp [hneg]
      · rename_i hpos
        simp only [Option.some.injEq, exists_eq_left', hpos, false_and, iff_false]
        split <;> rintro ⟨⟩

/-- The guard of writes fails where the page cannot be read, and refuses or lets pass everywhere
else. -/
theorem forged?_fails_iff {p : Policy} :
    (∃ reply, forged? p r (find r.target.path r.method) session = some reply ∧
      reply.status = 500) ↔ RefererFails p r session := by
  constructor
  · rintro ⟨reply, hforged, hstatus⟩
    rw [forged?] at hforged
    split at hforged
    · cases hforged
    · rename_i hneeds
      split at hforged
      · cases hforged; cases hstatus
      · rename_i hsecret
        rw [foreignPage?] at hforged
        split at hforged
        · cases hforged
        · rename_i hsecure
          split at hforged
          · cases hforged; cases hstatus
          · rename_i referer hreferer
            split at hforged
            · cases hforged
            · cases hforged; cases hstatus
            · rename_i hbroken
              exact ⟨by simpa using hneeds, by simpa using hsecret, by simpa using hsecure,
                referer, hreferer, hbroken⟩
  · rintro ⟨hneeds, hsecret, hsecure, referer, hreferer, hbroken⟩
    refine ⟨.failure, ?_, rfl⟩
    rw [forged?, hneeds, hsecret, foreignPage?, hsecure, hreferer]
    dsimp only
    rw [hbroken]
    rfl

/-- The guard of writes fails, and the request has come so far. -/
def GuardFails (s : Service) (now : Instant) (r : Request) : Prop :=
  (s.countRequest now (find r.target.path r.method)).2 = .admitted ∧
    secureRedirect? s.policy r = none ∧ RefererFails s.policy r (Cookie.sessionAt r.cookie now)

theorem secureRedirect?_answers {p : Policy} {reply : Reply} (h : secureRedirect? p r = some reply) :
    reply.status ≠ 500 := by
  rw [secureRedirect?] at h
  split at h <;> cases h
  rintro ⟨⟩

/-- Behind the guards a request fails only if its handler does. -/
theorem route_answers {counted : Service}
    (hcount : s.countRequest now (find r.target.path r.method) = (counted, .admitted))
    (hsecure : secureRedirect? s.policy r = none)
    (hforged : forged? s.policy r (find r.target.path r.method) (Cookie.sessionAt r.cookie now) = none)
    (hfails : (counted.route now r (find r.target.path r.method)
      (Cookie.sessionAt r.cookie now)).2.status = 500) :
    ∃ m e v, s.arrival? now r = some (m, e, v) ∧ (m.dispatch e v).2.status = 500 := by
  have hpolicy := (countRequest_same hcount).policy
  cases hfound : find r.target.path r.method with
  | handler e id =>
    cases hlogin : (if e = .login then counted.countLogin now else (counted, true)) with
    | mk m within =>
      cases within with
      | false =>
        rw [hfound, route, (serve_turned_away _ id hlogin).1] at hfails
        cases hfails
      | true =>
        have harrival := arrival?_of_found hcount hsecure hforged hfound hlogin
        have hstatus := (handle_arrived harrival).2
        have hanswer : (s.handle now r).2.status = 500 := by
          have hrouted : s.answer now r = counted.route now r (find r.target.path r.method)
              (Cookie.sessionAt r.cookie now) := by
            rw [answer, hcount]
            exact guardedRoute_passes (hpolicy ▸ hsecure) (hpolicy ▸ hforged)
          rw [← hrouted] at hfails
          exact hfails
        exact ⟨m, e, _, harrival, hstatus.symm.trans hanswer⟩
  | _ => rw [hfound] at hfails; cases hfails

/-- A request fails on the way, or its handler fails. -/
theorem handle_fails_iff : (s.handle now r).2.status = 500 ↔ s.LimitFails r ∨ s.GuardFails now r ∨
    ∃ m e v, s.arrival? now r = some (m, e, v) ∧ (m.dispatch e v).2.status = 500 := by
  have hstatus : (s.handle now r).2.status = (s.answer now r).2.status := rfl
  have hlimit : (s.countRequest now (find r.target.path r.method)).2 = .broken ↔ s.LimitFails r :=
    countRequest_broken_iff
  rw [hstatus, ← hlimit, GuardFails, ← forged?_fails_iff]
  constructor
  · rw [answer]
    cases hcount : s.countRequest now (find r.target.path r.method) with
    | mk counted admission =>
      have hpolicy := (countRequest_same hcount).policy
      cases admission with
      | broken => simp
      | tooMany => simp [Reply.page]
      | admitted =>
        dsimp only
        cases hsecure : secureRedirect? s.policy r with
        | some reply =>
          rw [guardedRoute_secure (hpolicy ▸ hsecure)]
          simp [secureRedirect?_answers hsecure]
        | none =>
          cases hforged : forged? s.policy r (find r.target.path r.method)
              (Cookie.sessionAt r.cookie now) with
          | some reply =>
            rw [guardedRoute_forged (hpolicy ▸ hsecure) (hpolicy ▸ hforged)]
            intro hfails
            exact .inr (.inl ⟨rfl, rfl, reply, rfl, hfails⟩)
          | none =>
            rw [guardedRoute_passes (hpolicy ▸ hsecure) (hpolicy ▸ hforged)]
            intro hfails
            exact .inr (.inr (route_answers hcount hsecure hforged hfails))
  · rintro (hbroken | ⟨hcount, hsecure, reply, hforged, hfails⟩ | ⟨m, e, v, harrival, hfails⟩)
    · rw [answer]
      cases hcount : s.countRequest now (find r.target.path r.method) with
      | mk counted admission => rw [hcount] at hbroken; cases hbroken; rfl
    · rw [answer]
      cases hcounted : s.countRequest now (find r.target.path r.method) with
      | mk counted admission =>
        have hpolicy := (countRequest_same hcounted).policy
        rw [hcounted] at hcount
        cases hcount
        dsimp only
        rw [guardedRoute_forged (hpolicy ▸ hsecure) (hpolicy ▸ hforged)]
        exact hfails
    · exact (handle_arrived harrival).2.trans hfails

theorem handleAll_reaches (s : Service) (requests : List (Instant × Request))
    (hera : ∀ p ∈ requests, InEra p.1) : s.Reaches (s.handleAll requests) := by
  induction requests generalizing s with
  | nil => exact .refl
  | cons p rest ih =>
    obtain ⟨hnow, hrest⟩ := List.forall_mem_cons.1 hera
    exact .head (.request p.1 p.2 hnow) (ih _ hrest)

end Service

end Pressroom
