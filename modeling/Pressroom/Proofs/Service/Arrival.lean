import Pressroom.Proofs.Web.Routing
import Pressroom.Service.Handle

/-!
Which requests reach a handler. `arrival?` follows a request through the limit, the way to an
encrypted connection and the guard of writes, and gives the visit it makes if all of them let it
through. What a request that arrives does is what its handler does; one that is turned away leaves
the store as it was.
-/
namespace Pressroom

open Web

namespace Service

/-- The visit of a request that passes every guard, with the service as it is then and the handler
that the visit is for. -/
def arrival? (s : Service) (now : Instant) (r : Request) : Option (Service × Endpoint × Visit) :=
  let found := find r.target.path r.method
  let session := Cookie.sessionAt r.cookie now
  match s.countRequest now found with
  | (m, .admitted) =>
    if (secureRedirect? m.policy r).isSome || (forged? m.policy r found session).isSome then none
    else match found with
      | .handler e id =>
        let (m, within) := if e = .login then m.countLogin now else (m, true)
        let seen := if looksAtSession e r then session.look r.agent else session
        if within then some (m, e, ⟨now, r, seen, id⟩) else none
      | _ => none
  | _ => none

variable {s m : Service} {now : Instant} {r : Request} {e : Endpoint} {v : Visit}

/-! ### Counting -/

/-- Two services that differ in what they have counted at most. -/
structure SameButCounts (s m : Service) : Prop where
  policy : m.policy = s.policy
  seed : m.seed = s.seed
  platform : m.platform = s.platform
  store : m.store = s.store
  registry : m.registry = s.registry
  fresh : m.fresh = s.fresh

theorem SameButCounts.refl (s : Service) : SameButCounts s s := ⟨rfl, rfl, rfl, rfl, rfl, rfl⟩

theorem SameButCounts.trans {s m t : Service} (h : SameButCounts s m) (h' : SameButCounts m t) :
    SameButCounts s t :=
  ⟨h'.policy.trans h.policy, h'.seed.trans h.seed, h'.platform.trans h.platform,
    h'.store.trans h.store, h'.registry.trans h.registry, h'.fresh.trans h.fresh⟩

theorem countRequest_same {found : Found} {admission : Admission}
    (h : s.countRequest now found = (m, admission)) : SameButCounts s m := by
  rw [countRequest] at h
  split at h
  · split at h <;> cases h <;> exact ⟨rfl, rfl, rfl, rfl, rfl, rfl⟩
  · cases h; exact .refl s

theorem countLogin_same {within : Bool} (h : s.countLogin now = (m, within)) :
    SameButCounts s m := by
  rw [countLogin] at h
  split at h <;> cases h <;> exact ⟨rfl, rfl, rfl, rfl, rfl, rfl⟩

/-! ### Sessions -/

theorem look_user (session : Session) (agent : String) :
    (session.look agent).user = session.user := by
  rw [Session.look]; split <;> rfl

/-! ### Requests that arrive -/

/-- The parts of an arrival: every guard has let the request through. -/
theorem arrival?_eq_some (h : s.arrival? now r = some (m, e, v)) :
    ∃ counted, s.countRequest now (find r.target.path r.method) = (counted, .admitted) ∧
      secureRedirect? s.policy r = none ∧
      forged? s.policy r (find r.target.path r.method) (Cookie.sessionAt r.cookie now) = none ∧
      find r.target.path r.method = .handler e v.id ∧
      (if e = .login then counted.countLogin now else (counted, true)) = (m, true) ∧
      v = ⟨now, r, if looksAtSession e r then (Cookie.sessionAt r.cookie now).look r.agent
        else Cookie.sessionAt r.cookie now, v.id⟩ := by
  simp only [arrival?] at h
  split at h
  · rename_i counted hcount
    have hpolicy := (countRequest_same hcount).policy
    split at h
    · cases h
    · rename_i hguards
      simp only [Bool.or_eq_true, not_or, Bool.not_eq_true, Option.isSome_eq_false_iff,
        Option.isNone_iff_eq_none, hpolicy] at hguards
      split at h
      · rename_i e' id hfound
        cases hwithin : (if e' = .login then counted.countLogin now else (counted, true)) with
        | mk m' within =>
          rw [hwithin] at h
          cases within with
          | false => cases h
          | true =>
            cases h
            exact ⟨counted, hcount, hguards.1, hfound ▸ hguards.2, hfound, hwithin, rfl⟩
      · cases h
  · cases h

/-- A request arrives if every guard lets it through. -/
theorem arrival?_of_found {counted : Service} {id : String}
    (hcount : s.countRequest now (find r.target.path r.method) = (counted, .admitted))
    (hsecure : secureRedirect? s.policy r = none)
    (hforged : forged? s.policy r (find r.target.path r.method) (Cookie.sessionAt r.cookie now) = none)
    (hfound : find r.target.path r.method = .handler e id)
    (hlogin : (if e = .login then counted.countLogin now else (counted, true)) = (m, true)) :
    s.arrival? now r = some (m, e, ⟨now, r,
      if looksAtSession e r then (Cookie.sessionAt r.cookie now).look r.agent
        else Cookie.sessionAt r.cookie now, id⟩) := by
  have hpolicy := (countRequest_same hcount).policy
  have hguards : ¬ ((secureRedirect? counted.policy r).isSome || (forged? counted.policy r
      (find r.target.path r.method) (Cookie.sessionAt r.cookie now)).isSome) = true := by
    rw [hpolicy, hsecure, hforged]; decide
  simp only [arrival?, hcount]
  rw [if_neg hguards, hfound]
  dsimp only
  rw [hlogin]
  rfl

/-- Without limits a request arrives that needs neither an encrypted connection nor a secret. -/
theorem arrival?_unlimited {id : String} (hlimit : s.policy.limit = none)
    (hsecure : secureRedirect? s.policy r = none)
    (hforged : forged? s.policy r (find r.target.path r.method) (Cookie.sessionAt r.cookie now) = none)
    (hfound : find r.target.path r.method = .handler e id) :
    s.arrival? now r = some (s, e, ⟨now, r,
      if looksAtSession e r then (Cookie.sessionAt r.cookie now).look r.agent
        else Cookie.sessionAt r.cookie now, id⟩) := by
  have hcount : s.countRequest now (find r.target.path r.method) = (s, .admitted) := by
    rw [countRequest, hlimit]
  refine arrival?_of_found hcount hsecure hforged hfound ?_
  split
  · rw [countLogin, hlimit]
  · rfl

theorem arrival?_found (h : s.arrival? now r = some (m, e, v)) :
    find r.target.path r.method = .handler e v.id := by
  obtain ⟨-, -, -, -, hfound, -, -⟩ := arrival?_eq_some h
  exact hfound

theorem arrival?_session (h : s.arrival? now r = some (m, e, v)) :
    v.session = if looksAtSession e r then (Cookie.sessionAt r.cookie now).look r.agent
      else Cookie.sessionAt r.cookie now := by
  obtain ⟨-, -, -, -, -, -, hv⟩ := arrival?_eq_some h
  exact congrArg Visit.session hv

theorem arrival?_visit (h : s.arrival? now r = some (m, e, v)) :
    v.now = now ∧ v.request = r ∧ v.session.user = (Cookie.sessionAt r.cookie now).user := by
  have hsession := arrival?_session h
  obtain ⟨-, -, -, -, -, -, hv⟩ := arrival?_eq_some h
  refine ⟨congrArg Visit.now hv, congrArg Visit.request hv, ?_⟩
  rw [hsession]
  split
  · exact look_user _ _
  · rfl

/-- On the way to its handler a request is counted and changes nothing else. -/
theorem arrival?_same (h : s.arrival? now r = some (m, e, v)) : SameButCounts s m := by
  obtain ⟨counted, hcount, -, -, -, hlogin, -⟩ := arrival?_eq_some h
  have hsame := countRequest_same hcount
  split at hlogin
  · exact hsame.trans (countLogin_same hlogin)
  · cases hlogin; exact hsame

/-- The session of a visit stands for the same user as that of the cookie. -/
theorem sessionUser_arrived (h : s.arrival? now r = some (m, e, v)) :
    m.sessionUser v.session = s.sessionUser (Cookie.sessionAt r.cookie now) := by
  rw [sessionUser, sessionUser, (arrival?_visit h).2.2, (arrival?_same h).store]

/-- The reply of a handler, with the session if that was only looked at. -/
def withSeen (session seen : Session) (reply : Reply) : Reply :=
  if reply.session.isNone && seen ≠ session then reply.withSession seen else reply

theorem answer_arrived (h : s.arrival? now r = some (m, e, v)) :
    s.answer now r = ((m.dispatch e v).1,
      withSeen (Cookie.sessionAt r.cookie now) v.session (m.dispatch e v).2) := by
  obtain ⟨counted, hcount, hsecure, hforged, hfound, hlogin, hv⟩ := arrival?_eq_some h
  have hpolicy := (countRequest_same hcount).policy
  rw [answer]
  simp only [hcount, guardedRoute, hpolicy, hsecure, hforged]
  rw [hfound, route, serve, hlogin, hv]
  rfl

theorem withSeen_status (session seen : Session) (reply : Reply) :
    (withSeen session seen reply).status = reply.status := by
  rw [withSeen]; split <;> rfl

theorem withSeen_session {session seen x : Session} {reply : Reply}
    (h : (withSeen session seen reply).session = some x) :
    reply.session = some x ∨ reply.session = none ∧ x = seen ∧ seen ≠ session := by
  rw [withSeen] at h
  split at h
  · rename_i hlooked
    simp only [Bool.and_eq_true, Option.isNone_iff_eq_none, decide_eq_true_eq] at hlooked
    cases h
    exact .inr ⟨hlooked.1, rfl, hlooked.2⟩
  · exact .inl h

theorem withSeen_self (session : Session) (reply : Reply) :
    withSeen session session reply = reply := by
  rw [withSeen, if_neg (by simp)]

/-- What a request that arrives leaves behind, and the status of its answer, are those of its
handler. -/
theorem handle_arrived (h : s.arrival? now r = some (m, e, v)) :
    (s.handle now r).1 = (m.dispatch e v).1 ∧
      (s.handle now r).2.status = (m.dispatch e v).2.status := by
  rw [handle, answer_arrived h]
  exact ⟨rfl, withSeen_status ..⟩

/-- The response to it carries the reply of the handler. -/
theorem handle_response (h : s.arrival? now r = some (m, e, v)) :
    (s.handle now r).2 = respond (m.dispatch e v).1.policy now r
      (withSeen (Cookie.sessionAt r.cookie now) v.session (m.dispatch e v).2) := by
  rw [handle, answer_arrived h]

theorem withSeen_body (session seen : Session) (reply : Reply) :
    (withSeen session seen reply).body = reply.body := by
  rw [withSeen]; split <;> rfl

/-- The content of the answer is that of the handler as well, if it is shown. -/
theorem handle_body (h : s.arrival? now r = some (m, e, v)) (hmethod : r.method ≠ "HEAD") :
    (s.handle now r).2.body = (m.dispatch e v).2.body := by
  rw [handle, answer_arrived h]
  dsimp only
  rw [respond, if_neg hmethod, withSeen_body]

/-- The content of the answer of a handler that writes is shown. -/
theorem handle_body_of_write (h : s.arrival? now r = some (m, e, v)) (he : e.isAsked = false) :
    (s.handle now r).2.body = (m.dispatch e v).2.body := by
  refine handle_body h fun hmethod => ?_
  cases he.symm.trans (find_get (arrival?_found h) (.inr hmethod))

/-- The cookie that the answer gives the client, if it gives one. -/
theorem handle_sends (h : s.arrival? now r = some (m, e, v)) :
    (s.handle now r).2.cookie =
      match (withSeen (Cookie.sessionAt r.cookie now) v.session (m.dispatch e v).2).session with
      | none => .keep
      | some session => .replace (Cookie.issue session now) := by
  rw [handle, answer_arrived h]
  rfl

/-! ### Another store -/

/-- The service with another store. -/
def withStore (s : Service) (a : Store) : Service := { s with store := a }

theorem countRequest_withStore (s : Service) (a : Store) (now : Instant) (found : Found) :
    (s.withStore a).countRequest now found
      = ((s.countRequest now found).1.withStore a, (s.countRequest now found).2) := by
  rw [countRequest, countRequest, withStore]
  dsimp only
  split
  · split <;> rfl
  · rfl

theorem countLogin_withStore (s : Service) (a : Store) (now : Instant) (e : Endpoint) :
    (if e = .login then (s.withStore a).countLogin now else (s.withStore a, true))
      = ((if e = .login then s.countLogin now else (s, true)).1.withStore a,
        (if e = .login then s.countLogin now else (s, true)).2) := by
  split
  · rw [countLogin, countLogin, withStore]
    dsimp only
    split <;> rfl
  · rfl

/-- A request that arrives arrives over every store, as the same visit. -/
theorem arrival?_withStore (a : Store) (h : s.arrival? now r = some (m, e, v)) :
    (s.withStore a).arrival? now r = some (m.withStore a, e, v) := by
  obtain ⟨counted, hcount, hsecure, hforged, hfound, hlogin, hv⟩ := arrival?_eq_some h
  have hcount' := countRequest_withStore s a now (find r.target.path r.method)
  have hlogin' := countLogin_withStore counted a now e
  rw [hcount] at hcount'
  rw [hlogin] at hlogin'
  rw [hv]
  exact arrival?_of_found hcount' hsecure hforged hfound hlogin'

/-! ### Requests that are turned away -/

/-- What becomes of a request that no handler sees: it is counted at most, its answer has no content
and leaves the cookie alone, and if it was meant for a handler, its answer does not report success. -/
structure TurnedAway (s : Service) (r : Request) (a : Service × Reply) : Prop where
  same : SameButCounts s a.1
  body : a.2.body = none
  session : a.2.session = none
  fails : ∀ e id, find r.target.path r.method = .handler e id → 300 ≤ a.2.status

theorem TurnedAway.status {a : Service × Reply} (h : s.TurnedAway r a) (e : Endpoint) (id : String)
    (hfound : find r.target.path r.method = .handler e id) : a.2.status ≠ 200 := by
  have hfails := h.fails e id hfound
  omega

theorem TurnedAway.page {status : Nat} (h : SameButCounts s m) (hstatus : 300 ≤ status) :
    s.TurnedAway r (m, .page status) := ⟨h, rfl, rfl, fun _ _ _ => hstatus⟩

theorem secureRedirect?_refuses {p : Policy} {reply : Reply} (h : secureRedirect? p r = some reply) :
    reply.body = none ∧ reply.session = none ∧ 300 ≤ reply.status := by
  rw [secureRedirect?] at h
  split at h <;> cases h
  exact ⟨rfl, rfl, show 300 ≤ 302 by decide⟩

theorem forged?_refuses {p : Policy} {found : Found} {session : Session} {reply : Reply}
    (h : forged? p r found session = some reply) :
    reply.body = none ∧ reply.session = none ∧ 300 ≤ reply.status := by
  rw [forged?] at h
  split at h
  · cases h
  · split at h
    · cases h; exact ⟨rfl, rfl, by decide⟩
    · rw [foreignPage?] at h
      repeat' split at h
      all_goals cases h
      all_goals exact ⟨rfl, rfl, by decide⟩

/-- A login beyond the limit is counted and does nothing else. -/
theorem serve_turned_away (session : Session) (id : String)
    (h : (if e = .login then s.countLogin now else (s, true)) = (m, false)) :
    s.serve now r session e id = (m, .page 429) ∧ SameButCounts s m := by
  rw [serve, h]
  refine ⟨rfl, ?_⟩
  split at h
  · exact countLogin_same h
  · cases h

theorem guardedRoute_secure {found : Found} {session : Session} {reply : Reply}
    (h : secureRedirect? s.policy r = some reply) :
    s.guardedRoute now r found session = (s, reply) := by
  rw [guardedRoute, h]

theorem guardedRoute_forged {found : Found} {session : Session} {reply : Reply}
    (hsecure : secureRedirect? s.policy r = none)
    (h : forged? s.policy r found session = some reply) :
    s.guardedRoute now r found session = (s, reply) := by
  rw [guardedRoute, hsecure]
  dsimp only
  rw [h]

theorem guardedRoute_passes {found : Found} {session : Session}
    (hsecure : secureRedirect? s.policy r = none) (hforged : forged? s.policy r found session = none) :
    s.guardedRoute now r found session = s.route now r found session := by
  rw [guardedRoute, hsecure]
  dsimp only
  rw [hforged]

/-- A request that does not arrive is turned away, over every store with the same answer. -/
theorem answer_refuses (h : s.arrival? now r = none) :
    s.TurnedAway r (s.answer now r) ∧
      ∀ a, (s.withStore a).answer now r = ((s.answer now r).1.withStore a, (s.answer now r).2) := by
  simp only [answer, countRequest_withStore]
  simp only [arrival?] at h
  cases hcount : s.countRequest now (find r.target.path r.method) with
  | mk counted admission =>
    have hcounted := countRequest_same hcount
    rw [hcount] at h
    cases admission with
    | tooMany => exact ⟨.page hcounted (by decide), fun _ => rfl⟩
    | broken => exact ⟨.page hcounted (by decide), fun _ => rfl⟩
    | admitted =>
      dsimp only
      cases hsecure : secureRedirect? counted.policy r with
      | some reply =>
        obtain ⟨hbody, hsession, hstatus⟩ := secureRedirect?_refuses hsecure
        rw [guardedRoute_secure hsecure]
        exact ⟨⟨hcounted, hbody, hsession, fun _ _ _ => hstatus⟩,
          fun _ => guardedRoute_secure hsecure⟩
      | none =>
        cases hforged : forged? counted.policy r (find r.target.path r.method)
            (Cookie.sessionAt r.cookie now) with
        | some reply =>
          obtain ⟨hbody, hsession, hstatus⟩ := forged?_refuses hforged
          rw [guardedRoute_forged hsecure hforged]
          exact ⟨⟨hcounted, hbody, hsession, fun _ _ _ => hstatus⟩,
            fun _ => guardedRoute_forged hsecure hforged⟩
        | none =>
          have hover : ∀ a, (counted.withStore a).guardedRoute now r (find r.target.path r.method)
              (Cookie.sessionAt r.cookie now) = (counted.withStore a).route now r
                (find r.target.path r.method) (Cookie.sessionAt r.cookie now) :=
            fun _ => guardedRoute_passes hsecure hforged
          rw [guardedRoute_passes hsecure hforged]
          simp only [hover]
          simp only [hsecure, hforged, Option.isSome_none, Bool.or_self, Bool.false_eq_true,
            if_false] at h
          cases hfound : find r.target.path r.method with
          | handler e id =>
            rw [hfound] at h
            dsimp only at h
            cases hlogin : (if e = .login then counted.countLogin now else (counted, true)) with
            | mk m within =>
              rw [hlogin] at h
              cases within with
              | true => cases h
              | false =>
                obtain ⟨hserve, hsame⟩ :=
                  serve_turned_away (r := r) (Cookie.sessionAt r.cookie now) id hlogin
                rw [route, hserve]
                refine ⟨.page (hcounted.trans hsame) (by decide), fun a => ?_⟩
                have hlogin' := countLogin_withStore counted a now e
                rw [hlogin] at hlogin'
                exact (serve_turned_away _ id hlogin').1
          | _ =>
            exact ⟨⟨hcounted, rfl, rfl, fun _ _ h => by rw [hfound] at h; cases h⟩, fun _ => rfl⟩

theorem answer_turned_away (h : s.arrival? now r = none) : s.TurnedAway r (s.answer now r) :=
  (answer_refuses h).1

theorem answer_withStore (a : Store) (h : s.arrival? now r = none) :
    (s.withStore a).answer now r = ((s.answer now r).1.withStore a, (s.answer now r).2) :=
  (answer_refuses h).2 a

theorem handle_keeps (h : s.arrival? now r = none) : (s.handle now r).2.cookie = .keep := by
  rw [handle]
  dsimp only
  rw [respond, (answer_turned_away h).session]

theorem handle_turned_away (h : s.arrival? now r = none) :
    SameButCounts s (s.handle now r).1 := (answer_turned_away h).same

/-- A request for a handler that is not answered with a failure has arrived there. -/
theorem arrives_of_success {id : String} (hfound : find r.target.path r.method = .handler e id)
    (h : (s.handle now r).2.status < 300) : ∃ m v, s.arrival? now r = some (m, e, v) := by
  cases harrival : s.arrival? now r with
  | none => exact absurd ((answer_turned_away harrival).fails e id hfound) (Nat.not_le.2 h)
  | some arrival =>
    obtain ⟨m, e', v⟩ := arrival
    cases hfound.symm.trans (arrival?_found harrival)
    exact ⟨m, v, rfl⟩

theorem arrives_of_ok {id : String} (hfound : find r.target.path r.method = .handler e id)
    (h : (s.handle now r).2.status = 200) : ∃ m v, s.arrival? now r = some (m, e, v) :=
  arrives_of_success hfound (by rw [h]; decide)

end Service

end Pressroom
