import Pressroom.Proofs.Service.Alike

/-!
A row that is deleted is as good as gone. No request sees it but those that ask for deleted rows by
name: the deleted posts, a deleted post to be restored, and the users with the deleted ones. All others
are answered alike by services that differ in deleted rows at most, and leave them so.
-/
namespace Pressroom

open Web

namespace Service

open Store

/-- Whether a request asks for deleted rows and is shown them; `HEAD` is shown no content. -/
def asksDeleted (r : Request) : Bool :=
  match find r.target.path r.method with
  | .handler .trash _ => r.method != "HEAD"
  | .handler .listUsers _ =>
    r.method != "HEAD" && isYes ((r.query.lookup "include_deleted").getD "")
  | .handler .restorePost _ => true
  | _ => false

/-- The handler of an endpoint shows no deleted rows to a request. -/
structure Blind (e : Endpoint) (r : Request) : Prop where
  restore : e ≠ .restorePost
  trash : e = .trash → r.method = "HEAD"
  users : e = .listUsers → r.method = "HEAD" ∨
    isYes ((r.query.lookup "include_deleted").getD "") = false

theorem blind_of_found {r : Request} {e : Endpoint} {id : String} (hr : asksDeleted r = false)
    (h : find r.target.path r.method = .handler e id) : Blind e r := by
  rw [asksDeleted, h] at hr
  refine ⟨?_, ?_, ?_⟩
  · rintro rfl; cases hr
  · rintro rfl; simpa using hr
  · rintro rfl
    simp only [Bool.and_eq_false_iff, bne_eq_false_iff_eq] at hr
    exact hr

/-- What is shown of a reply: `HEAD` is shown that there is content, but not what it is. -/
def shown (r : Request) (reply : Reply) : Reply :=
  if r.method = "HEAD" then { reply with body := reply.body.map fun _ => .null } else reply

theorem respond_shown (p : Policy) (now : Instant) (r : Request) (reply : Reply) :
    respond p now r (shown r reply) = respond p now r reply := by
  rw [shown]
  split
  · rename_i hhead
    rw [respond, respond, if_pos hhead, if_pos hhead, contentType, contentType, Option.isSome_map]
  · rfl

/-- An outcome as it is shown. -/
def asShown (r : Request) (a : Service × Reply) : Service × Reply := (a.1, shown r a.2)

theorem Agree.asShown {a b : Service × Reply} (h : Agree a b) (r : Request) :
    Agree (asShown r a) (asShown r b) := ⟨h.alike, congrArg (shown r) h.same⟩

theorem shown_list {r : Request} (hhead : r.method = "HEAD") (xs ys : List Json) :
    shown r (.json 200 (.list xs)) = shown r (.json 200 (.list ys)) := by
  rw [shown, shown, if_pos hhead, if_pos hhead]
  rfl

/-- What is shown of a reply with a session depends on what is shown of the reply. -/
theorem shown_withSeen {r : Request} {a b : Reply} (session seen : Session)
    (h : shown r a = shown r b) :
    shown r (withSeen session seen a) = shown r (withSeen session seen b) := by
  have hshown : ∀ reply, shown r (withSeen session seen reply)
      = withSeen session seen (shown r reply) := by
    intro reply
    rw [shown, shown]
    split
    · rw [withSeen, withSeen]
      split <;> rfl
    · rfl
  rw [hshown, hshown, h]

/-- Two sound services that are alike, neither of which has used what comes next. -/
structure Twins (s t : Service) : Prop where
  alike : s.Alike t
  sound : s.store.Sound ∧ t.store.Sound
  unused : s.Unused ∧ t.Unused

namespace Twins

variable {s t : Service} (h : s.Twins t)
include h

/-! ### Handlers -/

/-- Somebody who asks by `HEAD` for the deleted posts learns nothing of them. -/
theorem trash {v : Visit} (hhead : v.request.method = "HEAD") :
    Agree (asShown v.request (s.trash v)) (asShown v.request (t.trash v)) := by
  rw [Service.trash, Service.trash, guarded, guarded, h.alike.permitted, h.sound.1.listPosts,
    h.sound.2.listPosts]
  split
  · exact h.alike.agree _
  · exact ⟨h.alike, shown_list hhead _ _⟩

theorem listUsers {v : Visit} (hv : v.request.method = "HEAD" ∨
      isYes ((v.request.query.lookup "include_deleted").getD "") = false) :
    Agree (asShown v.request (s.listUsers v)) (asShown v.request (t.listUsers v)) := by
  rw [Service.listUsers, Service.listUsers, guarded, guarded, h.alike.permitted]
  split
  · exact h.alike.agree _
  · rcases hv with hhead | hlive
    · dsimp only
      rw [h.sound.1.listUsers, h.sound.2.listUsers]
      exact ⟨h.alike, shown_list hhead _ _⟩
    · dsimp only
      rw [hlive, h.alike.store.listUsers]
      split <;> exact (h.alike.agree _).asShown _

/-- A handler that does not show deleted rows answers both alike. -/
theorem dispatch {e : Endpoint} {v : Visit} (hblind : Blind e v.request) :
    Agree (asShown v.request (s.dispatch e v)) (asShown v.request (t.dispatch e v)) := by
  have halike := h.alike
  obtain ⟨hs, ht⟩ := h.unused
  cases e
  case trash => exact h.trash (hblind.trash rfl)
  case listUsers => exact h.listUsers (hblind.users rfl)
  case restorePost => exact absurd rfl hblind.restore
  all_goals apply Agree.asShown
  case files => exact halike.agree _
  case health => rw [Service.dispatch, Service.dispatch, halike.health]; exact halike.agree _
  case version => rw [Service.dispatch, Service.dispatch, halike.versions]; exact halike.agree _
  case login => rw [Service.dispatch, Service.dispatch, halike.login]; exact halike.agree _
  case logout => rw [Service.dispatch, Service.dispatch, halike.logout]; exact halike.agree _
  case whoami => rw [Service.dispatch, Service.dispatch, halike.whoami]; exact halike.agree _
  case listPosts => rw [Service.dispatch, Service.dispatch, halike.listPosts]; exact halike.agree _
  case getPost => rw [Service.dispatch, Service.dispatch, halike.getPost]; exact halike.agree _
  case csrfToken => exact halike.csrfToken v
  case changePassword => exact halike.changePassword v
  case createPost => exact halike.createPost hs ht v
  case updatePost => exact halike.updatePost v
  case deletePost => exact halike.deletePost v
  case getUser => exact halike.getUser v
  case createUser => exact halike.createUser hs ht v
  case updateUser => exact halike.updateUser v
  case deleteUser => exact halike.deleteUser v
  case listKeys => exact halike.listKeys v
  case createKey => exact halike.createKey hs ht v
  case deleteKey => exact halike.deleteKey v

/-! ### Requests -/

/-- Services that differ from twins in what they have counted are twins if they are alike. -/
theorem counted {m n : Service} (hm : SameButCounts s m) (hn : SameButCounts t n)
    (halike : m.Alike n) : m.Twins n where
  alike := halike
  sound := by rw [hm.store, hn.store]; exact h.sound
  unused := ⟨h.unused.1.counted hm, h.unused.2.counted hn⟩

/-- Both count a request alike, and go on as twins. -/
theorem countRequest (now : Instant) (found : Found) :
    ∃ m n admission, s.countRequest now found = (m, admission) ∧
      t.countRequest now found = (n, admission) ∧ m.Twins n := by
  obtain ⟨m, n, admission, hm, hn, halike⟩ := (h.alike.countRequest now found).outcome
  exact ⟨m, n, admission, hm, hn, h.counted (countRequest_same hm) (countRequest_same hn) halike⟩

theorem countLogin (now : Instant) :
    ∃ m n within, s.countLogin now = (m, within) ∧ t.countLogin now = (n, within) ∧ m.Twins n := by
  obtain ⟨m, n, within, hm, hn, halike⟩ := (h.alike.countLogin now).outcome
  exact ⟨m, n, within, hm, hn, h.counted (countLogin_same hm) (countLogin_same hn) halike⟩

theorem serve {r : Request} {e : Endpoint} (hblind : Blind e r) (now : Instant)
    (session : Session) (id : String) :
    Agree (asShown r (s.serve now r session e id)) (asShown r (t.serve now r session e id)) := by
  obtain ⟨m, n, within, hm, hn, htwins⟩ : ∃ m n within,
      (if e = .login then s.countLogin now else (s, true)) = (m, within) ∧
      (if e = .login then t.countLogin now else (t, true)) = (n, within) ∧ m.Twins n := by
    split
    · exact h.countLogin now
    · exact ⟨s, t, true, rfl, rfl, h⟩
  rw [Service.serve, Service.serve, hm, hn]
  dsimp only
  split
  · exact htwins.alike.agree _
  · have hagree := htwins.dispatch (v := ⟨now, r,
      if looksAtSession e r then session.look r.agent else session, id⟩) hblind
    exact ⟨hagree.alike, shown_withSeen session _ hagree.same⟩

theorem answer (now : Instant) {r : Request} (hr : asksDeleted r = false) :
    Agree (asShown r (s.answer now r)) (asShown r (t.answer now r)) := by
  obtain ⟨m, n, admission, hm, hn, htwins⟩ := h.countRequest now (find r.target.path r.method)
  rw [Service.answer, Service.answer, hm, hn]
  cases admission with
  | tooMany => exact htwins.alike.agree _
  | broken => exact htwins.alike.agree _
  | admitted =>
    dsimp only
    rw [guardedRoute, guardedRoute, htwins.alike.policy]
    split
    · exact htwins.alike.agree _
    · split
      · exact htwins.alike.agree _
      · cases hfound : find r.target.path r.method with
        | handler e id => exact htwins.serve (blind_of_found hr hfound) now _ id
        | _ => exact htwins.alike.agree _

/-- A request that does not ask for deleted rows is answered alike, and leaves both alike. -/
theorem handle (now : Instant) {r : Request} (hr : asksDeleted r = false) :
    (s.handle now r).2 = (t.handle now r).2 ∧ (s.handle now r).1.Alike (t.handle now r).1 := by
  obtain ⟨halike, hsame⟩ := h.answer now hr
  have hpolicy : (s.answer now r).1.policy = (t.answer now r).1.policy := halike.policy
  have hshown : shown r (s.answer now r).2 = shown r (t.answer now r).2 := hsame
  refine ⟨?_, halike⟩
  calc (s.handle now r).2
      = respond (s.answer now r).1.policy now r (shown r (s.answer now r).2) :=
        (respond_shown ..).symm
    _ = respond (t.answer now r).1.policy now r (shown r (t.answer now r).2) := by
        rw [hpolicy, hshown]
    _ = (t.handle now r).2 := respond_shown ..

end Twins

/-! ### Services that run -/

/-- The service has come to this from a start. -/
def Begun (s : Service) : Prop :=
  ∃ (policy : Policy) (settings : Settings) (platform : String) (begin : Instant) (first : Service),
    InEra begin ∧ start policy settings platform begin = .ok first ∧ first.Reaches s

/-- No deleted key has the digest of the token that comes next. -/
def TokenNew (s : Service) : Prop :=
  ∀ k ∈ s.store.keys, k.isLive = false →
    k.data.digest ≠ some (Account.tokenDigest s.fresh.nextToken)

theorem Begun.sound {s : Service} (h : s.Begun) : s.Sound := by
  obtain ⟨policy, settings, platform, begin, first, hera, hstart, hreach⟩ := h
  exact hreach.sound (start_sound hera hstart)

theorem Begun.unused {s : Service} (h : s.Begun) (hnew : s.TokenNew) : s.Unused := by
  obtain ⟨policy, settings, platform, begin, first, -, hstart, hreach⟩ := h
  exact ⟨(hreach.issued (start_issued hstart)).nextId, hnew⟩

theorem Begun.step {s t : Service} (h : s.Begun) (hstep : s.Step t) : t.Begun := by
  obtain ⟨policy, settings, platform, begin, first, hera, hstart, hreach⟩ := h
  exact ⟨policy, settings, platform, begin, first, hera, hstart, hreach.tail hstep⟩

theorem Begun.twins {s t : Service} (hs : s.Begun) (ht : t.Begun) (h : s.Alike t)
    (hsnew : s.TokenNew) (htnew : t.TokenNew) : s.Twins t :=
  ⟨h, ⟨hs.sound.store, ht.sound.store⟩, ⟨hs.unused hsnew, ht.unused htnew⟩⟩

/-- Services that run and differ in deleted rows at most give one answer to every request that does
not ask for deleted rows, and differ in deleted rows at most afterwards. -/
theorem deleted_rows_unseen {s t : Service} (hs : s.Begun) (ht : t.Begun) (h : s.Alike t)
    (hsnew : s.TokenNew) (htnew : t.TokenNew) (now : Instant) {r : Request}
    (hr : asksDeleted r = false) :
    (s.handle now r).2 = (t.handle now r).2 ∧ (s.handle now r).1.Alike (t.handle now r).1 :=
  (hs.twins ht h hsnew htnew).handle now hr

/-! ### A post that is gone, and one that never was -/

/-- A post whose title is a lone half cannot be stored, though it uses up an id. -/
def brokenTitle : PostParts := ⟨none, none, some [.half 0], none⟩

/-- A post with nothing in it. -/
def emptyPost : PostParts := ⟨none, none, none, none⟩

/-- A post is sent that cannot be stored. -/
def neverWas (s : Service) : Service := ((Call.createPost brokenTitle).perform s 1).1

/-- A post is stored and then deleted. -/
def isGone (s : Service) : Service :=
  ((Call.deletePost (Text.ofString (Fresh.idText 2))).perform
    ((Call.createPost emptyPost).perform s 1).1 2).1

/-- The request for the post that is gone. -/
def askForIt : Request :=
  { strangerRequest "GET" with
    target := ⟨defaultHost, "/posts/00000000-0000-4000-8000-000000000002".toList, []⟩ }

theorem addPost_tables (s : Service) (now : Instant) (n : PostParts) :
    (s.addPost now n).1.store.users = s.store.users ∧
      (s.addPost now n).1.store.keys = s.store.keys := by
  rw [addPost]
  cases h : s.store.createPost s.fresh.nextId now n with
  | error f => exact ⟨rfl, rfl⟩
  | ok made =>
    obtain ⟨store, post⟩ := made
    obtain ⟨data, -, -, hstore, -⟩ := createPost_eq_ok h
    cases hstore
    exact ⟨rfl, rfl⟩

theorem deletePost_tables (s : Service) (now : Instant) (id : Text) :
    ((Call.deletePost id).perform s now).1.store.users = s.store.users ∧
      ((Call.deletePost id).perform s now).1.store.keys = s.store.keys := by
  rw [Call.perform]
  cases h : s.store.deletePost id now with
  | error f => exact ⟨rfl, rfl⟩
  | ok made =>
    obtain ⟨store, found⟩ := made
    rcases deletePost_eq_ok h with ⟨rfl, -⟩ | ⟨-, r, -, -, rfl⟩ <;> exact ⟨rfl, rfl⟩

theorem deletePost_onlyStores (s : Service) (now : Instant) (id : Text) :
    s.OnlyStores ((Call.deletePost id).perform s now).1 := by
  rw [Call.perform]
  cases s.store.deletePost id now <;> exact rfl

theorem isGone_tables (s : Service) :
    s.isGone.store.users = s.store.users ∧ s.isGone.store.keys = s.store.keys := by
  obtain ⟨husers, hkeys⟩ := addPost_tables s 1 emptyPost
  obtain ⟨husers', hkeys'⟩ := deletePost_tables ((Call.createPost emptyPost).perform s 1).1 2
    (Text.ofString (Fresh.idText 2))
  exact ⟨husers'.trans husers, hkeys'.trans hkeys⟩

theorem isGone_begun {first : Service} (h : first.Begun) : first.isGone.Begun :=
  (h.step (.call 1 _ (by rw [InEra]; decide) rfl)).step (.call 2 _ (by rw [InEra]; decide) rfl)

theorem neverWas_begun {first : Service} (h : first.Begun) : first.neverWas.Begun :=
  h.step (.call 1 _ (by rw [InEra]; decide) rfl)

theorem isGone_alike {first : Service} (h : first.Begun)
    (hposts : rowsFor first.isGone.store.posts false = rowsFor first.neverWas.store.posts false)
    (hfresh : first.isGone.fresh = first.neverWas.fresh) : first.isGone.Alike first.neverWas := by
  have hsound := (isGone_begun h).sound.store
  have hsound' := (neverWas_begun h).sound.store
  have hmade : first.OnlyStores ((Call.createPost emptyPost).perform first 1).1 :=
    onlyStores_addPost 1 emptyPost
  have hnever : first.OnlyStores first.neverWas := onlyStores_addPost 1 brokenTitle
  have hgone := hmade.trans (deletePost_onlyStores _ 2 (Text.ofString (Fresh.idText 2)))
  obtain ⟨husers, hkeys⟩ := isGone_tables first
  obtain ⟨husers', hkeys'⟩ := addPost_tables first 1 brokenTitle
  refine hgone.alike hnever ⟨?_, ?_, ?_, hposts, ?_⟩ hfresh
  · exact hsound.schema.trans hsound'.schema.symm
  · exact hsound.reachable.trans hsound'.reachable.symm
  · exact congrArg (rowsFor · false) (husers.trans husers'.symm)
  · exact congrArg (rowsFor · false) (hkeys.trans hkeys'.symm)

/-- The post that is gone is asked for by its id, as is the post that never was. -/
theorem deleted_rows_unseen_post :
    ∃ first, start (.ofProfile .testing .standard) .standard "" 0 = .ok first ∧
      first.isGone.store.posts.map (·.id) = [Fresh.idText 2] ∧
      first.neverWas.store.posts = [] ∧
      (first.isGone.handle 3 askForIt).2.status = 404 ∧
      (first.isGone.handle 3 askForIt).2 = (first.neverWas.handle 3 askForIt).2 ∧
      (first.isGone.handle 3 askForIt).1.Alike (first.neverWas.handle 3 askForIt).1 := by
  obtain ⟨first, hstart, hgone, hnever, hposts, hfresh, hstatus, hkeys⟩ :
      ∃ first, start (.ofProfile .testing .standard) .standard "" 0 = .ok first ∧
        first.isGone.store.posts.map (·.id) = [Fresh.idText 2] ∧
        first.neverWas.store.posts = [] ∧
        rowsFor first.isGone.store.posts false = rowsFor first.neverWas.store.posts false ∧
        first.isGone.fresh = first.neverWas.fresh ∧
        (first.isGone.handle 3 askForIt).2.status = 404 ∧ first.store.keys = [] :=
    ⟨_, rfl, by decide +kernel, by decide +kernel, by decide +kernel, by decide +kernel,
      by decide +kernel, by decide +kernel⟩
  have hbegun : first.Begun := ⟨_, _, _, 0, first, inEra_zero, hstart, .refl⟩
  have hkeyless : ∀ {s : Service}, s.store.keys = first.store.keys → s.TokenNew := by
    intro s hs k hk
    rw [hs, hkeys] at hk
    cases hk
  have hasks : asksDeleted askForIt = false := by decide +kernel
  have hunseen := deleted_rows_unseen (isGone_begun hbegun) (neverWas_begun hbegun)
    (isGone_alike hbegun hposts hfresh) (hkeyless (isGone_tables first).2)
    (hkeyless (addPost_tables first 1 brokenTitle).2) 3 hasks
  exact ⟨first, hstart, hgone, hnever, hstatus, hunseen⟩

end Service

/-! ### Runs -/

namespace Run

open Service

/-- Two runs whose services differ in deleted rows at most. -/
structure Alike (run run' : Run) : Prop where
  service : run.service.Alike run'.service
  clients : run.clients = run'.clients
  clock : run.clock = run'.clock

/-- A request that does not ask for deleted rows. -/
def Event.Blind : Event → Prop
  | .request _ r _ => asksDeleted r = false
  | .call _ => False

/-- Before each event the token that comes next is new in both runs. -/
def TokensNew (run run' : Run) : List (Int × Event) → Prop
  | [] => True
  | (span, e) :: rest => run.service.TokenNew ∧ run'.service.TokenNew ∧
    TokensNew ((run.advance span).step e).1 ((run'.advance span).step e).1 rest

variable {run run' : Run}

/-- One request comes to the same in both runs, and leaves them alike. -/
theorem step_alike (h : run.Alike run') (htwins : run.service.Twins run'.service) {e : Event}
    (he : e.Blind) :
    (run.step e).2 = (run'.step e).2 ∧ (run.step e).1.Alike (run'.step e).1 := by
  cases e with
  | call c => exact he.elim
  | request name r showSecret =>
    have hclient : run.client name = run'.client name := by rw [client, client, h.clients]
    have hasks : asksDeleted ((run'.client name).send r showSecret) = false := he
    obtain ⟨hresponse, halike⟩ := htwins.handle run'.clock hasks
    rw [step, step]
    dsimp only
    rw [hclient, h.clock, hresponse, h.clients]
    exact ⟨rfl, halike, rfl, rfl⟩

/-- Requests that do not ask for deleted rows come to the same in both runs, however many they are. -/
theorem steps_alike (h : run.Alike run') (hs : run.service.Begun) (ht : run'.service.Begun)
    {events : List (Int × Event)} (hordinary : Ordinary run.clock events)
    (hblind : ∀ e ∈ events, e.2.Blind) (hnew : TokensNew run run' events) :
    (run.steps events).2 = (run'.steps events).2 ∧
      (run.steps events).1.Alike (run'.steps events).1 := by
  induction events generalizing run run' with
  | nil => exact ⟨rfl, h⟩
  | cons event rest ih =>
    obtain ⟨span, e⟩ := event
    obtain ⟨hsnew, htnew, hrest⟩ := hnew
    obtain ⟨hnow, hcall, hordinary⟩ := hordinary
    have hlater : (run.advance span).Alike (run'.advance span) :=
      ⟨h.service, h.clients, congrArg (· + span) h.clock⟩
    obtain ⟨hresult, hstep⟩ := step_alike hlater (hs.twins ht h.service hsnew htnew)
      (hblind _ List.mem_cons_self)
    have hordinary' : Ordinary ((run.advance span).step e).1.clock rest := by
      rw [step_clock]; exact hordinary
    have hnow' : InEra (run'.advance span).clock := by
      rw [← hlater.clock]; exact hnow
    obtain ⟨hresults, hsteps⟩ := ih hstep
      (hs.step (step_steps (run.advance span) hnow hcall))
      (ht.step (step_steps (run'.advance span) hnow' hcall)) hordinary'
      (fun x hx => hblind x (List.mem_cons_of_mem _ hx)) hrest
    refine ⟨?_, hsteps⟩
    rw [steps, steps]
    dsimp only
    rw [hresult, hresults]

end Run

end Pressroom
