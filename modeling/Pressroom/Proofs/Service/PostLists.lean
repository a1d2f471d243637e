import Pressroom.Proofs.Service.PostLog
import Pressroom.Proofs.Service.Seed

/-!
What is shown of posts agrees with the log. Every post that an answer created is shown once, in the
list of the live ones or in that of the deleted ones, and no other is shown; a live post is shown by
itself as in the list, and as it was told last. It follows from the table and the log being in step,
since the two lists together show each row of the table once.
-/
namespace Pressroom

open Web

namespace Service

open Store

variable {s : Service} {v : Visit}

/-! ### What is shown -/

/-- The posts that a service shows: those in the list of the live ones, those in the trash, and each of
the live ones by itself. -/
structure Shows (s : Service) (live gone : List Json) : Prop where
  list : ∀ now r m v, s.arrival? now r = some (m, .listPosts, v) → r.method = "GET" →
    r.parameter? "type" = none → r.parameter? "author" = none →
    (s.handle now r).2.status = 200 ∧ (s.handle now r).2.body = some (.list live)
  trash : ∀ now r m v caller, s.arrival? now r = some (m, .trash, v) → r.method = "GET" →
    m.permitted v viewPosts = .ok caller →
    (s.handle now r).2.status = 200 ∧ (s.handle now r).2.body = some (.list gone)
  post : ∀ now r m v, s.arrival? now r = some (m, .getPost, v) → r.method = "GET" →
    ((s.handle now r).2.status = 200 ↔ ∃ p ∈ live, shownId? p = some v.id) ∧
      ∀ p ∈ live, shownId? p = some v.id → (s.handle now r).2.body = some p

/-- Lists of live and of deleted posts agree with a log: they show every post that was created once, in
one of them, and no other, and the live ones as they were told last. -/
structure Faithful (log : List Exchange) (live gone : List Json) : Prop where
  once : ∀ id, (∃ x ∈ log, x.created? = some id) →
    (live.filterMap shownId?).count id + (gone.filterMap shownId?).count id = 1
  only : ∀ id, ¬ (∃ x ∈ log, x.created? = some id) →
    id ∉ live.filterMap shownId? ∧ id ∉ gone.filterMap shownId?
  told : ∀ p ∈ live, ∃ id, shownId? p = some id ∧ lastTold? log id = some p

/-- The live posts, as they are listed. -/
def livePosts (s : Service) : List Json :=
  (newestFirst (rowsFor s.store.posts false)).map showPost

/-- The deleted posts, as they are listed. -/
def gonePosts (s : Service) : List Json :=
  ((newestFirst (rowsFor s.store.posts true)).filter fun r => !r.isLive).map showPost

theorem mem_livePosts {p : Json} :
    p ∈ s.livePosts ↔ ∃ r ∈ s.store.posts, r.isLive = true ∧ showPost r = p := by
  simp only [livePosts, List.mem_map, mem_newestFirst, mem_rowsFor_live, and_assoc]

theorem listPosts_eq (hs : s.store.Sound) (htype : v.request.parameter? "type" = none)
    (hauthor : v.request.parameter? "author" = none) :
    s.listPosts v = .json 200 (.list s.livePosts) := by
  rw [listPosts]
  dsimp only
  rw [htype, hauthor, Option.map_none, hs.listPosts]
  dsimp only
  rw [postsJson, List.map_map]
  rfl

theorem trash_eq (hs : s.store.Sound) {caller : Caller} (h : s.permitted v viewPosts = .ok caller) :
    s.trash v = (s, .json 200 (.list s.gonePosts)) := by
  rw [trash, guarded, h]
  dsimp only
  rw [hs.listPosts]
  dsimp only
  rw [postsJson, List.filter_map, List.map_map]
  have hlife : ∀ r ∈ newestFirst (rowsFor s.store.posts true),
      ((fun p : Post => !p.isLive) ∘ Entry.item) r = !r.isLive := by
    intro r hr
    rw [mem_newestFirst] at hr
    rw [Function.comp_apply, (hs.posts.times r (List.mem_filter.1 hr).1).item_isLive]
  rw [List.filter_congr hlife]
  rfl

theorem getPost_eq (hs : s.store.Sound) :
    s.getPost v = match findRow? s.store.posts false v.id with
      | none => postNotFound
      | some r => .json 200 (showPost r) := by
  rw [getPost, Visit.key, hs.post?]
  cases findRow? s.store.posts false v.id <;> rfl

theorem shows_posts (hs : s.Sound) : s.Shows s.livePosts s.gonePosts where
  list now r m v harrival hmethod htype hauthor := by
    have hm : m.store = s.store := (arrival?_same harrival).store
    obtain ⟨-, hrequest, -⟩ := arrival?_visit harrival
    rw [← hrequest] at htype hauthor
    have hreply : (m.dispatch .listPosts v).2 = .json 200 (.list s.livePosts) := by
      rw [dispatch, listPosts_eq (hm ▸ hs.store) htype hauthor, livePosts, livePosts, hm]
    rw [(handle_arrived harrival).2, handle_body harrival (by rw [hmethod]; decide), hreply]
    exact ⟨rfl, rfl⟩
  trash now r m v caller harrival hmethod hcaller := by
    have hm : m.store = s.store := (arrival?_same harrival).store
    have hreply : (m.dispatch .trash v).2 = .json 200 (.list s.gonePosts) := by
      rw [dispatch, trash_eq (hm ▸ hs.store) hcaller, gonePosts, gonePosts, hm]
    rw [(handle_arrived harrival).2, handle_body harrival (by rw [hmethod]; decide), hreply]
    exact ⟨rfl, rfl⟩
  post now r m v harrival hmethod := by
    have hm : m.store = s.store := (arrival?_same harrival).store
    have hreply : (m.dispatch .getPost v).2 = match findRow? s.store.posts false v.id with
        | none => postNotFound
        | some row => .json 200 (showPost row) := by
      rw [dispatch, getPost_eq (hm ▸ hs.store), hm]
    rw [(handle_arrived harrival).2, handle_body harrival (by rw [hmethod]; decide), hreply]
    have hfind : ∀ p ∈ s.livePosts, shownId? p = some v.id →
        ∃ row, findRow? s.store.posts false v.id = some row ∧ showPost row = p := by
      intro p hp hid
      obtain ⟨row, hrow, hlive, rfl⟩ := mem_livePosts.1 hp
      rw [shownId?_showPost, Option.some.injEq] at hid
      exact ⟨row, hid ▸ findRow?_of_mem hs.store.posts.ids hrow (.inr hlive), rfl⟩
    refine ⟨⟨fun hstatus => ?_, ?_⟩, fun p hp hid => ?_⟩
    · cases hfound : findRow? s.store.posts false v.id with
      | none => rw [hfound] at hstatus; cases hstatus
      | some row =>
        obtain ⟨hrow, hid, hlive⟩ := findRow?_live hfound
        exact ⟨showPost row, mem_livePosts.2 ⟨row, hrow, hlive, rfl⟩, hid ▸ shownId?_showPost row⟩
    · rintro ⟨p, hp, hid⟩
      obtain ⟨row, hfound, -⟩ := hfind p hp hid
      rw [hfound]
      rfl
    · obtain ⟨row, hfound, hshown⟩ := hfind p hp hid
      rw [hfound, ← hshown]
      rfl

theorem shownIds (rows : List (Row PostData)) :
    (rows.map showPost).filterMap shownId? = rows.map (·.id) := by
  rw [List.filterMap_map, ← List.filterMap_eq_map]
  exact congrArg (List.filterMap · rows) (funext shownId?_showPost)

/-- What a service shows agrees with a log that its table of posts is in step with. -/
theorem faithful_posts (hs : s.store.Sound) {log : List Exchange} (h : Recorded s.store.posts log) :
    Faithful log s.livePosts s.gonePosts := by
  have hids : (s.livePosts.filterMap shownId? ++ s.gonePosts.filterMap shownId?).Perm
      (s.store.posts.map (·.id)) := by
    rw [livePosts, gonePosts, shownIds, shownIds, ← List.map_append]
    exact (live_gone_perm s.store.posts).map _
  have hmem : ∀ id, (∃ x ∈ log, x.created? = some id) ↔ id ∈ s.store.posts.map (·.id) := by
    intro id
    rw [h.created, List.mem_map]
  constructor
  · intro id hcreated
    rw [← List.count_append, hids.count_eq]
    exact List.count_eq_one_of_mem hs.posts.ids ((hmem id).1 hcreated)
  · intro id hcreated
    rw [hmem, ← hids.mem_iff, List.mem_append, not_or] at hcreated
    exact hcreated
  · intro p hp
    obtain ⟨r, hr, hlive, rfl⟩ := mem_livePosts.1 hp
    exact ⟨r.id, shownId?_showPost r, h.told r hr hlive⟩

/-- After any requests to a service that has started, its lists show the posts that were created, each
of them once, and the live ones as they were told last. -/
theorem posts_faithful {policy : Policy} {settings : Settings} {platform : String} {begin : Instant}
    {first : Service} (hbegin : InEra begin)
    (hstart : start policy settings platform begin = .ok first)
    (requests : List (Instant × Request)) (hera : ∀ p ∈ requests, InEra p.1) :
    ∃ live gone, (first.converse requests).1.Shows live gone ∧
      Faithful (first.converse requests).2 live gone := by
  have hinitial : Recorded first.store.posts [] := by
    rw [start_posts hstart]
    exact ⟨by simp, by simp⟩
  obtain ⟨hsound, hrecorded⟩ :=
    converse_recorded requests hera (start_sound hbegin hstart) hinitial
  exact ⟨_, _, shows_posts hsound, faithful_posts hsound.store hrecorded⟩

/-! ### Two posts -/

/-- The first administrator sends a request about posts. -/
def postsRequest (method path : String) (body : Option String) : Request :=
  ⟨method, ⟨defaultHost, path.toList, []⟩, [], false, some seedCookie,
    body.map fun text => ⟨some "application/json", text⟩⟩

/-- Two posts are created, the first is changed and the second is deleted. -/
def twoPosts : List (Instant × Request) :=
  [(0, postsRequest "POST" "/posts" (some "\x7b\"Title\":\"a\"\x7d")),
    (0, postsRequest "POST" "/posts" (some "\x7b\"Title\":\"b\"\x7d")),
    (0, postsRequest "PUT" ("/posts/" ++ Fresh.idText 2) (some "\x7b\"Title\":\"c\"\x7d")),
    (0, postsRequest "DELETE" ("/posts/" ++ Fresh.idText 3) none)]

/-- The first administrator asks for the live posts, and for the deleted ones. -/
def listRequest : Request := postsRequest "GET" "/posts" none

def trashRequest : Request := postsRequest "GET" "/posts/trash" none

/-- The ids of the records that a response lists. -/
def listedIds (response : Response) : List String :=
  match response.body with
  | some (.list ps) => ps.filterMap shownId?
  | _ => []

/-- The first of the two is listed as the change of it was answered, the second one is in the trash. -/
theorem posts_faithful_two :
    ∃ first live gone, start (.ofProfile .testing .standard) .standard "" 0 = .ok first ∧
      ((first.converse twoPosts).2.map fun x => x.response.status) = [201, 201, 200, 200] ∧
      (first.converse twoPosts).2.filterMap Exchange.created? = [Fresh.idText 2, Fresh.idText 3] ∧
      ((first.converse twoPosts).1.handle 0 listRequest).2.body = some (.list live) ∧
      ((first.converse twoPosts).1.handle 0 trashRequest).2.body = some (.list gone) ∧
      Faithful (first.converse twoPosts).2 live gone ∧
      live.filterMap shownId? = [Fresh.idText 2] ∧ Fresh.idText 3 ∈ gone.filterMap shownId? := by
  obtain ⟨first, hstart, hstatuses, hcreated, hlist, hlive, htrash, hknown⟩ :
      ∃ first, start (.ofProfile .testing .standard) .standard "" 0 = .ok first ∧
        ((first.converse twoPosts).2.map fun x => x.response.status) = [201, 201, 200, 200] ∧
        (first.converse twoPosts).2.filterMap Exchange.created?
          = [Fresh.idText 2, Fresh.idText 3] ∧
        ((first.converse twoPosts).1.arrival? 0 listRequest).map (·.2.1) = some .listPosts ∧
        listedIds ((first.converse twoPosts).1.handle 0 listRequest).2 = [Fresh.idText 2] ∧
        ((first.converse twoPosts).1.arrival? 0 trashRequest).map (·.2.1) = some .trash ∧
        (((first.converse twoPosts).1.arrival? 0 trashRequest).bind fun a =>
          (a.1.permitted a.2.2 viewPosts).toOption).isSome = true :=
    ⟨_, rfl, by decide +kernel⟩
  obtain ⟨live, gone, hshows, hfaithful⟩ :=
    posts_faithful inEra_zero hstart twoPosts (by simp [twoPosts, inEra_zero])
  obtain ⟨⟨m, e, v⟩, harrives, rfl⟩ := Option.map_eq_some_iff.1 hlist
  obtain ⟨-, hlistBody⟩ := hshows.list 0 listRequest m v harrives rfl rfl rfl
  have hids : live.filterMap shownId? = [Fresh.idText 2] := by
    rw [listedIds, hlistBody] at hlive
    exact hlive
  have hsecond : ∃ x ∈ (first.converse twoPosts).2, x.created? = some (Fresh.idText 3) :=
    List.mem_filterMap.1 (by rw [hcreated]; simp)
  have hgone : Fresh.idText 3 ∈ gone.filterMap shownId? := by
    have honce := hfaithful.once _ hsecond
    rw [hids, show [Fresh.idText 2].count (Fresh.idText 3) = 0 by decide +kernel,
      Nat.zero_add] at honce
    exact List.count_pos_iff.1 (by omega)
  obtain ⟨⟨m', e', v'⟩, harrives', rfl⟩ := Option.map_eq_some_iff.1 htrash
  rw [harrives', Option.bind_some] at hknown
  cases hcaller : m'.permitted v' viewPosts with
  | error reply => rw [hcaller] at hknown; cases hknown
  | ok caller =>
    obtain ⟨-, htrashBody⟩ := hshows.trash 0 trashRequest m' v' caller harrives' rfl hcaller
    exact ⟨first, live, gone, hstart, hstatuses, hcreated, hlistBody, htrashBody, hfaithful, hids,
      hgone⟩

end Service

end Pressroom
