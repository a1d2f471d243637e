import Pressroom.Proofs.Json.Object
import Pressroom.Proofs.Service.FieldLimit
import Pressroom.Proofs.Service.Lifecycle

/-!
A log of what is asked and answered about posts. Some answers tell a post: the one that they create,
change or bring back. The table of posts and the log stay in step: the posts of the table are those
that an answer created, and each live one is as an answer told it last. The handlers that write to
the table answer with the row as it is stored, and all others leave the table alone and tell
nothing.
-/
namespace Pressroom

open Web

/-! ### The log -/

/-- A request and the response to it. -/
structure Exchange where
  request : Request
  response : Response

/-- The id that the JSON of a record shows. -/
def shownId? (p : Json) : Option String :=
  match p.get? "ID" with
  | some (.text t) => t.string?
  | _ => none

instance (status : Nat) : Decidable (Successful status) :=
  inferInstanceAs (Decidable (200 ≤ status ∧ status < 300))

/-- The post that content shows which a handler answers with success, and its id: one that is created,
changed or brought back. -/
def toldBy? (found : Found) (p : Json) : Option (String × Json) :=
  match found with
  | .handler .createPost _ => (shownId? p).map fun id => (id, p)
  | .handler .updatePost id | .handler .restorePost id => some (id, p)
  | _ => none

namespace Exchange

/-- What the path and the method of the request lead to. -/
def found (x : Exchange) : Found := find x.request.target.path x.request.method

/-- The id of the post that an answer creates. -/
def created? (x : Exchange) : Option String :=
  match x.found with
  | .handler .createPost _ => if x.response.status = 201 then x.response.body.bind shownId? else none
  | _ => none

/-- The post that an answer tells, with its id. -/
def told? (x : Exchange) : Option (String × Json) :=
  if Successful x.response.status then x.response.body.bind (toldBy? x.found) else none

end Exchange

/-- How a post was told last. -/
def lastTold? (log : List Exchange) (id : String) : Option Json :=
  (log.filterMap Exchange.told?).reverse.lookup id

theorem lastTold?_none {log : List Exchange} {x : Exchange} (h : x.told? = none) (id : String) :
    lastTold? (log ++ [x]) id = lastTold? log id := by
  rw [lastTold?, List.filterMap_append, List.filterMap_cons_none h, List.filterMap_nil,
    List.append_nil, lastTold?]

theorem lastTold?_some {log : List Exchange} {x : Exchange} {told : String} {p : Json}
    (h : x.told? = some (told, p)) (id : String) :
    lastTold? (log ++ [x]) id = if id = told then some p else lastTold? log id := by
  rw [lastTold?, List.filterMap_append, List.filterMap_cons_some h, List.filterMap_nil]
  exact lookup_reverse_concat _ _ id

/-! ### Posts as they are shown -/

/-- The JSON of a post in an answer. -/
def showPost (r : Row PostData) : Json := r.item.postRecord.publicJson

/-- The JSON of a record that has its id in front shows it. -/
theorem shownId?_publicJson {x : Record} {id : String} {rest : List (String × Json)}
    (h : x.publicMembers = ("ID", .string id) :: rest) : shownId? x.publicJson = some id := by
  have hget : x.publicJson.get? "ID" = some (.text (Text.ofString id)) := by
    rw [Record.publicJson, h, Json.get?_ofFields]
    rfl
  rw [shownId?, hget]
  exact Text.string?_ofString id

theorem shownId?_showPost (r : Row PostData) : shownId? (showPost r) = some r.id :=
  shownId?_publicJson rfl

/-! ### The table and the log in step -/

/-- The posts of a table are those that were created, and the live ones are as they were told last. -/
structure Recorded (rows : List (Row PostData)) (log : List Exchange) : Prop where
  created : ∀ id, (∃ x ∈ log, x.created? = some id) ↔ ∃ r ∈ rows, r.id = id
  told : ∀ r ∈ rows, r.isLive = true → lastTold? log r.id = some (showPost r)

/-- What becomes of the table of posts in an exchange, and what the answer says of it. -/
inductive PostStep (rows : List (Row PostData)) (x : Exchange) : List (Row PostData) → Prop
  | still (created : x.created? = none) (told : x.told? = none) : PostStep rows x rows
  | added (r : Row PostData) (fresh : ∀ y ∈ rows, y.id ≠ r.id) (created : x.created? = some r.id)
      (told : x.told? = some (r.id, showPost r)) : PostStep rows x (rows ++ [r])
  | changed (r : Row PostData) (mem : r ∈ rows) (f : Row PostData → Row PostData)
      (keeps : Store.KeepsId f) (created : x.created? = none)
      (told : x.told? = some (r.id, showPost (f r))) : PostStep rows x (Store.reviseRow rows r.id f)
  | deleted (r : Row PostData) (mem : r ∈ rows) (f : Row PostData → Row PostData)
      (keeps : Store.KeepsId f) (gone : (f r).isLive = false) (created : x.created? = none)
      (told : x.told? = none) : PostStep rows x (Store.reviseRow rows r.id f)

theorem created_snoc {log : List Exchange} {x : Exchange} {id : String} :
    (∃ y ∈ log ++ [x], y.created? = some id) ↔
      (∃ y ∈ log, y.created? = some id) ∨ x.created? = some id := by
  simp only [List.mem_append, List.mem_singleton, or_and_right, exists_or, exists_eq_left]

theorem ids_of_revised {rows : List (Row PostData)} {f : Row PostData → Row PostData}
    (hf : Store.KeepsId f) (key id : String) :
    (∃ r ∈ Store.reviseRow rows key f, r.id = id) ↔ ∃ r ∈ rows, r.id = id := by
  simp only [← List.mem_map (f := fun r : Row PostData => r.id), Store.ids_reviseRow hf]

/-- One exchange keeps the table and the log in step. -/
theorem PostStep.recorded {rows rows' : List (Row PostData)} {log : List Exchange} {x : Exchange}
    (step : PostStep rows x rows') (hn : (rows.map (·.id)).Nodup) (h : Recorded rows log) :
    Recorded rows' (log ++ [x]) := by
  cases step with
  | still hcreated htold =>
    constructor
    · intro id
      rw [created_snoc, hcreated, h.created]
      simp
    · intro r hr hlive
      rw [lastTold?_none htold]
      exact h.told r hr hlive
  | added r hfresh hcreated htold =>
    constructor
    · intro id
      rw [created_snoc, hcreated, h.created]
      simp [or_and_right, exists_or]
    · intro y hy hlive
      rw [lastTold?_some htold]
      rcases List.mem_append.1 hy with hold | hnew
      · rw [if_neg (hfresh y hold)]
        exact h.told y hold hlive
      · rw [List.mem_singleton.1 hnew, if_pos rfl]
  | changed r hr f hf hcreated htold =>
    constructor
    · intro id
      rw [created_snoc, hcreated, h.created, ids_of_revised hf]
      simp
    · intro y hy hlive
      rw [lastTold?_some htold]
      rcases (Store.mem_reviseRow hn hr).1 hy with rfl | ⟨hold, hne⟩
      · rw [if_pos (hf r)]
      · rw [if_neg hne]
        exact h.told y hold hlive
  | deleted r hr f hf hgone hcreated htold =>
    constructor
    · intro id
      rw [created_snoc, hcreated, h.created, ids_of_revised hf]
      simp
    · intro y hy hlive
      rw [lastTold?_none htold]
      rcases (Store.mem_reviseRow hn hr).1 hy with rfl | ⟨hold, -⟩
      · -- Nothing has to be told of a post that is deleted.
        cases hgone.symm.trans hlive
      · exact h.told y hold hlive

/-! ### What an answer tells -/

namespace Exchange

variable {x : Exchange}

/-- An answer that does not report success tells nothing. -/
theorem quiet (h : ¬ Successful x.response.status) : x.created? = none ∧ x.told? = none := by
  have hcreated : x.response.status ≠ 201 :=
    fun hstatus => h (hstatus ▸ Service.successful_created)
  refine ⟨?_, by rw [told?, if_neg h]⟩
  rw [created?]
  split
  · rw [if_neg hcreated]
  · rfl

/-- So does one without content. -/
theorem mute (h : x.response.body = none) : x.created? = none ∧ x.told? = none := by
  rw [created?, told?, h]
  constructor
  · split
    · split <;> rfl
    · rfl
  · split <;> rfl

/-- So does the answer of any handler but three. -/
theorem elsewhere {e : Endpoint} {id : String} (hfound : x.found = .handler e id)
    (he : e ≠ .createPost ∧ e ≠ .updatePost ∧ e ≠ .restorePost) :
    x.created? = none ∧ x.told? = none := by
  obtain ⟨hcreate, hupdate, hrestore⟩ := he
  have htold : toldBy? (.handler e id) = fun _ => none := by
    funext p
    rw [toldBy?.eq_def]
    split
    · rename_i h; cases h; exact absurd rfl hcreate
    · rename_i h; cases h; exact absurd rfl hupdate
    · rename_i h; cases h; exact absurd rfl hrestore
    · rfl
  constructor
  · rw [created?, hfound]
    split
    · rename_i h; cases h; exact absurd rfl hcreate
    · rfl
  · rw [told?, hfound, htold, Option.bind_fun_none]
    exact ite_self none

theorem tells_created {id : String} {r : Row PostData} (hfound : x.found = .handler .createPost id)
    (hstatus : x.response.status = 201) (hbody : x.response.body = some (showPost r)) :
    x.created? = some r.id ∧ x.told? = some (r.id, showPost r) := by
  rw [created?, told?, hfound, hstatus, hbody, Option.bind_some, Option.bind_some]
  dsimp only [toldBy?]
  rw [shownId?_showPost]
  exact ⟨rfl, rfl⟩

theorem tells_changed {e : Endpoint} {id : String} {r : Row PostData}
    (hfound : x.found = .handler e id) (he : e = .updatePost ∨ e = .restorePost)
    (hstatus : x.response.status = 200) (hbody : x.response.body = some (showPost r)) :
    x.created? = none ∧ x.told? = some (id, showPost r) := by
  rw [created?, told?, hfound, hstatus, hbody]
  rcases he with rfl | rfl <;> exact ⟨rfl, rfl⟩

end Exchange

namespace Service

open Store

variable {s : Service} {v : Visit}

/-! ### What the handlers for posts do -/

/-- The posts are left alone, and the answer does not report success. -/
def LeavesPosts (s : Service) (out : Service × Reply) : Prop :=
  out.1.store.posts = s.store.posts ∧ ¬ Successful out.2.status

theorem leavesPosts_refused {reply : Reply} (h : 300 ≤ reply.status) : s.LeavesPosts (s, reply) :=
  ⟨rfl, not_successful _ h⟩

theorem Refuses.leavesPosts {reply : Reply} (h : Refuses reply) : s.LeavesPosts (s, reply) :=
  ⟨rfl, h.not_successful⟩

/-- A new post is answered as it is stored. -/
def Adds201 (s : Service) (out : Service × Reply) : Prop :=
  ∃ r, (∀ y ∈ s.store.posts, y.id ≠ r.id) ∧ out.1.store.posts = s.store.posts ++ [r] ∧
    out.2 = .json 201 (showPost r)

/-- A changed post is answered as it is stored. -/
def Changes200 (s : Service) (v : Visit) (out : Service × Reply) : Prop :=
  ∃ r ∈ s.store.posts, r.id = v.id ∧ ∃ f, KeepsId f ∧
    out.1.store.posts = reviseRow s.store.posts r.id f ∧ out.2 = .json 200 (showPost (f r))

theorem createPost_tells (hnow : InEra v.now) :
    s.LeavesPosts (s.createPost v) ∨ s.Adds201 (s.createPost v) := by
  rw [createPost]
  refine guarded_cases (motive := fun out => s.LeavesPosts out ∨ s.Adds201 out)
    (fun reply h => .inl (permitted_refuses h).leavesPosts) fun caller _ => ?_
  split
  · exact .inl (leavesPosts_refused (show 300 ≤ 400 by decide))
  · split
    · exact .inl (leavesPosts_refused (show 300 ≤ 400 by decide))
    · rename_i parts _
      rw [addPost]
      cases hmade : s.store.createPost s.fresh.nextId v.now parts with
      | error f => exact .inl ⟨rfl, not_successful _ (show 300 ≤ 500 by decide)⟩
      | ok made =>
        obtain ⟨store, post⟩ := made
        obtain ⟨data, -, hfresh, rfl, rfl⟩ := createPost_eq_ok hmade
        refine .inr ⟨.newRow s.fresh.nextId data v.now, hfresh, rfl, ?_⟩
        rw [showPost, Entry.item_newRow hnow]
        rfl

/-- A post that was changed and is live is read back as it is stored. -/
theorem readBack_tells (hs : s.store.Sound) {store : Store} (hstore : store.Sound)
    {r : Row PostData} (hr : r ∈ s.store.posts) (hkey : Store.bind v.key = .ok r.id)
    {f : Row PostData → Row PostData} (hf : KeepsId f) (hlive : (f r).isLive = true)
    (hposts : store.posts = reviseRow s.store.posts r.id f) (failed : Reply) :
    s.Changes200 v (match store.post? v.key false with
      | .ok (some p) => ({ s with store }, postReply 200 p)
      | _ => ({ s with store }, failed)) := by
  have hid : v.id = r.id := Text.ofString_injective (bind_eq_ok_iff.1 hkey)
  have hmem : f r ∈ store.posts := by
    rw [hposts]; exact (mem_reviseRow hs.posts.ids hr).2 (.inl rfl)
  have hfound : findRow? store.posts false (f r).id = some (f r) :=
    findRow?_of_mem hstore.posts.ids hmem (.inr hlive)
  rw [hf r, ← hid] at hfound
  rw [Visit.key, hstore.post?, hfound]
  exact ⟨r, hr, hid.symm, f, hf, hposts, rfl⟩

theorem updatePost_tells (hs : s.store.Sound) (hnow : InEra v.now) :
    s.LeavesPosts (s.updatePost v) ∨ s.Changes200 v (s.updatePost v) := by
  rw [updatePost]
  refine guarded_cases (motive := fun out => s.LeavesPosts out ∨ s.Changes200 v out)
    (fun reply h => .inl (permitted_refuses h).leavesPosts) fun caller _ => ?_
  split
  · exact .inl (leavesPosts_refused (show 300 ≤ 400 by decide))
  · split
    · exact .inl (leavesPosts_refused (show 300 ≤ 400 by decide))
    · rename_i changes _
      split
      · exact .inl (leavesPosts_refused (show 300 ≤ 400 by decide))
      · rename_i hsome
        dsimp only
        cases hmade : s.store.updatePost v.key v.now changes with
        | error f => exact .inl (leavesPosts_refused (show 300 ≤ 500 by decide))
        | ok made =>
          obtain ⟨store, found⟩ := made
          cases found with
          | false => exact .inl (leavesPosts_refused (show 300 ≤ 404 by decide))
          | true =>
            obtain ⟨-, hempty | h⟩ | ⟨-, r, change, hr, hkey, -, hstore⟩ := updatePost_eq_ok hmade
            · exact absurd hempty hsome
            · cases h
            · obtain ⟨hmem, -, hlive⟩ := findRow?_live hr
              have w : Write v.now s.store store := hstore ▸ .revisePost r change hr
              exact .inr (readBack_tells hs (w.sound hnow hs) hmem hkey
                (keepsId_revised v.now change) hlive (by rw [hstore]) _)

theorem restorePost_tells (hs : s.store.Sound) (hnow : InEra v.now) :
    s.LeavesPosts (s.restorePost v) ∨ s.Changes200 v (s.restorePost v) := by
  rw [restorePost]
  refine guarded_cases (motive := fun out => s.LeavesPosts out ∨ s.Changes200 v out)
    (fun reply h => .inl (permitted_refuses h).leavesPosts) fun caller _ => ?_
  cases hmade : s.store.restorePost v.key v.now with
  | error f => exact .inl (leavesPosts_refused (show 300 ≤ 500 by decide))
  | ok made =>
    obtain ⟨store, found⟩ := made
    obtain ⟨-, rfl⟩ | ⟨rfl, r, hr, hgone, hkey, hstore⟩ := restorePost_eq_ok hmade
    · exact .inl (leavesPosts_refused (show 300 ≤ 404 by decide))
    · have w : Write v.now s.store store := hstore ▸ .restorePost r hr hgone
      exact .inr (readBack_tells hs (w.sound hnow hs) (findRow?_eq_some hr).1 hkey
        (keepsId_restored v.now) rfl (by rw [hstore]) _)

/-- A post is deleted or left as it is. -/
theorem deletePost_tells :
    (s.deletePost v).1.store.posts = s.store.posts ∨ ∃ r ∈ s.store.posts,
      (s.deletePost v).1.store.posts = reviseRow s.store.posts r.id (softDeleted v.now) := by
  rcases dispatch_turns (s := s) (v := v) (e := .deletePost) rfl with hsame | hdone
  · exact .inl (congrArg Store.posts hsame)
  · obtain ⟨-, h⟩ | ⟨-, r, hr, -, hafter⟩ := deletePost_eq_ok hdone
    · cases h
    · exact .inr ⟨r, (findRow?_live hr).1, congrArg Store.posts hafter⟩

/-! ### Requests -/

section Exchange

variable {m : Service} {now : Instant} {r : Request} {e : Endpoint}

/-- Nothing becomes of the posts, and nothing is told. -/
theorem postStep_of_leaves (harrival : s.arrival? now r = some (m, e, v))
    (h : m.LeavesPosts (m.dispatch e v)) :
    PostStep s.store.posts ⟨r, (s.handle now r).2⟩ (s.handle now r).1.store.posts := by
  obtain ⟨hleft, hstatus⟩ := handle_arrived harrival
  obtain ⟨hposts, hfails⟩ := h
  rw [hleft, hposts, (arrival?_same harrival).store]
  obtain ⟨hcreated, htold⟩ :=
    Exchange.quiet (x := ⟨r, (s.handle now r).2⟩) (by rw [hstatus]; exact hfails)
  exact .still hcreated htold

theorem postStep_of_changes (harrival : s.arrival? now r = some (m, e, v))
    (he : e = .updatePost ∨ e = .restorePost) (h : m.Changes200 v (m.dispatch e v)) :
    PostStep s.store.posts ⟨r, (s.handle now r).2⟩ (s.handle now r).1.store.posts := by
  obtain ⟨hleft, hstatus⟩ := handle_arrived harrival
  have hbody := handle_body_of_write harrival (by rcases he with rfl | rfl <;> rfl)
  obtain ⟨row, hrow, hid, f, hf, hposts, hreply⟩ := h
  rw [hreply] at hstatus hbody
  obtain ⟨hcreated, htold⟩ := Exchange.tells_changed (x := ⟨r, (s.handle now r).2⟩)
    (arrival?_found harrival) he hstatus hbody
  rw [← hid] at htold
  rw [hleft, hposts, ← (arrival?_same harrival).store]
  exact .changed row hrow f hf hcreated htold

end Exchange

/-- What becomes of the posts in one exchange. -/
theorem handle_postStep (hs : s.Sound) {now : Instant} (hnow : InEra now) (r : Request) :
    PostStep s.store.posts ⟨r, (s.handle now r).2⟩ (s.handle now r).1.store.posts := by
  cases harrival : s.arrival? now r with
  | none =>
    have hbody : (s.handle now r).2.body = none := by
      rw [handle]
      dsimp only
      rw [respond, (answer_turned_away harrival).body]
      exact ite_self none
    obtain ⟨hcreated, htold⟩ := Exchange.mute (x := ⟨r, (s.handle now r).2⟩) hbody
    rw [(handle_turned_away harrival).store]
    exact .still hcreated htold
  | some arrival =>
    obtain ⟨m, e, v⟩ := arrival
    have hm : m.store = s.store := (arrival?_same harrival).store
    have hms : m.store.Sound := hm ▸ hs.store
    have hv : InEra v.now := (arrival?_visit harrival).1 ▸ hnow
    have hfound := arrival?_found harrival
    obtain ⟨hleft, hstatus⟩ := handle_arrived harrival
    by_cases hcreate : e = .createPost
    · subst hcreate
      rcases createPost_tells (s := m) hv with h | ⟨row, hfresh, hposts, hreply⟩
      · exact postStep_of_leaves harrival h
      · have hbody := handle_body_of_write harrival rfl
        rw [dispatch, hreply] at hstatus hbody
        obtain ⟨hcreated, htold⟩ :=
          Exchange.tells_created (x := ⟨r, (s.handle now r).2⟩) hfound hstatus hbody
        rw [hleft, dispatch, hposts, hm]
        exact .added row (hm ▸ hfresh) hcreated htold
    by_cases hupdate : e = .updatePost
    · subst hupdate
      rcases updatePost_tells hms hv with h | h
      · exact postStep_of_leaves harrival h
      · exact postStep_of_changes harrival (.inl rfl) h
    by_cases hrestore : e = .restorePost
    · subst hrestore
      rcases restorePost_tells hms hv with h | h
      · exact postStep_of_leaves harrival h
      · exact postStep_of_changes harrival (.inr rfl) h
    obtain ⟨hcreated, htold⟩ := Exchange.elsewhere (x := ⟨r, (s.handle now r).2⟩) hfound
      ⟨hcreate, hupdate, hrestore⟩
    by_cases hdelete : e = .deletePost
    · subst hdelete
      rw [hleft, dispatch]
      rcases deletePost_tells (s := m) (v := v) with hposts | ⟨row, hrow, hposts⟩
      · rw [hposts, hm]
        exact .still hcreated htold
      · rw [hposts, hm]
        exact .deleted row (hm ▸ hrow) _ (keepsId_softDeleted v.now) rfl hcreated htold
    · -- The handlers that are left change rows of other kinds at most.
      have hkind : RecordKind.post ≠ e.kind := by
        intro h
        cases e <;> cases h <;> contradiction
      have hposts : (m.dispatch e v).1.store.posts = m.store.posts := dispatch_rows_of_ne hkind
      rw [hleft, hposts, hm]
      exact .still hcreated htold

/-! ### Runs -/

/-- What requests leave, one after the other, and what is exchanged. -/
def converse (s : Service) : List (Instant × Request) → Service × List Exchange
  | [] => (s, [])
  | (now, r) :: rest =>
    let (t, response) := s.handle now r
    let (last, log) := t.converse rest
    (last, ⟨r, response⟩ :: log)

theorem converse_cons (s : Service) (now : Instant) (r : Request) (rest : List (Instant × Request)) :
    s.converse ((now, r) :: rest) = (((s.handle now r).1.converse rest).1,
      ⟨r, (s.handle now r).2⟩ :: ((s.handle now r).1.converse rest).2) := rfl

/-- A run keeps the service sound, and its posts and the log in step. -/
theorem converse_recorded (requests : List (Instant × Request)) (hera : ∀ p ∈ requests, InEra p.1)
    (hs : s.Sound) {log : List Exchange} (h : Recorded s.store.posts log) :
    (s.converse requests).1.Sound ∧
      Recorded (s.converse requests).1.store.posts (log ++ (s.converse requests).2) := by
  induction requests generalizing s log with
  | nil => exact ⟨hs, by rw [converse, List.append_nil]; exact h⟩
  | cons p rest ih =>
    -- The log grows at its end, so the rest is a run from the longer log.
    obtain ⟨now, r⟩ := p
    obtain ⟨hnow, hrest⟩ := List.forall_mem_cons.1 hera
    have hnext : (s.handle now r).1.Sound := (Step.request now r hnow).sound hs
    have hstep := (handle_postStep hs hnow r).recorded hs.store.posts.ids h
    rw [converse_cons, List.append_cons]
    exact ih hrest hnext hstep

theorem start_posts {policy : Policy} {settings : Settings} {platform : String} {now : Instant}
    {first : Service} (h : start policy settings platform now = .ok first) :
    first.store.posts = [] := start_rows (k := .post) h (by decide)

end Service

end Pressroom
