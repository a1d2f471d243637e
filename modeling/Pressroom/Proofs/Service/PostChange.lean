import Pressroom.Proofs.Service.Answers
import Pressroom.Proofs.Service.PostLists
import Pressroom.Proofs.Service.UserChange

/-!
The change of a post, part by part. A part that is not named stays, one that is null goes, and of one
that is a text the store gets what is kept of it. All parts are cleaned before anything is stored, so
one that is refused leaves all of them as they were. So does a text with a lone half, which passes its
check and cannot be stored; then the answer is that of a failure.
-/
namespace Pressroom

open Web

/-! ### The parts of a post -/

/-- A part of a post: the body, or one that has a limit. -/
inductive PostPart where
  | body
  | limited (f : PostField)

namespace PostPart

open Service

variable {p : PostPart} {data : Json} {changes : PostChanges} {t : Text}

def name : PostPart → String
  | body => "Body"
  | limited f => f.name

/-- The change of a part. -/
def change (c : PostChanges) : PostPart → Option (Option Text)
  | body => c.body
  | limited f => f.change c

/-- The part of a stored post. -/
def stored (d : PostData) : PostPart → Option String
  | body => d.body
  | limited f => f.stored d

/-- What is kept of a text that is sent: the body is not cleaned. -/
def kept (t : Text) : PostPart → Text
  | body => t
  | limited f => t.kept f.limit

/-- A post is known by its parts. -/
theorem stored_ext {a b : PostData} (h : ∀ p : PostPart, p.stored a = p.stored b) : a = b := by
  obtain ⟨type, body, title, author⟩ := a
  obtain ⟨type', body', title', author'⟩ := b
  obtain rfl : type = type' := h (.limited .type)
  obtain rfl : body = body' := h .body
  obtain rfl : title = title' := h (.limited .title)
  obtain rfl : author = author' := h (.limited .author)
  rfl

/-- What is kept of a text has no lone half if the text has none. -/
theorem kept_unbroken (p : PostPart) (h : t.Unbroken) : (p.kept t).Unbroken := by
  cases p with
  | body => exact h
  | limited f => exact h.sublist (t.kept_sublist f.limit)

/-- A part is named, and refused when it is cleaned. -/
def Fails (data : Json) (p : PostPart) : Prop :=
  ∃ sent c, data.get? p.name = some sent ∧ cleanPart p.name sent = .error c

/-- A part is a text, and what is kept of it has a lone half. -/
def Breaks (data : Json) (p : PostPart) : Prop :=
  ∃ t, data.get? p.name = some (.text t) ∧ ¬ (p.kept t).Unbroken

/-- What content makes of a part. -/
inductive Becomes (data : Json) (p : PostPart) (old : Option String) : Option String → Prop
  | stays (absent : data.get? p.name = none) : Becomes data p old old
  | goes (null : data.get? p.name = some .null) : Becomes data p old none
  | stored (t : Text) (new : String) (sent : data.get? p.name = some (.text t))
      (same : Text.ofString new = p.kept t) : Becomes data p old (some new)

/-- The same content makes no more of a part than it has made. -/
theorem Becomes.again {old new newer : Option String} (h : Becomes data p old new)
    (h' : Becomes data p new newer) : newer = new := by
  cases h' with
  | stays => rfl
  | goes null =>
    cases h with
    | stays absent => cases absent.symm.trans null
    | goes => rfl
    | stored _ _ sent => cases sent.symm.trans null
  | stored t newer sent hnewer =>
    cases h with
    | stays absent => cases absent.symm.trans sent
    | goes null => cases null.symm.trans sent
    | stored _ _ sent' hnew =>
      cases sent.symm.trans sent'
      exact congrArg some (Text.ofString_injective (hnewer.trans hnew.symm))

/-- A part that is null is gone. -/
theorem Becomes.gone {old new : Option String} (h : Becomes data p old new)
    (hnull : data.get? p.name = some .null) : new = none := by
  cases h with
  | stays absent => cases absent.symm.trans hnull
  | goes => rfl
  | stored _ _ sent => cases sent.symm.trans hnull

/-! ### Reading the changes -/

/-- A text that passes is cleaned to what is kept of it. -/
theorem cleanPart_kept {cleaned : Option Text} (h : cleanPart p.name (.text t) = .ok cleaned) :
    cleaned = some (p.kept t) := by
  cases p with
  | body => exact (Except.ok.inj h).symm
  | limited f =>
    rw [name, cleanPart_text] at h
    split at h
    · cases h
    · exact (Except.ok.inj h).symm

theorem readChange_eq_error {key : String} {c : Complaint} :
    readChange data key = .error c ↔
      ∃ sent, data.get? key = some sent ∧ cleanPart key sent = .error c := by
  rw [readChange]
  cases data.get? key with
  | none => simp
  | some sent =>
    simp only [Option.some.injEq, exists_eq_left']
    cases cleanPart key sent <;> simp [Except.map]

/-- Changes are read part by part. -/
theorem readChange_of_readChanges (h : readChanges data = .ok changes) (p : PostPart) :
    readChange data p.name = .ok (p.change changes) := by
  cases p with
  | limited f => exact readChanges_change h f
  | body =>
    obtain ⟨type, -, h⟩ := bind_eq_ok.1 h
    obtain ⟨body, hbody, h⟩ := bind_eq_ok.1 h
    obtain ⟨title, -, h⟩ := bind_eq_ok.1 h
    obtain ⟨author, -, h⟩ := bind_eq_ok.1 h
    cases h
    exact hbody

/-- Changes are refused exactly if one of the parts is. -/
theorem readChanges_fails_iff :
    (∃ c, readChanges data = .error c) ↔ ∃ p : PostPart, p.Fails data := by
  constructor
  · rintro ⟨c, h⟩
    have hfails : ∀ (p : PostPart) (c : Complaint), readChange data p.name = .error c →
        ∃ p : PostPart, p.Fails data := fun p c hread =>
      have ⟨sent, hsent, hclean⟩ := readChange_eq_error.1 hread
      ⟨p, sent, c, hsent, hclean⟩
    rcases bind_eq_error.1 h with htype | ⟨_, -, h⟩
    · exact hfails (.limited .type) c htype
    rcases bind_eq_error.1 h with hbody | ⟨_, -, h⟩
    · exact hfails .body c hbody
    rcases bind_eq_error.1 h with htitle | ⟨_, -, h⟩
    · exact hfails (.limited .title) c htitle
    rcases bind_eq_error.1 h with hauthor | ⟨_, -, h⟩
    · exact hfails (.limited .author) c hauthor
    · cases h
  · rintro ⟨p, sent, c, hsent, hclean⟩
    cases h : readChanges data with
    | error c => exact ⟨c, rfl⟩
    | ok changes =>
      have hread := readChange_eq_error.2 ⟨sent, hsent, hclean⟩
      cases hread.symm.trans (readChange_of_readChanges h p)

/-- Changes that name a part are not empty. -/
theorem not_isEmpty (h : readChanges data = .ok changes)
    (hnamed : ∃ p : PostPart, data.get? p.name ≠ none) : changes.isEmpty = false := by
  obtain ⟨p, hp⟩ := hnamed
  have hchange : p.change changes ≠ none := by
    intro hnone
    have hread := readChange_of_readChanges h p
    rw [hnone, readChange] at hread
    split at hread
    · rename_i habsent; exact hp habsent
    · obtain ⟨_, -, hsome⟩ := map_eq_ok.1 hread
      cases hsome
  rw [Bool.eq_false_iff]
  intro hempty
  simp only [PostChanges.isEmpty, Bool.and_eq_true, Option.isNone_iff_eq_none] at hempty
  obtain ⟨⟨⟨htype, hbody⟩, htitle⟩, hauthor⟩ := hempty
  cases p with
  | body => exact hchange hbody
  | limited f => cases f <;> exact hchange ‹_›

/-- What is bound of a change is what the content makes of the part. -/
theorem becomes_of_read (h : readChanges data = .ok changes) {bound : Option (Option String)}
    (hbound : Store.bindPart (p.change changes) = .ok bound) (old : Option String) :
    Becomes data p old (bound.getD old) := by
  have hread := readChange_of_readChanges h p
  rw [readChange] at hread
  generalize p.change changes = change at hread hbound
  split at hread
  · rename_i habsent
    cases hread
    cases hbound
    exact .stays habsent
  · rename_i sent hsent
    obtain ⟨cleaned, hclean, rfl⟩ := map_eq_ok.1 hread
    obtain ⟨string, hstring, rfl⟩ := map_eq_ok.1 hbound
    cases sent with
    | null => cases hclean; cases hstring; exact .goes hsent
    | text t =>
      obtain rfl := cleanPart_kept hclean
      obtain ⟨new, hnew, rfl⟩ := map_eq_ok.1 hstring
      exact .stored t new hsent (Store.bind_eq_ok_iff.1 hnew).symm
    | _ => cases hclean

/-- The change of a part gets into the store unless what is kept has a lone half. -/
theorem binds_iff (h : readChanges data = .ok changes) (p : PostPart) :
    (∃ bound, Store.bindPart (p.change changes) = .ok bound) ↔ ¬ p.Breaks data := by
  constructor
  · rintro ⟨bound, hbound⟩ ⟨t, hsent, hbroken⟩
    have hbecomes := becomes_of_read h hbound none
    generalize bound.getD none = new at hbecomes
    cases hbecomes with
    | stays absent => cases absent.symm.trans hsent
    | goes null => cases null.symm.trans hsent
    | stored t' new sent same =>
      cases sent.symm.trans hsent
      exact hbroken (same ▸ Text.unbroken_ofString new)
  · intro hwhole
    refine Store.bindPart_of_unbroken fun t ht => ?_
    have hread := readChange_of_readChanges h p
    rw [ht, readChange] at hread
    split at hread
    · cases hread
    · rename_i sent hsent
      obtain ⟨cleaned, hclean, hsame⟩ := map_eq_ok.1 hread
      cases hsame
      cases sent with
      | text x =>
        cases cleanPart_kept hclean
        exact not_not.1 fun hbroken => hwhole ⟨x, hsent, hbroken⟩
      | null => cases hclean
      | _ => cases hclean

end PostPart

namespace Store

variable {s t : Store} {now : Instant} {id : String} {row : Row PostData} {c : PostChanges}

/-! ### What the store does -/

/-- The store after the post with an id was given other data. -/
def withPostData (s : Store) (id : String) (now : Instant) (data : PostData) : Store :=
  { s with posts := reviseRow s.posts id (revised now fun _ => data) }

theorem findRow?_withPostData (hrow : findRow? s.posts false id = some row) (now : Instant)
    (data : PostData) : findRow? (s.withPostData id now data).posts false id
      = some (revised now (fun _ => data) row) := by
  obtain ⟨-, rfl, -⟩ := findRow?_live hrow
  exact findRow?_revised hrow now _

/-- Changes of a live post are made if all of them can be bound. -/
theorem updatePost_live (hs : s.Sound) (hrow : findRow? s.posts false id = some row)
    (hsome : c.isEmpty = false) (hbinds : ∀ p : PostPart, ∃ bound, bindPart (p.change c) = .ok bound)
    (now : Instant) : ∃ new, s.updatePost (Text.ofString id) now c = .ok (s.withPostData id now new, true) ∧
      ∀ p : PostPart, ∃ bound, bindPart (p.change c) = .ok bound ∧
        p.stored new = bound.getD (p.stored row.data) := by
  obtain ⟨type, htype⟩ := hbinds (.limited .type)
  obtain ⟨body, hbody⟩ := hbinds .body
  obtain ⟨title, htitle⟩ := hbinds (.limited .title)
  obtain ⟨author, hauthor⟩ := hbinds (.limited .author)
  refine ⟨⟨type.getD row.data.type, body.getD row.data.body, title.getD row.data.title,
    author.getD row.data.author⟩, ?_, fun p => ?_⟩
  · have htype : bindPart c.type = .ok type := htype
    have hbody : bindPart c.body = .ok body := hbody
    have htitle : bindPart c.title = .ok title := htitle
    have hauthor : bindPart c.author = .ok author := hauthor
    rw [updatePost, if_neg (by rw [hsome]; decide), hs.ready.need.2.1, ok_bind, htype, ok_bind, hbody,
      ok_bind, htitle, ok_bind, hauthor, ok_bind, bind_ofString, ok_bind, hrow]
    obtain ⟨hmem, rfl, -⟩ := findRow?_live hrow
    rw [withPostData, reviseRow_congr hs.posts.ids hmem]
    · rfl
    · rfl
  · cases p with
    | body => exact ⟨body, hbody, rfl⟩
    | limited f =>
      cases f with
      | title => exact ⟨title, htitle, rfl⟩
      | type => exact ⟨type, htype, rfl⟩
      | author => exact ⟨author, hauthor, rfl⟩

/-- Changes that were made could all be bound. -/
theorem binds_of_updatePost {key : Text} {found : Bool} (hsome : c.isEmpty = false)
    (h : s.updatePost key now c = .ok (t, found)) (p : PostPart) :
    ∃ bound, bindPart (p.change c) = .ok bound := by
  rw [updatePost, if_neg (by rw [hsome]; decide)] at h
  obtain ⟨-, -, h⟩ := bind_eq_ok.1 h
  obtain ⟨type, htype, h⟩ := bind_eq_ok.1 h
  obtain ⟨body, hbody, h⟩ := bind_eq_ok.1 h
  obtain ⟨title, htitle, h⟩ := bind_eq_ok.1 h
  obtain ⟨author, hauthor, -⟩ := bind_eq_ok.1 h
  cases p with
  | body => exact ⟨body, hbody⟩
  | limited f =>
    cases f with
    | title => exact ⟨title, htitle⟩
    | type => exact ⟨type, htype⟩
    | author => exact ⟨author, hauthor⟩

end Store

namespace Service

open Store

variable {s m : Service} {v : Visit} {caller : Caller} {data : Json} {row : Row PostData}

/-! ### What the handler does -/

/-- Changes that name a part of a live post, sent by somebody who may change posts. -/
structure ChangesPost (s : Service) (v : Visit) (data : Json) (row : Row PostData) : Prop where
  permitted : ∃ caller, s.permitted v editPosts = .ok caller
  sent : v.request.object? = some data
  live : findRow? s.store.posts false v.id = some row
  named : ∃ p : PostPart, data.get? p.name ≠ none

namespace ChangesPost

theorem refused (h : s.ChangesPost v data row) (hfails : ∃ p : PostPart, p.Fails data) :
    ∃ c, s.updatePost v = (s, refusal c) := by
  obtain ⟨caller, hcaller⟩ := h.permitted
  obtain ⟨c, hread⟩ := PostPart.readChanges_fails_iff.2 hfails
  refine ⟨c, ?_⟩
  rw [updatePost, guarded, hcaller]
  dsimp only
  rw [h.sent]
  dsimp only
  rw [hread]

/-- What the handler does once all parts are clean. -/
theorem updatePost_eq (h : s.ChangesPost v data row) (hclean : ¬ ∃ p : PostPart, p.Fails data) :
    ∃ changes, readChanges data = .ok changes ∧ changes.isEmpty = false ∧
      s.updatePost v = match s.store.updatePost v.key v.now changes with
        | .error _ => (s, .error 500 "Failed to update post")
        | .ok (_, false) => (s, postNotFound)
        | .ok (store, true) =>
          match store.post? v.key false with
          | .ok (some p) => ({ s with store }, postReply 200 p)
          | _ => ({ s with store }, .error 500 "Failed to update post") := by
  obtain ⟨caller, hcaller⟩ := h.permitted
  cases hread : readChanges data with
  | error c => exact absurd (PostPart.readChanges_fails_iff.1 ⟨c, hread⟩) hclean
  | ok changes =>
    have hsome := PostPart.not_isEmpty hread h.named
    refine ⟨changes, rfl, hsome, ?_⟩
    rw [updatePost, guarded, hcaller]
    dsimp only
    rw [h.sent]
    dsimp only
    rw [hread]
    exact if_neg (by rw [hsome]; decide)

theorem fails (h : s.ChangesPost v data row) (hclean : ¬ ∃ p : PostPart, p.Fails data)
    (hbreaks : ∃ p : PostPart, p.Breaks data) :
    s.updatePost v = (s, .error 500 "Failed to update post") := by
  obtain ⟨changes, hread, hsome, heq⟩ := h.updatePost_eq hclean
  obtain ⟨p, hp⟩ := hbreaks
  rw [heq]
  cases hmade : s.store.updatePost v.key v.now changes with
  | error f => rfl
  | ok made => exact absurd hp ((PostPart.binds_iff hread p).1 (binds_of_updatePost hsome hmade p))

theorem succeeds (h : s.ChangesPost v data row) (hs : s.store.Sound) (hnow : InEra v.now)
    (hclean : ¬ ∃ p : PostPart, p.Fails data) (hwhole : ¬ ∃ p : PostPart, p.Breaks data) :
    ∃ new, (∀ p : PostPart, p.Becomes data (p.stored row.data) (p.stored new)) ∧
      s.updatePost v = ({ s with store := s.store.withPostData v.id v.now new },
        .json 200 (showPost (revised v.now (fun _ => new) row))) := by
  obtain ⟨changes, hread, hsome, heq⟩ := h.updatePost_eq hclean
  obtain ⟨new, hmade, hparts⟩ := updatePost_live hs h.live hsome
    (fun p => (PostPart.binds_iff hread p).2 fun hp => hwhole ⟨p, hp⟩) v.now
  refine ⟨new, fun p => ?_, ?_⟩
  · obtain ⟨bound, hbound, hnew⟩ := hparts p
    exact hnew ▸ PostPart.becomes_of_read hread hbound _
  · have hfound := findRow?_withPostData h.live v.now new
    have hsound : (s.store.withPostData v.id v.now new).Sound := by
      obtain ⟨-, hid, -⟩ := findRow?_live h.live
      have w : Write v.now s.store (s.store.withPostData row.id v.now new) :=
        .revisePost row _ (hid ▸ h.live)
      exact hid ▸ w.sound hnow hs
    rw [heq, Visit.key, hmade]
    dsimp only
    rw [hsound.post?, hfound]
    rfl

end ChangesPost

/-! ### Requests -/

section Requests

variable {now : Instant} {r : Request} {new : PostData}

/-- A post that is there as it was just changed is shown as in the answer to the change. -/
theorem getPost_shows (hs : s.Sound) (hrow : findRow? s.store.posts false v.id = some row)
    (harrival : s.arrival? now r = some (m, .getPost, v)) (hmethod : r.method = "GET") :
    (s.handle now r).2.status = 200 ∧ (s.handle now r).2.body = some (showPost row) := by
  have hm : m.store = s.store := (arrival?_same harrival).store
  rw [(handle_arrived harrival).2, handle_body harrival (by rw [hmethod]; decide), dispatch,
    getPost_eq (hm ▸ hs.store), hm, hrow]
  exact ⟨rfl, rfl⟩

/-- Data that a post has already is stored again, and nothing changes but the time. -/
theorem withPostData_same (hs : s.store.Sound) (hrow : findRow? s.store.posts false v.id = some row)
    (now : Instant) : s.store.withPostData v.id now row.data
      = { s.store with posts := reviseRow s.store.posts v.id (revised now id) } := by
  obtain ⟨hmem, hid, -⟩ := findRow?_live hrow
  rw [withPostData, ← hid, reviseRow_congr hs.posts.ids hmem]
  rfl

/-- What a change that succeeds leaves behind: the parts are as they were sent, the answer shows the
post as it is now, and nothing else has changed. -/
structure Changed (s : Service) (now : Instant) (r : Request) (row : Row PostData) (data : Json)
    (new : PostData) : Prop where
  parts : ∀ p : PostPart, p.Becomes data (p.stored row.data) (p.stored new)
  status : (s.handle now r).2.status = 200
  body : (s.handle now r).2.body = some (showPost (revised now (fun _ => new) row))
  store : (s.handle now r).1.store = s.store.withPostData row.id now new

theorem changed_of_arrival (hs : s.Sound) (hnow : InEra now)
    (harrival : s.arrival? now r = some (m, .updatePost, v)) (h : m.ChangesPost v data row)
    (hclean : ¬ ∃ p : PostPart, p.Fails data) (hwhole : ¬ ∃ p : PostPart, p.Breaks data) :
    ∃ new, s.Changed now r row data new := by
  have hm : m.store = s.store := (arrival?_same harrival).store
  obtain ⟨hv, -, -⟩ := arrival?_visit harrival
  obtain ⟨hleft, hstatus⟩ := handle_arrived harrival
  have hbody := handle_body_of_write harrival rfl
  obtain ⟨new, hparts, hdone⟩ := h.succeeds (hm ▸ hs.store) (hv ▸ hnow) hclean hwhole
  obtain ⟨-, hid, -⟩ := findRow?_live h.live
  rw [dispatch, hdone] at hleft hstatus hbody
  refine ⟨new, hparts, hstatus, hv ▸ hbody, ?_⟩
  rw [hleft, hid, ← hv, ← hm]

end Requests

/-! ### The main statement -/

/-- A permitted change that names a part of a live post is refused if a part does not pass, fails if what
is kept of a part has a lone half, and else is made. In the first two cases nothing is stored. In the
last the parts become what was sent and nothing changes but the time besides; the answer is what the
post is shown as by the next request for it, and the same request, sent again, changes the time alone. -/
theorem post_changed_as_sent {policy : Policy} {settings : Settings} {platform : String}
    {begin now : Instant} {first : Service} {r : Request} (hbegin : InEra begin)
    (hstart : start policy settings platform begin = .ok first) (hreach : first.Reaches s)
    (hnow : InEra now) (harrival : s.arrival? now r = some (m, .updatePost, v))
    (h : m.ChangesPost v data row) :
    ((∃ p : PostPart, p.Fails data) →
      (s.handle now r).2.status = 400 ∧ (s.handle now r).1.store = s.store) ∧
    ((¬ ∃ p : PostPart, p.Fails data) → (∃ p : PostPart, p.Breaks data) →
      (s.handle now r).2.status = 500 ∧ (s.handle now r).1.store = s.store) ∧
    ((¬ ∃ p : PostPart, p.Fails data) → (¬ ∃ p : PostPart, p.Breaks data) →
      (∃ new, s.Changed now r row data new) ∧
      (∀ later q m' v', (s.handle now r).1.arrival? later q = some (m', .getPost, v') →
        q.method = "GET" → v'.id = v.id → ((s.handle now r).1.handle later q).2.status = 200 ∧
          ((s.handle now r).1.handle later q).2.body = (s.handle now r).2.body) ∧
      ∀ later m' v' caller, InEra later →
        (s.handle now r).1.arrival? later r = some (m', .updatePost, v') →
          m'.permitted v' editPosts = .ok caller →
            ((s.handle now r).1.handle later r).2.status = 200 ∧
            ((s.handle now r).1.handle later r).1.store = { (s.handle now r).1.store with
              posts := reviseRow (s.handle now r).1.store.posts v.id (revised later id) }) ∧
    ∀ (p : PostPart) t, data.get? p.name = some (.text t) → t.Unbroken → ¬ p.Breaks data := by
  have hs : s.Sound := hreach.sound (start_sound hbegin hstart)
  have hm : m.store = s.store := (arrival?_same harrival).store
  obtain ⟨hleft, hstatus⟩ := handle_arrived harrival
  refine ⟨fun hfails => ?_, fun hclean hbreaks => ?_, fun hclean hwhole => ?_, ?_⟩
  · obtain ⟨c, hrefused⟩ := h.refused hfails
    rw [hleft, hstatus, dispatch, hrefused]
    exact ⟨rfl, hm⟩
  · rw [hleft, hstatus, dispatch, h.fails hclean hbreaks]
    exact ⟨rfl, hm⟩
  · obtain ⟨new, hchanged⟩ := changed_of_arrival hs hnow harrival h hclean hwhole
    obtain ⟨-, hid, -⟩ := findRow?_live h.live
    have hafter : (s.handle now r).1.Sound := (Step.request now r hnow).sound hs
    have hrow : findRow? (s.handle now r).1.store.posts false v.id
        = some (revised now (fun _ => new) row) := by
      rw [hchanged.store, hid]
      exact findRow?_withPostData (hm ▸ h.live) now new
    refine ⟨⟨new, hchanged⟩, fun later q m' v' harrival' hmethod hid' => ?_,
      fun later m' v' caller hlater harrival' hcaller => ?_⟩
    · rw [hchanged.body]
      exact getPost_shows hafter (hid' ▸ hrow) harrival' hmethod
    · -- The same content makes the same parts, so the data of the post stays what it is.
      have hm' : m'.store = (s.handle now r).1.store := (arrival?_same harrival').store
      have hid' : v'.id = v.id :=
        (Found.handler.inj ((arrival?_found harrival').symm.trans (arrival?_found harrival))).2
      have hagain : m'.ChangesPost v' data (revised now (fun _ => new) row) := by
        refine ⟨⟨caller, hcaller⟩, ?_, by rw [hm', hid', hrow], h.named⟩
        rw [(arrival?_visit harrival').2.1, ← (arrival?_visit harrival).2.1, h.sent]
      obtain ⟨newer, hchanged'⟩ := changed_of_arrival hafter hlater harrival' hagain hclean hwhole
      have hsame : newer = new :=
        PostPart.stored_ext fun p => (hchanged.parts p).again (hchanged'.parts p)
      have hid'' : (revised now (fun _ => new) row).id = v.id := hid
      refine ⟨hchanged'.status, ?_⟩
      rw [hchanged'.store, hid'', hsame]
      exact withPostData_same hafter.store hrow later
  · rintro p t hsent hunbroken ⟨t', hsent', hbroken⟩
    cases hsent.symm.trans hsent'
    exact hbroken (p.kept_unbroken hunbroken)

/-! ### A post that is changed -/

/-- A request arrives to change a live post by somebody who may do so. -/
def mayChange (a : Service × Endpoint × Visit) : Bool :=
  mayAsk .updatePost editPosts a && (findRow? a.1.store.posts false a.2.2.id).isSome

/-- A request that arrives so and names a part changes a post. -/
theorem changesPost_of_arrival {now : Instant} {r : Request}
    (harrives : (s.arrival? now r).any mayChange = true) (hdata : r.object? = some data)
    (hnamed : ∃ p : PostPart, data.get? p.name ≠ none) :
    ∃ m v row, s.arrival? now r = some (m, .updatePost, v) ∧ m.ChangesPost v data row := by
  obtain ⟨⟨m, e, v⟩, harrival, hmay⟩ := (Option.any_eq_true _ _).1 harrives
  rw [mayChange, Bool.and_eq_true, mayAsk_iff, Option.isSome_iff_exists] at hmay
  obtain ⟨⟨rfl, hpermitted⟩, row, hrow⟩ := hmay
  exact ⟨m, v, row, harrival, hpermitted, by rw [(arrival?_visit harrival).2.1, hdata], hrow, hnamed⟩

/-- The first administrator creates a post, changes it, and sends a title with a lone half for it. -/
def newTitle : Request := postsRequest "POST" "/posts" (some "\x7b\"Title\":\"a\"\x7d")

def titleAway : Request := postsRequest "PUT" ("/posts/" ++ Fresh.idText 2)
  (some "\x7b\"Type\":\"page\",\"Title\":null\x7d")

def halfTitle : Request := postsRequest "PUT" ("/posts/" ++ Fresh.idText 2)
  (some "\x7b\"Title\":\"\\ud800\"\x7d")

/-- The type is stored and the title is gone. -/
theorem post_changed_as_sent_title :
    ∃ first row data new, start (.ofProfile .testing .standard) .standard "" 0 = .ok first ∧
      titleAway.object? = some data ∧ data.get? "Title" = some .null ∧
      (first.handle 0 newTitle).1.Changed 0 titleAway row data new ∧ new.title = none := by
  obtain ⟨first, hstart, harrives, hstatus⟩ :
      ∃ first, start (.ofProfile .testing .standard) .standard "" 0 = .ok first ∧
        ((first.handle 0 newTitle).1.arrival? 0 titleAway).any mayChange = true ∧
        ((first.handle 0 newTitle).1.handle 0 titleAway).2.status = 200 :=
    ⟨_, rfl, by decide +kernel, by decide +kernel⟩
  have hread : (titleAway.object?.bind (·.get? "Title")).map Json.isNull = some true := by
    decide +kernel
  obtain ⟨value, hvalue, hnull⟩ := Option.map_eq_some_iff.1 hread
  obtain ⟨data, hdata, hget⟩ := Option.bind_eq_some_iff.1 hvalue
  have hget : data.get? (PostPart.limited .title).name = some .null := by
    cases value with
    | null => exact hget
    | _ => cases hnull
  obtain ⟨m, v, row, harrival, hchange⟩ :=
    changesPost_of_arrival harrives hdata ⟨.limited .title, by rw [hget]; rintro ⟨⟩⟩
  obtain ⟨hrefused, hfailed, hmade, -⟩ := post_changed_as_sent inEra_zero hstart
    (.tail .refl (.request 0 newTitle inEra_zero)) inEra_zero harrival hchange
  -- The answer is neither that of a refusal nor that of a failure.
  have hclean : ¬ ∃ p : PostPart, p.Fails data := fun h =>
    absurd (hstatus.symm.trans (hrefused h).1) (by decide)
  have hwhole : ¬ ∃ p : PostPart, p.Breaks data := fun h =>
    absurd (hstatus.symm.trans (hfailed hclean h).1) (by decide)
  obtain ⟨⟨new, hchanged⟩, -, -⟩ := hmade hclean hwhole
  exact ⟨first, row, data, new, hstart, hdata, hget, hchanged,
    (hchanged.parts (.limited .title)).gone hget⟩

/-- A title with a lone half passes its check, and the answer is that of a failure. -/
theorem broken_title_fails :
    ∃ first s m v data row t, start (.ofProfile .testing .standard) .standard "" 0 = .ok first ∧
      first.Reaches s ∧ s.arrival? 0 halfTitle = some (m, .updatePost, v) ∧
      m.ChangesPost v data row ∧ halfTitle.object? = some data ∧
      data.get? "Title" = some (.text t) ∧ ¬ t.Unbroken ∧
      (s.handle 0 halfTitle).2.status = 500 := by
  obtain ⟨first, hstart, harrives, hstatus⟩ :
      ∃ first, start (.ofProfile .testing .standard) .standard "" 0 = .ok first ∧
        ((first.handle 0 newTitle).1.arrival? 0 halfTitle).any mayChange = true ∧
        ((first.handle 0 newTitle).1.handle 0 halfTitle).2.status = 500 :=
    ⟨_, rfl, by decide +kernel, by decide +kernel⟩
  have hread : (halfTitle.object?.bind (·.get? "Title")).map textOf = some [.half 0] := by
    decide +kernel
  obtain ⟨value, hvalue, htext⟩ := Option.map_eq_some_iff.1 hread
  obtain ⟨data, hdata, hget⟩ := Option.bind_eq_some_iff.1 hvalue
  have hsome : textOf value ≠ [] := by rw [htext]; decide
  rw [eq_text_of_textOf hsome, htext] at hget
  obtain ⟨m, v, row, harrival, hchange⟩ := changesPost_of_arrival harrives hdata
    ⟨.limited .title, by rw [show (PostPart.limited .title).name = "Title" from rfl, hget]; rintro ⟨⟩⟩
  exact ⟨first, _, m, v, data, row, _, hstart, .tail .refl (.request 0 newTitle inEra_zero), harrival,
    hchange, hdata, hget, fun h => h _ List.mem_cons_self, hstatus⟩

end Service

end Pressroom
