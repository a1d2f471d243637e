import Pressroom.Proofs.Access.Mediation
import Pressroom.Proofs.Service.Issued
import Pressroom.Proofs.Service.Lifecycle
import Pressroom.Proofs.Service.Seed

/-!
Content that is no JSON object. The handlers that write read an object from the content, and refuse
whatever else they are sent before anything is written. Only a request for a key may come without
content; what cannot be read as JSON, or is null, counts as none there, so that a key is issued for the
caller, and one that never expires.
-/
namespace Pressroom

open Web

/-- The handlers that read a JSON object from the content. -/
def Web.Endpoint.readsObject : Endpoint → Bool
  | .createPost | .updatePost | .createUser | .updateUser | .createKey => true
  | _ => false

/-- The content counts as none: it is not there, or is not declared as JSON, or cannot be read as
JSON, or is null. -/
def Web.Request.CountsAsNone (r : Request) : Prop := r.json? = none ∨ r.json? = some .null

namespace Service

open Store

variable {s m : Service} {now : Instant} {r : Request} {e : Endpoint} {v : Visit} {caller : Caller}
  {permission : String}

/-! ### Refusals -/

/-- Content that is no object, and does not count as none, is refused by a request for a key. -/
theorem readKeyRequest_refuses (h : r.object? = none) (hsome : ¬ r.CountsAsNone) :
    readKeyRequest r = .error notObject := by
  unfold readKeyRequest
  split
  · rename_i hnone; exact absurd (.inl hnone) hsome
  · rename_i hnull; exact absurd (.inr hnull) hsome
  · rename_i data hdata
    rw [Request.object?, hdata] at h
    split
    · rename_i hobject
      rw [Option.filter_some, if_pos hobject] at h
      cases h
    · rfl

/-- A permitted caller who sends no object is refused, and nothing is written, unless a key is asked
for with content that counts as none. -/
theorem dispatch_refuses (hreads : e.readsObject = true) (hguard : e.permission? = some permission)
    (hcaller : s.permitted v permission = .ok caller) (h : v.request.object? = none)
    (hsome : ¬ (e = .createKey ∧ v.request.CountsAsNone)) : s.dispatch e v = (s, notObject) := by
  cases e <;> cases hreads <;> cases hguard
  case createPost => rw [dispatch, createPost, guarded, hcaller]; dsimp only; rw [h]
  case updatePost => rw [dispatch, updatePost, guarded, hcaller]; dsimp only; rw [h]
  case createUser => rw [dispatch, createUser, guarded, hcaller]; dsimp only; rw [h]
  case updateUser => rw [dispatch, updateUser, guarded, hcaller]; dsimp only; rw [h]
  case createKey =>
    have hread : readNewKey s.store v caller.user = .error notObject := by
      rw [readNewKey, readKeyRequest_refuses h fun hnone => hsome ⟨rfl, hnone⟩]
      rfl
    rw [dispatch, createKey, guarded, hcaller]
    dsimp only
    rw [hread]

/-! ### Keys without content -/

/-- The key that is issued for an address with the next token, never to expire. -/
def nextKey (s : Service) (owner : String) : KeyData :=
  ⟨some (Account.tokenDigest s.fresh.nextToken), some owner, none⟩

/-- Content that counts as none is read as the address of the caller, and as no end. -/
theorem readNewKey_none (h : v.request.CountsAsNone) :
    readNewKey s.store v caller.user
      = (readOwner s.store (.string caller.user.data.email)).map fun owner => (owner, none) := by
  have hread : readKeyRequest v.request = .ok (.object []) := by
    unfold readKeyRequest
    obtain hnone | hnull := h
    · rw [hnone]
    · rw [hnull]
  have howner : (if ((Json.object []).getD "owner_email").truthy
      then (Json.object []).getD "owner_email" else .string caller.user.data.email)
        = .string caller.user.data.email := rfl
  rw [readNewKey, hread, ok_bind]
  dsimp only
  rw [howner]
  cases readOwner s.store (.string caller.user.data.email) <;> rfl

/-- A live user may own a key if the address passes its check. -/
theorem readOwner_user (hs : s.store.Sound) {user : User} (huser : s.store.HasUser user)
    (hemail : Check.email (.string user.data.email) = .ok ()) :
    readOwner s.store (.string user.data.email) = .ok (Text.ofString user.data.email) := by
  obtain ⟨row, hrow, hlive, -, hdata⟩ := huser
  rw [readOwner, hemail]
  dsimp only
  have hshown : (Json.string user.data.email).display = Text.ofString user.data.email := rfl
  rw [hshown]
  obtain ⟨-, hnobody⟩ | ⟨found, hfound, -⟩ := hs.userByEmail? user.data.email
  · exact absurd ⟨row, hrow, rfl, hlive, (noCaseSame_iff _ _).2 (by rw [hdata])⟩ (hnobody row.id)
  · rw [hfound]

/-- A caller whose address fails its check is refused. -/
theorem createKey_refuses {c : Complaint} (hcaller : s.permitted v Registry.adminName = .ok caller)
    (h : v.request.CountsAsNone) (hemail : Check.email (.string caller.user.data.email) = .error c) :
    s.createKey v = (s, refusal c) := by
  have howner : readOwner s.store (.string caller.user.data.email) = .error (refusal c) := by
    rw [readOwner, hemail]
  rw [createKey, guarded, hcaller]
  dsimp only
  rw [readNewKey_none h, howner]
  rfl

/-- A key is issued unless a key has the digest of the next token. -/
theorem issueKey_eq (hs : s.store.Sound) (hissued : s.Issued) (owner : String) :
    s.issueKey now (some (Text.ofString owner)) none
      = if s.store.digestTaken (s.nextKey owner).digest then
          ({ s with fresh := s.fresh.usedToken.usedId }, .error .conflict)
        else
          ({ s with
            fresh := s.fresh.usedToken.usedId
            store := { s.store with
              keys := s.store.keys ++ [.newRow s.fresh.nextId (s.nextKey owner) now] } },
            .ok (.newItem s.fresh.nextId (s.nextKey owner) now, s.fresh.nextToken)) := by
  have hfresh : (s.store.keys.any fun row => row.id == s.fresh.nextId) = false := by
    rw [List.any_eq_false]
    intro row hrow hid
    exact keys_ne hissued.nextId row hrow (beq_iff_eq.1 hid)
  have hbound : bindKey ⟨some (Text.ofString (Account.tokenDigest s.fresh.nextToken)),
      some (Text.ofString owner), none⟩ = .ok (s.nextKey owner) := by
    rw [bindKey, bindOption_ofString, ok_bind, bindOption_ofString]
    rfl
  rw [issueKey, Account.issue, Store.createKey, hs.ready.need.2.2, ok_bind, hbound, ok_bind, hfresh,
    Bool.false_or]
  cases s.store.digestTaken (s.nextKey owner).digest <;> rfl

/-- The caller gets a key that never expires, unless there is one already with the digest of the
token that is next. -/
structure IssuesOwnKey (s : Service) (now : Instant) (caller : Caller) (status : Nat)
    (store : Store) : Prop where
  issued : s.store.digestTaken (s.nextKey caller.user.data.email).digest = false → status = 201 ∧
    store = { s.store with keys := s.store.keys ++
      [.newRow s.fresh.nextId (s.nextKey caller.user.data.email) now] }
  taken : s.store.digestTaken (s.nextKey caller.user.data.email).digest = true →
    status = 500 ∧ store = s.store

theorem createKey_none (hs : s.store.Sound) (hissued : s.Issued)
    (hcaller : s.permitted v Registry.adminName = .ok caller) (huser : s.store.HasUser caller.user)
    (h : v.request.CountsAsNone) (hemail : Check.email (.string caller.user.data.email) = .ok ()) :
    s.IssuesOwnKey v.now caller (s.createKey v).2.status (s.createKey v).1.store := by
  have hread : readNewKey s.store v caller.user
      = .ok (Text.ofString caller.user.data.email, none) := by
    rw [readNewKey_none h, readOwner_user hs huser hemail]
    rfl
  rw [createKey, guarded, hcaller]
  dsimp only
  rw [hread]
  dsimp only
  rw [issueKey_eq hs hissued]
  constructor
  · intro hfree
    rw [if_neg (by rw [hfree]; decide)]
    exact ⟨rfl, rfl⟩
  · intro htaken
    rw [if_pos htaken]
    exact ⟨rfl, rfl⟩

/-! ### Requests -/

/-- A key is asked for without content, and may be issued for the caller. -/
def AsksOwnKey (e : Endpoint) (r : Request) (caller : Caller) : Prop :=
  e = .createKey ∧ r.CountsAsNone ∧ Check.email (.string caller.user.data.email) = .ok ()

/-- Without an object, and unless a key may be issued for the caller, a handler answers 400 and leaves
everything as it is. -/
theorem dispatch_without_object (hreads : e.readsObject = true)
    (hguard : e.permission? = some permission) (hcaller : s.permitted v permission = .ok caller)
    (h : v.request.object? = none) (hother : ¬ AsksOwnKey e v.request caller) :
    (s.dispatch e v).1 = s ∧ (s.dispatch e v).2.status = 400 := by
  by_cases hkey : e = .createKey ∧ v.request.CountsAsNone
  · obtain ⟨rfl, hnone⟩ := hkey
    cases hguard
    cases hemail : Check.email (.string caller.user.data.email) with
    | ok _ => exact absurd ⟨rfl, hnone, hemail⟩ hother
    | error c =>
      rw [dispatch, createKey_refuses hcaller hnone hemail]
      exact ⟨rfl, rfl⟩
  · rw [dispatch_refuses hreads hguard hcaller h hkey]
    exact ⟨rfl, rfl⟩

/-- What a request without an object does to a service. -/
theorem handle_without_object (hs : s.store.Sound) (hissued : s.Issued)
    (harrives : s.arrival? now r = some (m, e, v)) (hreads : e.readsObject = true)
    (hguard : e.permission? = some permission) (hcaller : s.permitted v permission = .ok caller)
    (h : r.object? = none) :
    (¬ AsksOwnKey e r caller →
        (s.handle now r).2.status = 400 ∧ (s.handle now r).1.store = s.store) ∧
      (AsksOwnKey e r caller →
        s.IssuesOwnKey now caller (s.handle now r).2.status (s.handle now r).1.store) := by
  have hsame := arrival?_same harrives
  have hvisit := arrival?_visit harrives
  have huser := sender?_hasUser (permitted_granted hvisit hcaller).1
  obtain ⟨hleft, hstatus⟩ := handle_arrived harrives
  rw [← permitted_same hsame] at hcaller
  rw [hleft, hstatus]
  obtain ⟨hnow, hrequest, -⟩ := hvisit
  constructor
  · intro hother
    obtain ⟨hkept, hrefused⟩ :=
      dispatch_without_object hreads hguard hcaller (hrequest ▸ h) (hrequest ▸ hother)
    exact ⟨hrefused, by rw [hkept, hsame.store]⟩
  · rintro ⟨rfl, hnone, hemail⟩
    cases hguard
    have hissued' : m.Issued := by rw [Issued, hsame.store, hsame.fresh]; exact hissued
    have hissues := createKey_none (hsame.store ▸ hs) hissued' hcaller (hsame.store ▸ huser)
      (hrequest ▸ hnone) hemail
    rw [hnow] at hissues
    obtain ⟨hnew, htaken⟩ := hissues
    rw [nextKey, hsame.store, hsame.fresh] at hnew htaken
    exact ⟨hnew, htaken⟩

/-- Content that is no JSON object, and content that is missing, is refused with 400 and nothing is
written, whoever sends it to a handler that reads an object; the one exception is content that counts
as none and is sent for a key, by which a caller whose address passes its check gets a key that never
expires. The content is the text that its bytes decode to, and nests no deeper than the reader of JSON
follows. -/
theorem without_object_refused_iff {policy : Policy} {settings : Settings} {platform : String}
    {begin : Instant} {first : Service} (hbegin : InEra begin)
    (hstart : start policy settings platform begin = .ok first) (hreach : first.Reaches s)
    (harrives : s.arrival? now r = some (m, e, v)) (hreads : e.readsObject = true)
    (hguard : e.permission? = some permission) (hcaller : s.permitted v permission = .ok caller)
    (hcontent : r.object? = none) :
    ((s.handle now r).2.status = 400 ∧ (s.handle now r).1.store = s.store ↔
        ¬ AsksOwnKey e r caller) ∧
      (AsksOwnKey e r caller →
        s.IssuesOwnKey now caller (s.handle now r).2.status (s.handle now r).1.store) := by
  have hs := hreach.sound (start_sound hbegin hstart)
  have hissued := hreach.issued (start_issued hstart)
  obtain ⟨hrefused, hissues⟩ :=
    handle_without_object hs.store hissued harrives hreads hguard hcaller hcontent
  refine ⟨⟨?_, hrefused⟩, hissues⟩
  rintro ⟨hstatus, -⟩ hkey
  obtain ⟨hnew, htaken⟩ := hissues hkey
  cases hdigest : s.store.digestTaken (s.nextKey caller.user.data.email).digest with
  | true => exact absurd ((htaken hdigest).1.symm.trans hstatus) (by decide)
  | false => exact absurd ((hnew hdigest).1.symm.trans hstatus) (by decide)

/-- The first administrator asks for a key that expires after a day, and the content breaks off. -/
def brokenOff : Request :=
  ⟨"POST", ⟨defaultHost, "/api/keys".toList, []⟩, [], false, some seedCookie,
    some ⟨some "application/json", "\x7b\"expires_days\": 1"⟩⟩

theorem brokenOff_unread : brokenOff.json? = none ∧ brokenOff.object? = none := by
  have hread : brokenOff.json?.isNone = true := by decide +kernel
  have hnone : brokenOff.json? = none := Option.isNone_iff_eq_none.1 hread
  exact ⟨hnone, by rw [Request.object?, hnone]; rfl⟩

theorem brokenOff_arrives :
    ∃ first m v caller, start (.ofProfile .testing .standard) .standard "" 0 = .ok first ∧
      first.arrival? 0 brokenOff = some (m, .createKey, v) ∧
      first.permitted v Registry.adminName = .ok caller ∧
      caller.user.data.email = "admin@example.com" ∧ first.store.keys = [] := by
  obtain ⟨first, hstart, hfound, hknown⟩ :
      ∃ first, start (.ofProfile .testing .standard) .standard "" 0 = .ok first ∧
        (first.arrival? 0 brokenOff).map (·.2.1) = some .createKey ∧
        ((first.arrival? 0 brokenOff).bind fun a =>
          (first.permitted a.2.2 Registry.adminName).toOption).map (·.user.data.email)
            = some "admin@example.com" :=
    ⟨_, rfl, by decide +kernel, by decide +kernel⟩
  obtain ⟨⟨m, e, v⟩, harrives, rfl⟩ := Option.map_eq_some_iff.1 hfound
  rw [harrives] at hknown
  obtain ⟨known, hcaller, hemail⟩ := Option.map_eq_some_iff.1 hknown
  cases hp : first.permitted v Registry.adminName with
  | error _ => rw [Option.bind_some, hp] at hcaller; cases hcaller
  | ok caller =>
    rw [Option.bind_some, hp] at hcaller
    obtain rfl : caller = known := Option.some.inj hcaller
    exact ⟨first, m, v, caller, hstart, harrives, hp, hemail,
      start_rows (k := .apiKey) hstart (by decide)⟩

theorem digestTaken_of_empty (h : s.store.keys = []) (owner : String) :
    s.store.digestTaken (s.nextKey owner).digest = false := by
  rw [nextKey, digestTaken, h]; rfl

/-- What broke off is answered, by the rule, with a key of the administrator that never expires. -/
theorem without_object_refused_iff_broken_off :
    ∃ first m v caller, start (.ofProfile .testing .standard) .standard "" 0 = .ok first ∧
      first.arrival? 0 brokenOff = some (m, .createKey, v) ∧
      first.permitted v Registry.adminName = .ok caller ∧ brokenOff.object? = none ∧
      (first.handle 0 brokenOff).2.status = 201 ∧
      (first.handle 0 brokenOff).1.store.keys
        = [.newRow first.fresh.nextId (first.nextKey caller.user.data.email) 0] := by
  obtain ⟨first, m, v, caller, hstart, harrives, hcaller, hemail, hkeys⟩ := brokenOff_arrives
  obtain ⟨hunread, hcontent⟩ := brokenOff_unread
  have hasks : AsksOwnKey .createKey brokenOff caller :=
    ⟨rfl, .inl hunread, by rw [hemail]; decide +kernel⟩
  have hrule := without_object_refused_iff inEra_zero hstart .refl harrives rfl rfl hcaller hcontent
  obtain ⟨hstatus, hstore⟩ := (hrule.2 hasks).issued (digestTaken_of_empty hkeys _)
  refine ⟨first, m, v, caller, hstart, harrives, hcaller, hcontent, hstatus, ?_⟩
  rw [hstore, hkeys]
  rfl

/-- The content is there and breaks off, and still the answer is a key that never expires. -/
theorem broken_off_issues_key :
    ∃ first, start (.ofProfile .testing .standard) .standard "" 0 = .ok first ∧
      (first.handle 0 seedLogin).1 = first ∧
      (first.handle 0 seedLogin).2.cookie = .replace brokenOff.cookie ∧
      (∃ content, brokenOff.content = some content ∧ content.text ≠ "") ∧
      brokenOff.object? = none ∧ (first.handle 0 brokenOff).2.status = 201 ∧
      first.store.keys = [] ∧
      (first.handle 0 brokenOff).1.store.keys.map (fun key => (key.data.owner, key.data.expires))
        = [(some "admin@example.com", none)] := by
  obtain ⟨first, m, v, caller, hstart, harrives, hcaller, hemail, hkeys⟩ := brokenOff_arrives
  obtain ⟨hunread, hcontent⟩ := brokenOff_unread
  obtain ⟨hleft, -, hcookie, -⟩ := seedLogin_succeeds hstart
  have hasks : AsksOwnKey .createKey brokenOff caller :=
    ⟨rfl, .inl hunread, by rw [hemail]; decide +kernel⟩
  have hissues := (handle_without_object (start_sound inEra_zero hstart).store (start_issued hstart)
    harrives rfl rfl hcaller hcontent).2 hasks
  obtain ⟨hstatus, hstore⟩ := hissues.issued (digestTaken_of_empty hkeys _)
  refine ⟨first, hstart, hleft, hcookie, ⟨_, rfl, by decide +kernel⟩, hcontent, hstatus, hkeys, ?_⟩
  rw [hstore, hkeys, hemail]
  rfl

end Service

end Pressroom
