import Pressroom.Proofs.Access.Mediation
import Pressroom.Proofs.Text.Clean

/-!
Fields with a limit: the title, the type and the author of a post, and the name of a user. Whatever
handler such a field is sent to, its text is refused if what is kept of it is too long, and otherwise
what is kept is stored. White space where the text is cut lets a text that is too long pass for a
shorter one; `kept_is_stored` says for which texts this is so.
-/
namespace Pressroom

open Web

/-! ### Fields -/

/-- The parts of a post that have a limit. -/
inductive PostField where
  | title
  | type
  | author
  deriving DecidableEq

namespace PostField

def name : PostField → String
  | title => "Title"
  | type => "Type"
  | author => "AuthorID"

def limit : PostField → Nat
  | title => Check.titleMax
  | type => Check.postTypeMax
  | author => Check.authorIdMax

/-- The part of a new post. -/
def part (n : PostParts) : PostField → Option Text
  | title => n.title
  | type => n.type
  | author => n.author

/-- The change of a part. -/
def change (c : PostChanges) : PostField → Option (Option Text)
  | title => c.title
  | type => c.type
  | author => c.author

/-- The part of a stored post. -/
def stored (d : PostData) : PostField → Option String
  | title => d.title
  | type => d.type
  | author => d.author

end PostField

/-- A field with a limit: a part of a post, or the name of a user. -/
inductive LimitedField where
  | post (f : PostField)
  | fullname
  deriving DecidableEq

namespace LimitedField

def name : LimitedField → String
  | post f => f.name
  | fullname => "Fullname"

def limit : LimitedField → Nat
  | post f => f.limit
  | fullname => Check.fullnameMax

/-- Whether a handler reads the field. -/
def sentTo : LimitedField → Endpoint → Bool
  | post _, .createPost | post _, .updatePost => true
  | fullname, .createUser | fullname, .updateUser => true
  | _, _ => false

/-- The text in the field of the live row with an id. -/
def stored? (f : LimitedField) (s : Store) (id : String) : Option Text :=
  match f with
  | post f => (Store.findRow? s.posts false id).bind fun r => (f.stored r.data).map Text.ofString
  | fullname => (Store.findRow? s.users false id).map fun r => Text.ofString r.data.fullname

/-- The text that is stored of a text that is sent: what is kept of it, except that the caller stands
in for the author of a new post of whom nothing is kept. -/
def text (f : LimitedField) (e : Endpoint) (caller : User) (t : Text) : Text :=
  match f, e with
  | post .author, .createPost =>
    if (t.kept f.limit).isEmpty then Text.ofString caller.id else t.kept f.limit
  | _, _ => t.kept f.limit

end LimitedField

/-! ### Reading a field -/

namespace Service

open Store

variable {s : Service} {v : Visit} {data : Json} {t : Text}

/-- A text passes the check of its length unless it is too long. -/
theorem textUpTo_text (what : String) (max : Nat) (t : Text) : Check.textUpTo what max (.text t)
    = if max < t.length then .error (.tooLong what) else .ok () := rfl

/-- A part that is sent as text is refused if too much of it is kept, and else is what is kept. -/
theorem cleanPart_text (f : PostField) (t : Text) : cleanPart f.name (.text t) =
    if f.limit < (t.kept f.limit).length then .error (.tooLong f.name)
    else .ok (some (t.kept f.limit)) := by
  have hcheck : cleanPart f.name (.text t)
      = (Check.textUpTo f.name f.limit (.text (t.kept f.limit))).map
        fun _ => some (t.kept f.limit) := by
    cases f <;> rfl
  rw [hcheck, textUpTo_text]
  split <;> rfl

theorem readParts_part {parts : PostParts} (h : readParts data = .ok parts) (f : PostField) :
    cleanPart f.name (data.getD f.name) = .ok (f.part parts) := by
  obtain ⟨type, htype, h⟩ := bind_eq_ok.1 h
  obtain ⟨body, -, h⟩ := bind_eq_ok.1 h
  obtain ⟨title, htitle, h⟩ := bind_eq_ok.1 h
  obtain ⟨author, hauthor, h⟩ := bind_eq_ok.1 h
  cases h
  cases f <;> assumption

theorem readChanges_change {changes : PostChanges} (h : readChanges data = .ok changes)
    (f : PostField) : readChange data f.name = .ok (f.change changes) := by
  obtain ⟨type, htype, h⟩ := bind_eq_ok.1 h
  obtain ⟨body, -, h⟩ := bind_eq_ok.1 h
  obtain ⟨title, htitle, h⟩ := bind_eq_ok.1 h
  obtain ⟨author, hauthor, h⟩ := bind_eq_ok.1 h
  cases h
  cases f <;> assumption

theorem bindPost_stored {n : PostParts} {d : PostData} (h : bindPost n = .ok d) (f : PostField) :
    (f.stored d).map Text.ofString = f.part n := by
  obtain ⟨htype, -, htitle, hauthor⟩ := bindPost_eq_ok h
  cases f <;> assumption

/-- A part that is changed is the new one afterwards. -/
theorem appliesToPost_stored {c : PostChanges} {old new : PostData} (h : AppliesToPost c old new)
    {f : PostField} {part : Option Text} (hpart : f.change c = some part) :
    (f.stored new).map Text.ofString = part := by
  have hnew : ∀ {c : Option (Option Text)} {old new : Option String}, c = some part →
      (∃ bound, bindPart c = .ok bound ∧ new = bound.getD old) → new.map Text.ofString = part := by
    rintro c old new rfl ⟨bound, hbound, rfl⟩
    obtain ⟨string, hstring, rfl⟩ := map_eq_ok.1 hbound
    exact bindOption_eq_ok hstring
  cases f
  · exact hnew hpart h.title
  · exact hnew hpart h.type
  · exact hnew hpart h.author

/-- A part that is not changed stays as it is. -/
theorem appliesToPost_kept {c : PostChanges} {old new : PostData} (h : AppliesToPost c old new)
    {f : PostField} (hnone : f.change c = none) : f.stored new = f.stored old := by
  have hsame : ∀ {c : Option (Option Text)} {old new : Option String}, c = none →
      (∃ bound, bindPart c = .ok bound ∧ new = bound.getD old) → new = old := by
    rintro c old new rfl ⟨bound, hbound, rfl⟩
    cases hbound
    rfl
  cases f
  · exact hsame hnone h.title
  · exact hsame hnone h.type
  · exact hsame hnone h.author

/-- What a new post is made of: the parts that were read, with the caller as author if they name
none. -/
theorem newPost_eq_ok {caller : User} {parts : PostParts} (h : newPost data caller = .ok parts) :
    ∃ read, readParts data = .ok read ∧ parts = { read with
      author := if isBlankPart read.author then some (Text.ofString caller.id)
        else read.author } := by
  rw [newPost] at h
  split at h
  · cases h
  · split at h
    · cases h
    · rename_i read hread
      refine ⟨read, hread, ?_⟩
      split at h
      · cases h
      · split at h
        · rename_i hblank; cases h; rw [if_pos hblank]
        · rename_i hblank; cases h; rw [if_neg hblank]

/-! ### Posts -/

variable {caller : Caller} {f : PostField}

/-- In a new post the part has the text that is to be stored. -/
theorem newPost_part {parts : PostParts} (h : newPost data caller.user = .ok parts)
    (hvalue : data.get? f.name = some (.text t)) :
    ¬ f.limit < (t.kept f.limit).length ∧
      f.part parts = some ((LimitedField.post f).text .createPost caller.user t) := by
  obtain ⟨read, hread, rfl⟩ := newPost_eq_ok h
  have hpart := readParts_part hread f
  rw [Json.getD, hvalue, Option.getD_some, cleanPart_text] at hpart
  split at hpart
  · cases hpart
  · rename_i hfits
    refine ⟨hfits, ?_⟩
    have hkept : f.part read = some (t.kept f.limit) := (Except.ok.inj hpart).symm
    cases f with
    | title | type => exact hkept
    | author =>
      have hread : read.author = some (t.kept PostField.author.limit) := hkept
      rw [PostField.part, hread, LimitedField.text, isBlankPart]
      exact (apply_ite some _ _ _).symm

theorem addPost_stored {now : Instant} {parts : PostParts} {part : Text}
    (hpart : f.part parts = some part) {made : Service} {post : Post}
    (h : s.addPost now parts = (made, .ok post)) :
    (LimitedField.post f).stored? made.store s.fresh.nextId = some part := by
  rw [addPost] at h
  cases hcreate : s.store.createPost s.fresh.nextId now parts with
  | error _ => rw [hcreate] at h; cases h
  | ok result =>
    rw [hcreate] at h
    cases h
    obtain ⟨d, hd, hfresh, hstore, -⟩ := createPost_eq_ok hcreate
    have hfound : findRow? result.1.posts false s.fresh.nextId
        = some (.newRow s.fresh.nextId d now) := by
      rw [hstore]
      exact findRow?_append (r := .newRow s.fresh.nextId d now) hfresh rfl false
    rw [LimitedField.stored?]
    dsimp only
    rw [hfound]
    exact (bindPost_stored hd f).trans hpart

/-- A new post is refused if too much of a part is kept, and else gets what is kept. -/
theorem createPost_limited (hcaller : s.permitted v editPosts = .ok caller)
    (hdata : v.request.object? = some data) (hvalue : data.get? f.name = some (.text t)) :
    (f.limit < (t.kept f.limit).length → ∃ c, s.createPost v = (s, refusal c)) ∧
      (Successful (s.createPost v).2.status →
        (LimitedField.post f).stored? (s.createPost v).1.store s.fresh.nextId
          = some ((LimitedField.post f).text .createPost caller.user t)) := by
  rw [createPost, guarded, hcaller]
  dsimp only
  rw [hdata]
  dsimp only
  cases hnew : newPost data caller.user with
  | error c => exact ⟨fun _ => ⟨c, rfl⟩, fun hok => absurd hok (not_successful 400 (by decide))⟩
  | ok parts =>
    obtain ⟨hfits, hpart⟩ := newPost_part hnew hvalue
    refine ⟨fun hlong => absurd hlong hfits, fun hok => ?_⟩
    dsimp only at hok ⊢
    cases hadd : s.addPost v.now parts with
    | mk made result =>
      rw [hadd] at hok
      cases result with
      | error _ => exact absurd hok (not_successful 500 (by decide))
      | ok post => exact addPost_stored hpart hadd

theorem updatePost_stored {now : Instant} {id : String} {store : Store} {changes : PostChanges}
    {part : Text} (h : s.store.updatePost (Text.ofString id) now changes = .ok (store, true))
    (hsome : ¬ changes.isEmpty = true) (hpart : f.change changes = some (some part)) :
    (LimitedField.post f).stored? store id = some part := by
  rcases updatePost_eq_ok h with ⟨-, hempty | hfound⟩ | ⟨-, r, change, hr, hid, happlies, rfl⟩
  · exact absurd hempty hsome
  · cases hfound
  · rw [bind_ofString] at hid
    cases hid
    rw [LimitedField.stored?]
    dsimp only
    rw [findRow?_revised hr]
    exact appliesToPost_stored happlies hpart

/-- A change of a post is refused if too much of a part is kept, and else stores what is kept. -/
theorem updatePost_limited (hcaller : s.permitted v editPosts = .ok caller)
    (hdata : v.request.object? = some data) (hvalue : data.get? f.name = some (.text t)) :
    (f.limit < (t.kept f.limit).length → ∃ c, s.updatePost v = (s, refusal c)) ∧
      (Successful (s.updatePost v).2.status →
        (LimitedField.post f).stored? (s.updatePost v).1.store v.id = some (t.kept f.limit)) := by
  rw [updatePost, guarded, hcaller]
  dsimp only
  rw [hdata]
  dsimp only
  cases hchanges : readChanges data with
  | error c => exact ⟨fun _ => ⟨c, rfl⟩, fun hok => absurd hok (not_successful 400 (by decide))⟩
  | ok changes =>
    have hchange := readChanges_change hchanges f
    rw [readChange, hvalue] at hchange
    dsimp only at hchange ⊢
    rw [cleanPart_text] at hchange
    split at hchange
    · cases hchange
    · rename_i hfits
      refine ⟨fun hlong => absurd hlong hfits, ?_⟩
      have hkept : f.change changes = some (some (t.kept f.limit)) := (Except.ok.inj hchange).symm
      split
      · exact fun hok => absurd hok (not_successful 400 (by decide))
      · rename_i hsome
        cases hupdate : s.store.updatePost v.key v.now changes with
        | error _ => exact fun hok => absurd hok (not_successful 500 (by decide))
        | ok made =>
          obtain ⟨store, found⟩ := made
          cases found with
          | false => exact fun hok => absurd hok (not_successful 404 (by decide))
          | true =>
            have hstored := updatePost_stored hupdate hsome hkept
            dsimp only
            split
            · exact fun _ => hstored
            · exact fun _ => hstored

/-! ### Users -/

/-- A name that is sent as text passes its check only if not too much of it is kept. -/
theorem fullname_text {t : Text} (h : Check.fullname (tidyName (.text t)) = .ok ()) :
    ¬ Check.fullnameMax < (t.kept Check.fullnameMax).length := by
  intro hlong
  rw [Check.fullname] at h
  split at h
  · have hcheck : Check.textUpTo "Fullname" Check.fullnameMax (tidyName (.text t))
        = if Check.fullnameMax < (t.kept Check.fullnameMax).length then .error (.tooLong "Fullname")
          else .ok () := rfl
    rw [hcheck, if_pos hlong] at h
    cases h
  · cases h

theorem readAccount_fullname {a : NewAccount} (h : readAccount data = .ok a)
    (hvalue : data.get? "Fullname" = some (.text t)) :
    ¬ Check.fullnameMax < (t.kept Check.fullnameMax).length ∧
      a.fullname = t.kept Check.fullnameMax := by
  obtain ⟨-, -, h⟩ := bind_eq_ok.1 h
  obtain ⟨⟨⟩, hcheck, h⟩ := bind_eq_ok.1 h
  obtain ⟨-, -, h⟩ := bind_eq_ok.1 h
  obtain ⟨-, -, h⟩ := bind_eq_ok.1 h
  obtain ⟨-, -, h⟩ := bind_eq_ok.1 h
  cases h
  have hname : data.getD "Fullname" = .text t := by rw [Json.getD, hvalue]; rfl
  rw [hname] at hcheck ⊢
  exact ⟨fullname_text hcheck, rfl⟩

theorem addAccount_stored {a : NewAccount} (hok : Successful (s.addAccount v a).2.status) :
    LimitedField.fullname.stored? (s.addAccount v a).1.store s.fresh.nextId = some a.fullname := by
  rw [addAccount] at hok ⊢
  cases hhash : Password.hash a.password with
  | error _ => rw [hhash] at hok; exact absurd hok (not_successful 500 (by decide))
  | ok hash =>
    rw [hhash] at hok
    dsimp only at hok ⊢
    rw [addUser] at hok ⊢
    cases hcreate : s.store.createUser s.fresh.nextId v.now ⟨some a.fullname, some a.email,
        some (Text.ofString hash), some a.permissions⟩ with
    | error fault =>
      rw [hcreate] at hok
      cases fault with
      | conflict => exact absurd hok (not_successful 409 (by decide))
      | _ => exact absurd hok (not_successful 500 (by decide))
    | ok made =>
      obtain ⟨d, hd, hfresh, -, hstore, -⟩ := createUser_eq_ok hcreate
      have hfound : findRow? made.1.users false s.fresh.nextId
          = some (.newRow s.fresh.nextId d v.now) := by
        rw [hstore]
        exact findRow?_append (r := .newRow s.fresh.nextId d v.now) hfresh rfl false
      rw [LimitedField.stored?]
      dsimp only
      rw [hfound]
      exact (bindUser_eq_ok hd).1.symm

/-- A new user is refused if too much of the name is kept, and else gets what is kept. -/
theorem createUser_limited (hcaller : s.permitted v Registry.adminName = .ok caller)
    (hdata : v.request.object? = some data) (hvalue : data.get? "Fullname" = some (.text t)) :
    (Check.fullnameMax < (t.kept Check.fullnameMax).length →
        ∃ c, s.createUser v = (s, refusal c)) ∧
      (Successful (s.createUser v).2.status →
        LimitedField.fullname.stored? (s.createUser v).1.store s.fresh.nextId
          = some (t.kept Check.fullnameMax)) := by
  rw [createUser, guarded, hcaller]
  dsimp only
  rw [hdata]
  dsimp only
  cases haccount : readAccount data with
  | error c => exact ⟨fun _ => ⟨c, rfl⟩, fun hok => absurd hok (not_successful 400 (by decide))⟩
  | ok a =>
    obtain ⟨hfits, hname⟩ := readAccount_fullname haccount hvalue
    refine ⟨fun hlong => absurd hlong hfits, ?_⟩
    dsimp only
    split
    · exact fun hok => absurd hok (not_successful 500 (by decide))
    · exact fun hok => absurd hok (not_successful 409 (by decide))
    · exact fun hok => hname ▸ addAccount_stored hok

theorem storeChanges_stored {store : Store} {changes : UserChanges} {part : Text}
    (h : storeChanges s.store v changes = .ok store) (hpart : changes.fullname = some (some part))
    {user : User} (huser : s.store.user? v.key false = .ok (some user)) :
    LimitedField.fullname.stored? store v.id = some part := by
  have hsome : ¬ changes.isEmpty = true := by rw [UserChanges.isEmpty, hpart]; simp
  obtain ⟨hempty, -⟩ | ⟨-, found, hupdate⟩ := storeChanges_eq_ok h
  · exact absurd hempty hsome
  · rcases updateUser_eq_ok hupdate with
      ⟨-, hempty | ⟨key, hkey, hnone⟩⟩ | ⟨-, r, change, hr, hkey, happlies, -, hstore⟩
    · exact absurd hempty hsome
    · obtain ⟨-, -, huser⟩ := bind_eq_ok.1 huser
      obtain ⟨key', hkey', huser⟩ := bind_eq_ok.1 huser
      cases hkey.symm.trans hkey'
      rw [hnone] at huser
      cases huser
    · rw [Visit.key, bind_ofString] at hkey
      have hid : v.id = r.id := Except.ok.inj hkey
      obtain ⟨bound, hbound, hnew⟩ := happlies.fullname
      rw [hpart] at hbound
      obtain ⟨string, hstring, rfl⟩ := map_eq_ok.1 hbound
      have hstored : string = some (change r.data).fullname := hnew
      rw [hstored] at hstring
      rw [LimitedField.stored?, hid, hstore]
      dsimp only
      rw [findRow?_revised hr]
      exact bindOption_eq_ok hstring

theorem storeNewPassword_stored {old store : Store} {password : Option Text}
    (h : storeNewPassword old v password = .ok store) (id : String) :
    LimitedField.fullname.stored? store id = LimitedField.fullname.stored? old id := by
  obtain ⟨-, rfl⟩ | ⟨_, _, found, -, -, hu⟩ := storeNewPassword_eq_ok h
  · rfl
  · rcases updatePassword_eq_ok hu with hsame | ⟨-, r, new, -, -, -, hstore⟩
    · rw [hsame]
    · rw [hstore, LimitedField.stored?, LimitedField.stored?]
      dsimp only
      rw [findRow?_reviseRow (keepsId_revised _ _) (fun _ => rfl), Option.map_map]
      congr 1
      funext x
      rw [Function.comp_apply]
      split <;> rfl

/-- The name is read first, so a name of which too much is kept is what is complained about. -/
theorem readUserChanges_long {store : Store} {id : String}
    (hvalue : data.get? "Fullname" = some (.text t))
    (hlong : Check.fullnameMax < (t.kept Check.fullnameMax).length) :
    ∃ c, readUserChanges store id data = .error (.complaint c) := by
  cases hcheck : Check.fullname (tidyName (.text t)) with
  | ok _ => exact absurd hlong (fullname_text hcheck)
  | error c =>
    have hname : readName data = .error (.complaint c) := by rw [readName, hvalue]; simp only [hcheck]
    exact ⟨c, by rw [readUserChanges, hname]; rfl⟩

theorem readUserChanges_fullname {store : Store} {id : String} {changes : UserChanges}
    {password : Option Text} (h : readUserChanges store id data = .ok (changes, password))
    (hvalue : data.get? "Fullname" = some (.text t)) :
    changes.fullname = some (some (t.kept Check.fullnameMax)) := by
  have hname := (readUserChanges_eq_ok.1 h).1
  rw [readName, hvalue] at hname
  dsimp only at hname
  split at hname
  · cases hname
  · exact (Except.ok.inj hname).symm

theorem changeFault_status (f : ChangeFault) : ¬ Successful f.reply.status := by
  cases f with
  | complaint | nothing => exact not_successful 400 (by decide)
  | emailInUse => exact not_successful 409 (by decide)
  | store => exact not_successful 500 (by decide)

theorem storeFailure_status (f : StoreFault) : ¬ Successful (storeFailure f).status := by
  cases f with
  | conflict => exact not_successful 409 (by decide)
  | _ => exact not_successful 500 (by decide)

theorem storeChanges_status {store : Store} {changes : UserChanges} {reply : Reply}
    (h : storeChanges store v changes = .error reply) : ¬ Successful reply.status := by
  rw [storeChanges] at h
  split at h
  · cases h
  · split at h
    · cases h; exact storeFailure_status _
    · cases h

theorem storeNewPassword_status {store : Store} {password : Option Text} {reply : Reply}
    (h : storeNewPassword store v password = .error reply) : ¬ Successful reply.status := by
  cases password with
  | none => cases h
  | some password =>
    rw [storeNewPassword] at h
    split at h
    · cases h; exact not_successful 500 (by decide)
    · split at h
      · cases h; exact storeFailure_status _
      · cases h

/-- A change of a user is refused if too much of the name is kept, and else stores what is kept. If
there is no such user, that is said first. -/
theorem updateUser_limited (hcaller : s.permitted v Registry.adminName = .ok caller)
    (hdata : v.request.object? = some data) (hvalue : data.get? "Fullname" = some (.text t)) :
    (Check.fullnameMax < (t.kept Check.fullnameMax).length → (s.updateUser v).1 = s ∧
        ((s.updateUser v).2.status = 400 ∨ ∀ user, s.store.user? v.key false ≠ .ok (some user))) ∧
      (Successful (s.updateUser v).2.status →
        LimitedField.fullname.stored? (s.updateUser v).1.store v.id
          = some (t.kept Check.fullnameMax)) := by
  rw [updateUser, guarded, hcaller]
  dsimp only
  rw [hdata]
  dsimp only
  cases huser : s.store.user? v.key false with
  | error _ =>
    refine ⟨fun _ => ⟨rfl, .inr fun _ h => ?_⟩,
      fun hok => absurd hok (not_successful 500 (by decide))⟩
    cases h
  | ok found =>
    cases found with
    | none =>
      refine ⟨fun _ => ⟨rfl, .inr fun _ h => ?_⟩,
        fun hok => absurd hok (not_successful 404 (by decide))⟩
      cases h
    | some user =>
      dsimp only
      rw [changeUser]
      cases hchanges : readUserChanges s.store v.id data with
      | error fault =>
        refine ⟨fun hlong => ⟨rfl, .inl ?_⟩, fun hok => absurd hok (changeFault_status fault)⟩
        obtain ⟨c, hc⟩ := readUserChanges_long hvalue hlong
        cases hc.symm.trans hchanges
        rfl
      | ok read =>
        obtain ⟨changes, password⟩ := read
        constructor
        · intro hlong
          obtain ⟨c, hc⟩ := readUserChanges_long hvalue hlong
          cases hc.symm.trans hchanges
        have hname := readUserChanges_fullname hchanges hvalue
        dsimp only
        split
        · rename_i hfailed
          exact fun hok => absurd hok (storeChanges_status hfailed)
        · rename_i store hstore
          have hstored := storeChanges_stored hstore hname huser
          split
          · rename_i hfailed
            exact fun hok => absurd hok (storeNewPassword_status hfailed)
          · rename_i store' hpassword
            have hstored' := (storeNewPassword_stored hpassword v.id).trans hstored
            split
            · exact fun _ => hstored'
            · exact fun _ => hstored'

/-! ### Requests -/

/-- The id of the row that a handler writes: the next one for a new row, else the one in the path. -/
def writtenId (s : Service) (v : Visit) : Endpoint → String
  | .createPost | .createUser => s.fresh.nextId
  | _ => v.id

theorem dispatch_limited {f : LimitedField} {e : Endpoint} {permission : String}
    (hsent : f.sentTo e = true) (hguard : e.permission? = some permission)
    (hcaller : s.permitted v permission = .ok caller) (hdata : v.request.object? = some data)
    (hvalue : data.get? f.name = some (.text t)) :
    (f.limit < (t.kept f.limit).length → (s.dispatch e v).1.store = s.store ∧
        ((s.dispatch e v).2.status = 400 ∨
          e = .updateUser ∧ ∀ user, s.store.user? v.key false ≠ .ok (some user))) ∧
      (Successful (s.dispatch e v).2.status →
        f.stored? (s.dispatch e v).1.store (s.writtenId v e) = some (f.text e caller.user t)) := by
  have refused : ∀ {r : Service × Reply}, (∃ c, r = (s, refusal c)) →
      r.1.store = s.store ∧ (r.2.status = 400 ∨
        e = .updateUser ∧ ∀ user, s.store.user? v.key false ≠ .ok (some user)) := by
    rintro r ⟨c, rfl⟩; exact ⟨rfl, .inl rfl⟩
  cases f with
  | post f =>
    cases e <;> cases hsent <;> cases hguard
    case post.createPost =>
      obtain ⟨hlong, hstored⟩ := createPost_limited hcaller hdata hvalue
      exact ⟨fun h => refused (hlong h), hstored⟩
    case post.updatePost =>
      obtain ⟨hlong, hstored⟩ := updatePost_limited hcaller hdata hvalue
      have htext : (LimitedField.post f).text .updatePost caller.user t = t.kept f.limit := by
        cases f <;> rfl
      exact ⟨fun h => refused (hlong h), htext ▸ hstored⟩
  | fullname =>
    cases e <;> cases hsent <;> cases hguard
    case fullname.createUser =>
      obtain ⟨hlong, hstored⟩ := createUser_limited hcaller hdata hvalue
      exact ⟨fun h => refused (hlong h), hstored⟩
    case fullname.updateUser =>
      obtain ⟨hlong, hstored⟩ := updateUser_limited hcaller hdata hvalue
      refine ⟨fun h => ?_, hstored⟩
      obtain ⟨hsame, hstatus⟩ := hlong h
      exact ⟨by rw [dispatch, hsame], hstatus.imp_right fun hnone => ⟨rfl, hnone⟩⟩

/-- What becomes of a text that is sent to a field with a limit. If what is kept of it is too long,
the request is refused and nothing is stored; if the request succeeds, what is kept is stored. What
is kept is the beginning of what is meant, and all of it unless something other than white space
stands behind the cut; and it is seen to be too long unless the first code point or the one just
behind the limit is missing or white space. -/
theorem kept_is_stored {m : Service} {now : Instant} {r : Request} {e : Endpoint}
    {f : LimitedField} {permission : String} (harrives : s.arrival? now r = some (m, e, v))
    (hsent : f.sentTo e = true) (hguard : e.permission? = some permission)
    (hcaller : s.permitted v permission = .ok caller) (hdata : r.object? = some data)
    (hvalue : data.get? f.name = some (.text t)) :
    (f.limit < (t.kept f.limit).length → (s.handle now r).1.store = s.store ∧
        ((s.handle now r).2.status = 400 ∨
          e = .updateUser ∧ ∀ user, s.store.user? v.key false ≠ .ok (some user))) ∧
      (Successful (s.handle now r).2.status →
        f.stored? (s.handle now r).1.store (s.writtenId v e) = some (f.text e caller.user t)) ∧
      t.kept f.limit <+: t.meant ∧
      (t.kept f.limit = t.meant ↔
        ∀ p ∈ t.withoutControls.drop (f.limit + 1), p.isBlank = true) ∧
      (f.limit < (t.kept f.limit).length ↔
        (∃ p, t.withoutControls.head? = some p ∧ p.isBlank = false) ∧
          ∃ p, t.withoutControls[f.limit]? = some p ∧ p.isBlank = false) := by
  have hsame := arrival?_same harrives
  obtain ⟨hleft, hstatus⟩ := handle_arrived harrives
  rw [← (arrival?_visit harrives).2.1] at hdata
  obtain ⟨hlong, hstored⟩ := dispatch_limited hsent hguard
    ((permitted_same hsame v permission).trans hcaller) hdata hvalue
  rw [hleft, hstatus]
  refine ⟨fun h => ?_, fun hok => ?_, Text.kept_begins _ t, Text.kept_eq_meant_iff _ t,
    Text.lt_length_kept_iff _ t⟩
  · rw [← hsame.store]; exact hlong h
  · have hid : m.writtenId v e = s.writtenId v e := by
      cases e <;> simp only [writtenId, hsame.fresh]
    exact hid ▸ hstored hok

/-! ### An author who is cut short -/

/-- A name for an author that is two code points too long, with a blank just behind the limit. -/
def longAuthor : Text := Text.ofString (String.ofList (List.replicate 36 'a') ++ " b")

/-- The first administrator sends a post under this name. -/
def longAuthorRequest : Request :=
  ⟨"POST", ⟨defaultHost, "/posts".toList, []⟩, [], false,
    some ⟨Session.empty.login (Fresh.idText 1) "", 0⟩, some ⟨some "application/json",
      "\x7b\"Title\":\"t\",\"AuthorID\":\"" ++ String.ofList (List.replicate 36 'a') ++ " b\"\x7d"⟩⟩

theorem longAuthorRequest_object : ∃ data, longAuthorRequest.object? = some data ∧
    data.get? "AuthorID" = some (.text longAuthor) := by
  have hread : (longAuthorRequest.object?.bind (·.get? "AuthorID")).map textOf = some longAuthor := by
    decide +kernel
  obtain ⟨value, hvalue, htext⟩ := Option.map_eq_some_iff.1 hread
  obtain ⟨data, hdata, hget⟩ := Option.bind_eq_some_iff.1 hvalue
  have hsome : textOf value ≠ [] := by rw [htext]; decide +kernel
  refine ⟨data, hdata, ?_⟩
  rw [hget, eq_text_of_textOf hsome, htext]

theorem longAuthorRequest_arrives :
    ∃ first m v caller, start (.ofProfile .testing .standard) .standard "" 0 = .ok first ∧
      first.arrival? 0 longAuthorRequest = some (m, .createPost, v) ∧
      first.permitted v editPosts = .ok caller ∧ first.fresh.nextId = Fresh.idText 2 ∧
      (first.handle 0 longAuthorRequest).2.status = 201 := by
  obtain ⟨first, hstart, hfound, hknown, hnext, hstatus⟩ :
      ∃ first, start (.ofProfile .testing .standard) .standard "" 0 = .ok first ∧
        (first.arrival? 0 longAuthorRequest).map (·.2.1) = some .createPost ∧
        ((first.arrival? 0 longAuthorRequest).bind fun a =>
          (first.permitted a.2.2 editPosts).toOption).isSome = true ∧
        first.fresh.nextId = Fresh.idText 2 ∧
        (first.handle 0 longAuthorRequest).2.status = 201 :=
    ⟨_, rfl, by decide +kernel, by decide +kernel, by decide +kernel, by decide +kernel⟩
  obtain ⟨⟨m, e, v⟩, harrives, rfl⟩ := Option.map_eq_some_iff.1 hfound
  rw [harrives] at hknown
  obtain ⟨caller, hcaller⟩ := Option.isSome_iff_exists.1 hknown
  cases hp : first.permitted v editPosts with
  | error _ => rw [Option.bind_some, hp] at hcaller; cases hcaller
  | ok caller => exact ⟨first, m, v, caller, hstart, harrives, hp, hnext, hstatus⟩

/-- What is stored as the author of that post is what is kept of the name. -/
theorem kept_is_stored_long_author :
    ∃ first, start (.ofProfile .testing .standard) .standard "" 0 = .ok first ∧
      (first.handle 0 longAuthorRequest).2.status = 201 ∧
      (LimitedField.post .author).stored? (first.handle 0 longAuthorRequest).1.store
        (Fresh.idText 2) = some (longAuthor.kept Check.authorIdMax) := by
  obtain ⟨first, m, v, caller, hstart, harrives, hcaller, hnext, hstatus⟩ := longAuthorRequest_arrives
  obtain ⟨data, hdata, hvalue⟩ := longAuthorRequest_object
  have hrule := kept_is_stored (f := .post .author) harrives rfl rfl hcaller hdata hvalue
  have hstored := hrule.2.1 (by rw [hstatus]; exact successful_created)
  rw [writtenId, hnext] at hstored
  have hsome : (longAuthor.kept Check.authorIdMax).isEmpty = false := by decide +kernel
  have htext : (LimitedField.post .author).text .createPost caller.user longAuthor
      = longAuthor.kept Check.authorIdMax := by
    rw [LimitedField.text]
    exact if_neg (Bool.eq_false_iff.1 hsome)
  exact ⟨first, hstart, hstatus, htext ▸ hstored⟩

/-- The name that is meant is too long, but the post is accepted under the beginning of it. -/
theorem author_cut_short :
    ∃ first data, start (.ofProfile .testing .standard) .standard "" 0 = .ok first ∧
      longAuthorRequest.object? = some data ∧ data.get? "AuthorID" = some (.text longAuthor) ∧
      Check.authorIdMax < longAuthor.meant.length ∧
      (first.handle 0 longAuthorRequest).2.status = 201 ∧
      (LimitedField.post .author).stored? (first.handle 0 longAuthorRequest).1.store
        (Fresh.idText 2) = some (longAuthor.meant.take Check.authorIdMax) := by
  obtain ⟨data, hdata, hvalue⟩ := longAuthorRequest_object
  exact ⟨_, data, rfl, hdata, hvalue, by decide +kernel, by decide +kernel, by decide +kernel⟩

end Service

end Pressroom
