import Pressroom.Proofs.Schema.Rules
import Pressroom.Proofs.Service.Address
import Pressroom.Proofs.Store.Index

/-!
Calls over the tables of a start and over those of the first migration. Both ask the same of a row, but
for the index over the addresses of live users: that of a start takes no notice of the case of ASCII
letters, that of the migration does. `schemas_agree_iff` makes the same calls over both and shows that
nothing else tells them apart, and at which call this does.
-/
namespace Pressroom

open Store

theorem Schema.Migration.sameTables : schema.SameTables Startup.schema := fun _ => rfl

/-! ### Calls -/

/-- The same service with its rows under another schema. -/
def Service.under (s : Service) (schema : Schema) : Service :=
  { s with store := s.store.under schema }

namespace Call

/-- Whether a call is one of a repository: it asks for rows of a table or changes them. -/
def ofRepository : Call → Bool
  | createUser _ | getUser .. | getUserByEmail .. | listUsers _ | updateUser .. | updatePassword ..
  | deleteUser _ | restoreUser _ | countUsers _ | createPost _ | getPost .. | findPost _
  | listPosts _ | updatePost .. | deletePost _ | restorePost _ | countPosts _ | createKey _
  | getKey .. | getKeyByDigest _ | listKeys _ | listKeysOf _ | deleteKey _ => true
  | _ => false

/-- What comes of a write: the store that it leaves and what it gives, or a fault. -/
def concluded {β : Type} (s : Service) (fresh : Fresh) (encode : β → Json) :
    StoreResult (Store × β) → Service × Outcome
  | .error f => ({ s with fresh }, .error (.store f))
  | .ok (store, b) => ({ s with fresh, store }, .ok (encode b))

variable {s : Service} {schema : Schema}

theorem change_eq (s : Service) (r : StoreResult (Store × Bool)) :
    change s r = concluded s s.fresh .bool r := by
  cases r <;> rfl

theorem perform_createUser (s : Service) (now : Instant) (n : NewUser) :
    (createUser n).perform s now
      = concluded s s.fresh.usedId user (s.store.createUser s.fresh.nextId now n) := by
  rw [perform, Service.addUser]
  cases s.store.createUser s.fresh.nextId now n <;> rfl

theorem perform_createPost (s : Service) (now : Instant) (n : PostParts) :
    (createPost n).perform s now
      = concluded s s.fresh.usedId post (s.store.createPost s.fresh.nextId now n) := by
  rw [perform, Service.addPost]
  cases s.store.createPost s.fresh.nextId now n <;> rfl

theorem perform_createKey (s : Service) (now : Instant) (n : KeyParts) :
    (createKey n).perform s now
      = concluded s s.fresh.usedId key (s.store.createKey s.fresh.nextId now n) := by
  rw [perform, Service.addKey]
  cases s.store.createKey s.fresh.nextId now n <;> rfl

theorem concluded_under {β : Type} {fresh : Fresh} {encode : β → Json}
    {r r' : StoreResult (Store × β)} (h : r' = moved schema r) :
    concluded (s.under schema) fresh encode r'
      = ((concluded s fresh encode r).1.under schema, (concluded s fresh encode r).2) := by
  rw [h]
  cases r <;> rfl

/-- A call that gives nobody an address does the same under another schema with the same tables. -/
theorem perform_under (h : schema.SameTables s.store.schema) (now : Instant) {c : Call}
    (hrepository : c.ofRepository = true) (haddress : c.givesAddress = false) :
    c.perform (s.under schema) now = ((c.perform s now).1.under schema, (c.perform s now).2) := by
  cases c
  case createUser | updateUser | restoreUser => cases haddress
  case authenticate | issueKey | resolveKey | registerPermission | hasPermission | setUp | dropTable
      | wipe | setTime | loseStore | describeSchema => cases hrepository
  case createPost n =>
    rw [perform_createPost, perform_createPost]
    exact concluded_under (createPost_under h _ now n)
  case createKey n =>
    rw [perform_createKey, perform_createKey]
    exact concluded_under (createKey_under h _ now n)
  case updatePassword id password =>
    simp only [perform, change_eq]
    exact concluded_under (updatePassword_under h id now password)
  case deleteUser id =>
    simp only [perform, change_eq]
    exact concluded_under (deleteUser_under h id now)
  case updatePost id given =>
    simp only [perform, change_eq]
    refine concluded_under ((map_bind _ _ _).trans ?_).symm
    exact bind_congr fun c => (updatePost_under h id now c).symm
  case deletePost id =>
    simp only [perform, change_eq]
    exact concluded_under (deletePost_under h id now)
  case restorePost id =>
    simp only [perform, change_eq]
    exact concluded_under (restorePost_under h id now)
  case deleteKey id =>
    simp only [perform, change_eq]
    exact concluded_under (deleteKey_under h id now)
  all_goals
    simp only [perform, ask, Service.under, user?, userByEmail?, Store.listUsers, Store.countUsers,
      post?, postByTitle?, Store.listPosts, Store.countPosts, key?, keyByDigest?, Store.listKeys,
      Store.listKeysOf, need_under h]
    rfl

/-- A call that may give an address is one that is watched. -/
theorem perform_watched (hs : s.store.Sound) (now : Instant) {c : Call}
    (haddress : c.givesAddress = true) :
    ∃ (β : Type) (fresh : Fresh) (encode : β → Json) (op : Store → StoreResult (Store × β)),
      Watched s.store op ∧ ∀ schema, c.perform (s.under schema) now
        = concluded (s.under schema) fresh encode (op (s.store.under schema)) := by
  cases c
  case createUser n =>
    exact ⟨User, s.fresh.usedId, user, _, createUser_watched s.fresh.nextId now n,
      fun schema => perform_createUser (s.under schema) now n⟩
  case updateUser id given =>
    have hwatched : Watched s.store fun t =>
        userChanges given >>= fun changes => t.updateUser id now changes :=
      .bind fun changes _ => updateUser_watched hs.users.ids id now changes
    exact ⟨Bool, s.fresh, .bool, _, hwatched, fun schema => change_eq (s.under schema) _⟩
  case restoreUser id =>
    exact ⟨Bool, s.fresh, .bool, _, restoreUser_watched hs.users.ids id now,
      fun schema => change_eq (s.under schema) _⟩
  all_goals cases haddress

end Call

/-- A call would, if no index looked at the users, leave addresses that differ only by case. -/
def Call.DiffersByCase (c : Call) (s : Service) (now : Instant) : Prop :=
  DifferByCase (c.perform s.unwatched now).1.store.users

namespace Service

variable {s : Service} {now : Instant}

theorem perform_sound (hs : s.store.Sound) (hnow : InEra now) {c : Call} (h : c.routine = true) :
    (c.perform s now).1.store.Sound := by
  obtain w | ⟨freshId, seed, hstore⟩ := c.perform_store h
  · exact w.sound hnow hs
  · rw [hstore]; exact Store.setUp_sound hnow (.inr hs) freshId seed

/-- One call of a repository, over the tables of a start and over those of the migration: it does the
same over both, unless it would leave addresses that differ only by case. Then it meets a conflict over
the tables of a start and is carried out over those of the migration. -/
theorem perform_migrated (hs : s.store.Sound) (hnow : InEra now) {c : Call}
    (hrepository : c.ofRepository = true) :
    ¬ c.DiffersByCase s now ∧ c.perform (s.under Schema.Migration.schema) now
        = ((c.perform s now).1.under Schema.Migration.schema, (c.perform s now).2) ∨
      c.DiffersByCase s now ∧ (c.perform s now).2 = .error (.store .conflict) ∧
        ∃ answer, (c.perform (s.under Schema.Migration.schema) now).2 = .ok answer := by
  have htables : Schema.Migration.schema.SameTables s.store.schema := by
    rw [hs.schema]; exact Schema.Migration.sameTables
  have hbare : s.store.unwatched.schema.SameTables s.store.schema := fun _ => rfl
  by_cases haddress : c.givesAddress = true
  · obtain ⟨β, fresh, encode, op, hwatched, hperform⟩ := c.perform_watched hs now haddress
    have hself : c.perform s now = Call.concluded s fresh encode (op s.store) :=
      hperform s.store.schema
    have hafter : (c.perform s.unwatched now).1.store.users
        = usersAfter s.store (op s.store.unwatched) := by
      refine (congrArg (fun x => x.1.store.users) (hperform s.store.unwatched.schema)).trans ?_
      have hunder : s.store.under s.store.unwatched.schema = s.store.unwatched := rfl
      rw [hunder]
      cases op s.store.unwatched <;> rfl
    have hstrict : s.store.schema.liveUnique? "users" "email" = some .noCase := by
      rw [hs.schema]; exact Schema.Created.start.liveUnique?
    rw [Call.DiffersByCase, hafter, hself, hperform Schema.Migration.schema]
    obtain ⟨hno, hsame⟩ | ⟨hdiffers, hconflict, made, hmade⟩ :=
      hwatched.decided hs.emails hstrict htables Schema.Created.migration.liveUnique? hbare rfl
    · exact .inl ⟨hno, Call.concluded_under hsame⟩
    · rw [hconflict, hmade]
      exact .inr ⟨hdiffers, rfl, _, rfl⟩
  · rw [Bool.not_eq_true] at haddress
    refine .inl ⟨fun hdiffers => hdiffers.2 ?_, Call.perform_under htables now hrepository haddress⟩
    have hroutine : c.routine = true := by cases c <;> first | rfl | cases hrepository
    have husers : (c.perform s.unwatched now).1.store.users = (c.perform s now).1.store.users :=
      congrArg (fun x => x.1.store.users) (Call.perform_under hbare now hrepository haddress)
    rw [husers]
    exact (perform_sound hs hnow hroutine).emails

/-- The service over empty tables of a schema. -/
def onEmpty (s : Service) (schema : Schema) : Service := { s with store := { Store.blank with schema } }

/-- A service that has no tables yet. -/
def untouched : Service where
  policy := .ofProfile .testing .standard
  seed := ⟨"", ""⟩
  platform := ""
  store := .blank
  registry := .initial
  fresh := .none
  limiter := []

end Service

/-! ### Runs -/

namespace Run

open Service

/-- An event that is a call of a repository. -/
def IsRepositoryCall (e : Event) : Prop := ∃ c, e = .call c ∧ c.ofRepository = true

/-- An event is no call that would leave addresses which differ only by case. -/
def KeepsCase (run : Run) (e : Event) : Prop :=
  ∀ c, e = .call c → ¬ c.DiffersByCase run.service run.clock

/-- Two runs part at an event: up to there they give the same, and then a call meets a conflict in the
first, where it would leave addresses that differ only by case, and is carried out in the second. -/
def PartAt (run run' : Run) (events : List (Int × Event)) : Prop :=
  ∃ before span c after, events = before ++ (span, .call c) :: after ∧
    run.Throughout KeepsCase before ∧ (run.steps before).2 = (run'.steps before).2 ∧
    c.DiffersByCase (run.upTo before span).service (run.upTo before span).clock ∧
    ((run.upTo before span).step (.call c)).2 = .value (.error (.store .conflict)) ∧
    ∃ answer, ((run'.upTo before span).step (.call c)).2 = .value (.ok answer)

/-- The run with its rows under another schema. -/
def under (run : Run) (schema : Schema) : Run := { run with service := run.service.under schema }

theorem steps_cons (run : Run) (span : Int) (e : Event) (rest : List (Int × Event)) :
    run.steps ((span, e) :: rest) = ((((run.advance span).step e).1.steps rest).1,
      ((run.advance span).step e).2 :: (((run.advance span).step e).1.steps rest).2) := rfl

/-- Calls over the tables of a start and over those of the migration: either none of them would leave
addresses that differ only by case, and both runs give the same and leave the same rows, or the runs
part at the first that would. -/
theorem steps_migrated {events : List (Int × Event)} {run : Run} (hs : run.service.store.Sound)
    (hevents : Ordinary run.clock events) (hcalls : ∀ e ∈ events, IsRepositoryCall e.2) :
    run.Throughout KeepsCase events ∧ (run.under Schema.Migration.schema).steps events
        = ((run.steps events).1.under Schema.Migration.schema, (run.steps events).2) ∨
      ¬ run.Throughout KeepsCase events ∧
        (run.steps events).2 ≠ ((run.under Schema.Migration.schema).steps events).2 ∧
        PartAt run (run.under Schema.Migration.schema) events := by
  induction events generalizing run with
  | nil => exact .inl ⟨throughout_nil _ _, rfl⟩
  | cons event rest ih =>
    obtain ⟨span, e⟩ := event
    obtain ⟨c, rfl, hrepository⟩ := hcalls _ List.mem_cons_self
    obtain ⟨hnow, hroutine, hrest⟩ := hevents
    obtain ⟨hkeeps, hsame⟩ | ⟨hdiffers, hconflict, answer, hanswer⟩ :=
      Service.perform_migrated (s := run.service) hs hnow hrepository
    · have hstep : ((run.under Schema.Migration.schema).advance span).step (.call c)
          = (((run.advance span).step (.call c)).1.under Schema.Migration.schema,
            ((run.advance span).step (.call c)).2) := by
        rw [step, step]
        dsimp only [advance, under]
        rw [hsame]
      have hfirst : KeepsCase (run.advance span) (.call c) := fun c' hc' => by
        cases hc'
        exact hkeeps
      have hnext : ((run.advance span).step (.call c)).1.service.store.Sound :=
        Service.perform_sound hs hnow (hroutine c rfl)
      rw [steps_cons, steps_cons, hstep, throughout_cons]
      obtain ⟨hrest', hsteps⟩ | ⟨hparts, hresults, before, span', c', after, rfl, hpart⟩ :=
        ih hnext hrest fun e he => hcalls e (List.mem_cons_of_mem _ he)
      · refine .inl ⟨⟨hfirst, hrest'⟩, ?_⟩
        dsimp only
        rw [hsteps]
      · obtain ⟨hbefore, hsame', hdiffers, hconflict, hanswer⟩ := hpart
        refine .inr ⟨fun h => hparts h.2, fun h => hresults (List.cons.inj h).2,
          (span, .call c) :: before, span', c', after, rfl, throughout_cons.2 ⟨hfirst, hbefore⟩,
          ?_, hdiffers, hconflict, ?_⟩
        · rw [steps_cons, steps_cons, hstep]
          exact congrArg (List.cons _) hsame'
        · rw [upTo, steps_cons, hstep]
          exact hanswer
    · have hhere : ((run.advance span).step (.call c)).2 = .value (.error (.store .conflict)) :=
        congrArg Result.value hconflict
      have hthere : (((run.under Schema.Migration.schema).advance span).step (.call c)).2
          = .value (.ok answer) := congrArg Result.value hanswer
      refine .inr ⟨fun h => (throughout_cons.1 h).1 c rfl hdiffers, fun h => ?_,
        [], span, c, rest, rfl, throughout_nil _ _, rfl, hdiffers, hhere, answer, hthere⟩
      rw [steps_cons, steps_cons] at h
      have hheads := (List.cons.inj h).1
      rw [hhere, hthere] at hheads
      cases hheads

/-- Calls of the repositories over the empty tables of a start and over those of the migration give
the same and leave the same rows exactly if none of them would leave two live users whose addresses
differ only in the case of ASCII letters. If one would, the runs part at the first that would: a start
refuses it with a conflict, and the migration carries it out. -/
theorem schemas_agree_iff {base : Service} {startup migrated : Schema} {clock : Instant}
    {events : List (Int × Event)}
    (hstartup : Schema.empty.carryOutAll? Schema.Startup.statements = some startup)
    (hmigrated : Schema.empty.carryOutAll? Schema.Migration.upgrade = some migrated)
    (hevents : Ordinary clock events) (hcalls : ∀ e ∈ events, IsRepositoryCall e.2) :
    (((start (base.onEmpty startup) clock).steps events).2
          = ((start (base.onEmpty migrated) clock).steps events).2 ∧
        ((start (base.onEmpty startup) clock).steps events).1.service.store.SameRows
          ((start (base.onEmpty migrated) clock).steps events).1.service.store ↔
      (start (base.onEmpty startup) clock).Throughout KeepsCase events) ∧
    (¬ (start (base.onEmpty startup) clock).Throughout KeepsCase events →
      PartAt (start (base.onEmpty startup) clock) (start (base.onEmpty migrated) clock) events) := by
  rw [Schema.Startup.carryOutAll?_empty] at hstartup
  rw [Schema.Migration.carryOutAll?_empty] at hmigrated
  cases hstartup
  cases hmigrated
  have hs : (start (base.onEmpty Schema.Startup.schema) clock).service.store.Sound := sound_created
  have hunder : start (base.onEmpty Schema.Migration.schema) clock
      = (start (base.onEmpty Schema.Startup.schema) clock).under Schema.Migration.schema := rfl
  rw [hunder]
  obtain ⟨hkeeps, hsteps⟩ | ⟨hno, hresults, hpart⟩ := steps_migrated hs hevents hcalls
  · rw [hsteps]
    exact ⟨⟨fun _ => hkeeps, fun _ => ⟨rfl, rfl, rfl, rfl⟩⟩, fun hno => absurd hkeeps hno⟩
  · exact ⟨⟨fun h => absurd h.1 hresults, fun h => absurd h hno⟩, fun _ => hpart⟩

/-- Two users are added, one after the other, with one address in two spellings. -/
def spellings : List (Int × Event) :=
  [(0, .call (.createUser (newcomer "a@example.com"))),
    (1, .call (.createUser (newcomer "A@example.com")))]

theorem spellings_ordinary : Ordinary 0 spellings ∧ ∀ e ∈ spellings, IsRepositoryCall e.2 := by
  refine ⟨⟨inEra_zero, fun c hc => by cases hc; rfl, by rw [InEra]; decide,
    fun c hc => by cases hc; rfl, trivial⟩, fun e he => ?_⟩
  simp only [spellings, List.mem_cons, List.not_mem_nil, or_false] at he
  rcases he with rfl | rfl <;> exact ⟨_, rfl, rfl⟩

/-- Whether something failed. -/
def Result.failed : Result → Bool
  | .value (.error _) => true
  | _ => false

/-- The second user is refused over the tables of a start, and added over those of the migration. -/
theorem spellings_failed :
    ((start (untouched.onEmpty Schema.Startup.schema) 0).steps spellings).2.map Result.failed
        = [false, true] ∧
      ((start (untouched.onEmpty Schema.Migration.schema) 0).steps spellings).2.map Result.failed
        = [false, false] := by
  constructor <;> decide +kernel

theorem spellings_differ :
    ((start (untouched.onEmpty Schema.Startup.schema) 0).steps spellings).2
      ≠ ((start (untouched.onEmpty Schema.Migration.schema) 0).steps spellings).2 := by
  intro h
  obtain ⟨hstartup, hmigrated⟩ := spellings_failed
  rw [h, hmigrated] at hstartup
  exact absurd hstartup (by decide)

/-- Two spellings of one address part the runs at the second. -/
theorem schemas_agree_iff_spellings : ∃ startup migrated,
    Schema.empty.carryOutAll? Schema.Startup.statements = some startup ∧
      Schema.empty.carryOutAll? Schema.Migration.upgrade = some migrated ∧
      Ordinary 0 spellings ∧ (∀ e ∈ spellings, IsRepositoryCall e.2) ∧
      PartAt (start (untouched.onEmpty startup) 0) (start (untouched.onEmpty migrated) 0) spellings := by
  have hstartup := Schema.Startup.carryOutAll?_empty
  have hmigrated := Schema.Migration.carryOutAll?_empty
  obtain ⟨hevents, hcalls⟩ := spellings_ordinary
  have hrule : _ ∧ (¬ (start (untouched.onEmpty Schema.Startup.schema) 0).Throughout KeepsCase
      spellings → _) := schemas_agree_iff hstartup hmigrated hevents hcalls
  exact ⟨_, _, hstartup, hmigrated, hevents, hcalls,
    hrule.2 fun hkeeps => spellings_differ (hrule.1.2 hkeeps).1⟩

/-- The two ways of creating the tables do not make the same store. -/
theorem schemas_part : ∃ startup migrated,
    Schema.empty.carryOutAll? Schema.Startup.statements = some startup ∧
      Schema.empty.carryOutAll? Schema.Migration.upgrade = some migrated ∧
      Ordinary 0 spellings ∧ (∀ e ∈ spellings, IsRepositoryCall e.2) ∧
      ((start (untouched.onEmpty startup) 0).steps spellings).2
        ≠ ((start (untouched.onEmpty migrated) 0).steps spellings).2 :=
  ⟨_, _, Schema.Startup.carryOutAll?_empty, Schema.Migration.carryOutAll?_empty,
    spellings_ordinary.1, spellings_ordinary.2, spellings_differ⟩

end Run

end Pressroom
