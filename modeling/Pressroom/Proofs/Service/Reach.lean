import Pressroom.Service.Run
import Pressroom.Proofs.Permission.Registry
import Pressroom.Proofs.Service.Arrival
import Pressroom.Proofs.Service.Frame

/-!
The states that a service gets into. A `Step` is a request, a call of the program itself, or a count
on the way to a handler; `Reaches` is any number of them in any order. Whatever a service reaches
from its start is sound: its store is as it should be, and its registry knows the permissions that
the handlers ask for.
-/
namespace Pressroom

/-! ### The registry -/

namespace Registry

/-- The permissions that the handlers ask for have their bits. -/
structure Standard (r : Registry) : Prop where
  admin : r.bit? adminName = some adminBit
  viewPosts : r.bit? Service.viewPosts = some 2
  editPosts : r.bit? Service.editPosts = some 4

theorem standard_ensureAll :
    (initial.ensureAll [Service.viewPosts, Service.editPosts]).Standard := by
  constructor <;> decide +kernel

theorem register_bit? {r r' : Registry} {name known : String} {bit b : Nat}
    (h : r.register name = .ok (bit, r')) (hknown : r.bit? known = some b) :
    r'.bit? known = some b := by
  obtain ⟨-, -, rfl⟩ := register_eq_ok_iff.1 h
  exact bit?_of_begins (List.prefix_append ..) hknown

theorem Standard.register {r r' : Registry} {name : String} {bit : Nat} (hr : r.Standard)
    (h : r.register name = .ok (bit, r')) : r'.Standard :=
  ⟨register_bit? h hr.admin, register_bit? h hr.viewPosts, register_bit? h hr.editPosts⟩

end Registry

/-! ### Calls -/

namespace Call

open Store

/-- Whether a call is one of the program itself. The others damage the store by hand. -/
def routine : Call → Bool
  | dropTable _ | wipe _ | setTime .. | loseStore => false
  | _ => true

variable {s : Service} {now : Instant}

theorem change_writes {r : StoreResult (Store × Bool)}
    (h : ∀ t found, r = .ok (t, found) → t = s.store ∨ found = true ∧ Write now s.store t) :
    Writes now s.store (change s r).1.store := by
  cases r with
  | error f => exact .refl
  | ok made =>
    rcases h made.1 made.2 rfl with hsame | ⟨-, w⟩
    · rw [change, hsame]
    · exact .single w

/-- A call of the program sets the store up or makes changes, one after the other. -/
theorem perform_store (c : Call) (h : c.routine = true) :
    Writes now s.store (c.perform s now).1.store ∨
      ∃ freshId seed, (c.perform s now).1.store = (s.store.setUp freshId now seed).1 := by
  cases c
  case getUser | getUserByEmail | listUsers | countUsers | getPost | findPost | listPosts | countPosts
      | getKey | getKeyByDigest | listKeys | listKeysOf | authenticate | resolveKey | hasPermission
      | describeSchema => exact .inl .refl
  case dropTable | wipe | setTime | loseStore => cases h
  case createUser n => exact .inl (Service.addUser_adds n).writes
  case updateUser id given =>
    refine .inl (change_writes fun t found h => ?_)
    obtain ⟨c, -, h⟩ := bind_eq_ok.1 h
    exact updateUser_write h
  case updatePassword => exact .inl (change_writes fun t found h => updatePassword_write h)
  case deleteUser =>
    exact .inl (change_writes fun t found h => (deleteUser_write h).imp_left And.left)
  case restoreUser =>
    exact .inl (change_writes fun t found h => (restoreUser_write h).imp_left And.left)
  case createPost n => exact .inl (Service.addPost_adds n).writes
  case updatePost id given =>
    refine .inl (change_writes fun t found h => ?_)
    obtain ⟨c, -, h⟩ := bind_eq_ok.1 h
    exact updatePost_write h
  case deletePost =>
    exact .inl (change_writes fun t found h => (deletePost_write h).imp_left And.left)
  case restorePost =>
    exact .inl (change_writes fun t found h => (restorePost_write h).imp_left And.left)
  case createKey n => exact .inl (Service.addKey_adds n).writes
  case deleteKey =>
    exact .inl (change_writes fun t found h => (deleteKey_write h).imp_left And.left)
  case issueKey owner expires => exact .inl (Service.issueKey_adds owner expires).writes
  case registerPermission name =>
    left
    rw [perform]
    split <;> exact .refl
  case setUp =>
    right
    refine ⟨s.fresh.nextId, s.seed, ?_⟩
    rw [perform, Service.setUp]
    cases h : s.store.setUp s.fresh.nextId now s.seed with
    | mk store made => cases made <;> rfl

theorem change_registry (r : StoreResult (Store × Bool)) :
    (change s r).1.registry = s.registry := by
  cases r <;> rfl

theorem damage_registry (r : StoreResult Store) : (damage s r).1.registry = s.registry := by
  cases r <;> rfl

/-- A call leaves the registry alone, unless it registers a permission. -/
theorem perform_registry (c : Call) : (c.perform s now).1.registry = s.registry ∨
    ∃ name bit, s.registry.register name = .ok (bit, (c.perform s now).1.registry) := by
  cases c
  case getUser | getUserByEmail | listUsers | countUsers | getPost | findPost | listPosts | countPosts
      | getKey | getKeyByDigest | listKeys | listKeysOf | authenticate | resolveKey | hasPermission
      | describeSchema | loseStore => exact .inl rfl
  case updateUser | updatePassword | deleteUser | restoreUser | updatePost | deletePost
      | restorePost | deleteKey => exact .inl (change_registry _)
  case dropTable | wipe | setTime => exact .inl (damage_registry _)
  case createUser n => exact .inl (Service.onlyStores_addUser now n).registry
  case createPost n => exact .inl (Service.onlyStores_addPost now n).registry
  case createKey n => left; rw [perform, Service.addKey]; split <;> rfl
  case issueKey owner expires => exact .inl (Service.onlyStores_issueKey now owner expires).registry
  case registerPermission name =>
    rw [perform]
    split
    · exact .inl rfl
    · rename_i bit registry h; exact .inr ⟨name, bit, h⟩
  case setUp =>
    left
    rw [perform, Service.setUp]
    cases h : s.store.setUp s.fresh.nextId now s.seed with
    | mk store made => cases made <;> rfl

end Call

namespace Service

/-- A service as it runs. -/
structure Sound (s : Service) : Prop where
  store : s.store.Sound
  registry : s.registry.Standard

/-! ### Requests -/

/-- A request makes changes of the store one after the other. -/
theorem handle_writes {s : Service} {now : Instant} (hs : s.store.Sound) (hnow : InEra now)
    (r : Web.Request) : Store.Writes now s.store (s.handle now r).1.store := by
  cases h : s.arrival? now r with
  | none => rw [(handle_turned_away h).store]
  | some arrival =>
    obtain ⟨m, e, v⟩ := arrival
    have hm := (arrival?_same h).store
    have hv := (arrival?_visit h).1
    have w : Store.Writes v.now m.store (m.dispatch e v).1.store :=
      dispatch_writes (by rw [hm]; exact hs) (by rw [hv]; exact hnow) e
    rw [hv, hm] at w
    rw [(handle_arrived h).1]
    exact w

theorem handle_registry (s : Service) (now : Instant) (r : Web.Request) :
    (s.handle now r).1.registry = s.registry := by
  cases h : s.arrival? now r with
  | none => exact (handle_turned_away h).registry
  | some arrival =>
    obtain ⟨m, e, v⟩ := arrival
    rw [(handle_arrived h).1, ← (arrival?_same h).registry]
    exact (dispatch_onlyStores m e v).registry

/-! ### Steps -/

/-- One thing that happens to a service while the clock is in its era: a request, a call of the
program itself, or something being counted on the way to a handler. -/
inductive Step (s : Service) : Service → Prop
  | request (now : Instant) (r : Web.Request) (hnow : InEra now) : Step s (s.handle now r).1
  | call (now : Instant) (c : Call) (hnow : InEra now) (hc : c.routine = true) :
      Step s (c.perform s now).1
  | counted (m : Service) (h : SameButCounts s m) : Step s m

/-- What a service gets into by any number of things that happen, in any order. -/
abbrev Reaches : Service → Service → Prop := Relation.ReflTransGen Step

variable {s t : Service}

/-- What a step does to the store: changes one after the other, or setting it up again. -/
theorem Step.store (h : s.Step t) (hs : s.Sound) :
    ∃ now, InEra now ∧ (Store.Writes now s.store t.store ∨
      ∃ freshId seed, t.store = (s.store.setUp freshId now seed).1) := by
  cases h with
  | request now r hnow => exact ⟨now, hnow, .inl (handle_writes hs.store hnow r)⟩
  | call now c hnow hc => exact ⟨now, hnow, Call.perform_store c hc⟩
  | counted m h => exact ⟨0, inEra_zero, .inl (by rw [h.store])⟩

theorem Step.registry (h : s.Step t) : t.registry = s.registry ∨
    ∃ name bit, s.registry.register name = .ok (bit, t.registry) := by
  cases h with
  | request now r _ => exact .inl (handle_registry s now r)
  | call now c _ _ => exact Call.perform_registry c
  | counted m h => exact .inl h.registry

/-- No step breaks a service. -/
theorem Step.sound (h : s.Step t) (hs : s.Sound) : t.Sound where
  store := by
    obtain ⟨now, hnow, w | ⟨freshId, seed, hstore⟩⟩ := h.store hs
    · exact w.sound hnow hs.store
    · rw [hstore]; exact Store.setUp_sound hnow (.inr hs.store) freshId seed
  registry := by
    rcases h.registry with hsame | ⟨name, bit, hregister⟩
    · rw [hsame]; exact hs.registry
    · exact hs.registry.register hregister

theorem Reaches.sound (h : s.Reaches t) (hs : s.Sound) : t.Sound := by
  induction h with
  | refl => exact hs
  | tail _ step ih => exact step.sound ih

/-- A service that has started is sound. -/
theorem start_sound {policy : Policy} {settings : Settings} {platform : String} {now : Instant}
    (hnow : InEra now) (h : start policy settings platform now = .ok s) : s.Sound := by
  rw [start] at h
  split at h
  · cases h
  · rename_i service hsetup
    cases h
    rw [setUp] at hsetup
    have hstore := Store.setUp_sound hnow (.inl rfl) Fresh.none.nextId
      ⟨settings.adminEmail, settings.adminPassword⟩
    dsimp only at hsetup
    split at hsetup
    · cases hsetup
    · rename_i store seeded hmade
      cases hsetup
      rw [hmade] at hstore
      exact ⟨hstore, Registry.standard_ensureAll⟩

end Service

/-! ### Somebody who is not known -/

/-- A request for a post without a cookie and without a key. -/
def Service.strangerRequest (method : String) : Web.Request :=
  ⟨method, ⟨Web.defaultHost, "/posts/1".toList, []⟩, [], false, none, none⟩

/-! ### Runs -/

namespace Run

open Service

/-- Events with the spans before them, none of which damages the store or leaves the era of the
clock. -/
def Ordinary (clock : Instant) : List (Int × Event) → Prop
  | [] => True
  | (span, e) :: rest =>
    InEra (clock + span) ∧ (∀ c, e = .call c → c.routine = true) ∧ Ordinary (clock + span) rest

/-- The moment at the end of some events and of the span of time after them. -/
def upTo (run : Run) (events : List (Int × Event)) (span : Int) : Run :=
  (run.steps events).1.advance span

/-- Something is true of every event at the moment at which it happens. -/
def Throughout (P : Run → Event → Prop) (run : Run) (events : List (Int × Event)) : Prop :=
  ∀ before span e after, events = before ++ (span, e) :: after → P (run.upTo before span) e

theorem throughout_nil (P : Run → Event → Prop) (run : Run) : run.Throughout P [] :=
  fun before _ _ _ hsplit => by simp at hsplit

theorem throughout_cons {P : Run → Event → Prop} {run : Run} {span : Int} {e : Event}
    {rest : List (Int × Event)} : run.Throughout P ((span, e) :: rest) ↔
      P (run.advance span) e ∧ ((run.advance span).step e).1.Throughout P rest := by
  constructor
  · refine fun h => ⟨h [] span e rest rfl, fun before span' e' after hsplit => ?_⟩
    exact h ((span, e) :: before) span' e' after (by rw [hsplit]; rfl)
  · rintro ⟨hfirst, hrest⟩ before span' e' after hsplit
    cases before with
    | nil => cases hsplit; exact hfirst
    | cons event before =>
      obtain ⟨hevent, htail⟩ := List.cons.inj hsplit
      cases hevent
      exact hrest before span' e' after htail

theorem step_clock (run : Run) (e : Event) : (run.step e).1.clock = run.clock := by
  cases e <;> rfl

theorem step_steps (run : Run) {e : Event} (hnow : InEra run.clock)
    (hcall : ∀ c, e = .call c → c.routine = true) :
    run.service.Step (run.step e).1.service := by
  cases e with
  | request name r showSecret => exact .request _ _ hnow
  | call c => exact .call _ c hnow (hcall c rfl)

theorem steps_reaches (run : Run) (events : List (Int × Event))
    (h : Ordinary run.clock events) : run.service.Reaches (run.steps events).1.service := by
  induction events generalizing run with
  | nil => exact .refl
  | cons event rest ih =>
    obtain ⟨span, e⟩ := event
    obtain ⟨hnow, hcall, hrest⟩ := h
    have hclock := step_clock (run.advance span) e
    exact .head (step_steps (run.advance span) hnow hcall) (ih _ (hclock ▸ hrest))

end Run

end Pressroom
