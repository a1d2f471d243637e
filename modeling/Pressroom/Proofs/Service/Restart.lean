import Pressroom.Proofs.Service.Lifecycle
import Pressroom.Proofs.Service.Seed

/-!
Restarts. A new process finds the store of the one before it and sets it up again, with whatever
policy and settings it was given. All tables are there, so none is created; and since no row is ever
lost, the users table still holds the row of the first administrator, deleted or not, so nobody is
added. Setting up again is therefore a step that changes nothing, over any number of restarts.
-/
namespace Pressroom

namespace Store

/-- Setting up a store with users, live or deleted, changes nothing, whoever should be added. -/
theorem Sound.setUp {s : Store} (hs : s.Sound) (husers : s.users ≠ []) (freshId : String)
    (now : Instant) (seed : Seed) : s.setUp freshId now seed = (s, .ok false) := by
  rw [Store.setUp, hs.createMissing]
  exact if_pos (by simpa using husers)

end Store

namespace Service

open Store

/-! ### Processes that follow each other -/

/-- A new process over the store that an earlier one has left, before it sets the store up. Only
the store and what has been given out are as they were. -/
def reopen (s : Service) (policy : Policy) (settings : Settings) (platform : String) : Service where
  policy
  seed := ⟨settings.adminEmail, settings.adminPassword⟩
  platform
  store := s.store
  registry := Registry.initial.ensureAll [viewPosts, editPosts]
  fresh := s.fresh
  limiter := []

/-- Starts a new process over the store of an earlier one. -/
def restart (s : Service) (policy : Policy) (settings : Settings) (platform : String)
    (now : Instant) : Service × Except SetupFault Unit :=
  (s.reopen policy settings platform).setUp now

/-- One thing that happens to a service or between two processes. -/
inductive StepOrRestart (s : Service) : Service → Prop
  | step {t : Service} (h : s.Step t) : StepOrRestart s t
  | restart (policy : Policy) (settings : Settings) (platform : String) (now : Instant) :
      StepOrRestart s (s.restart policy settings platform now).1

/-- What a service becomes while processes follow each other. -/
abbrev Outlives : Service → Service → Prop := Relation.ReflTransGen StepOrRestart

/-- A sound service with a row among its users, live or deleted. -/
structure Settled (s : Service) : Prop where
  sound : s.Sound
  users : s.store.users ≠ []

variable {s t : Service}

theorem Settled.setUp (hs : s.Settled) (now : Instant) : s.setUp now = (s, .ok ()) := by
  rw [Service.setUp, hs.sound.store.setUp hs.users]
  rfl

theorem Settled.reopen (hs : s.Settled) (policy : Policy) (settings : Settings)
    (platform : String) : (s.reopen policy settings platform).Settled :=
  ⟨⟨hs.sound.store, Registry.standard_ensureAll⟩, hs.users⟩

theorem Settled.restart (hs : s.Settled) (policy : Policy) (settings : Settings)
    (platform : String) (now : Instant) :
    s.restart policy settings platform now = (s.reopen policy settings platform, .ok ()) :=
  (hs.reopen policy settings platform).setUp now

/-- No step takes the last row out of the users table. -/
theorem Settled.step (hs : s.Settled) (h : s.Step t) : t.Settled := by
  refine ⟨h.sound hs.sound, fun hnone => ?_⟩
  obtain ⟨r, hr⟩ := List.exists_mem_of_ne_nil _ hs.users
  obtain ⟨r', hr', -⟩ := Reaches.stays (.single h) hs.sound (k := .user) hr
  have hr' : r' ∈ t.store.users := hr'
  rw [hnone] at hr'
  cases hr'

theorem Settled.stepOrRestart (hs : s.Settled) (h : s.StepOrRestart t) : t.Settled := by
  cases h with
  | step h => exact hs.step h
  | restart policy settings platform now =>
    rw [hs.restart]
    exact hs.reopen policy settings platform

theorem Settled.outlives (hs : s.Settled) (h : s.Outlives t) : t.Settled := by
  induction h with
  | refl => exact hs
  | tail _ step ih => exact ih.stepOrRestart step

theorem start_settled {policy : Policy} {settings : Settings} {platform : String} {now : Instant}
    {first : Service} (hnow : InEra now) (h : start policy settings platform now = .ok first) :
    first.Settled := by
  obtain ⟨-, hash, -, husers⟩ := start_users h
  exact ⟨start_sound hnow h, by rw [husers]; exact List.cons_ne_nil _ _⟩

/-! ### Setting up again -/

/-- However often processes have followed each other and whatever has happened in between, setting
the store up again succeeds, seeds nobody, and leaves the schema and every row as they are. -/
theorem restart_keeps {policy : Policy} {settings : Settings} {platform : String} {begin : Instant}
    {first s : Service} (hbegin : InEra begin)
    (hstart : start policy settings platform begin = .ok first) (h : first.Outlives s) :
    (∀ freshId now seed, s.store.setUp freshId now seed = (s.store, .ok false)) ∧
    (∀ now, Call.setUp.perform s now = (s, .ok .null)) ∧
    ∀ policy' settings' platform' now,
      s.restart policy' settings' platform' now = (s.reopen policy' settings' platform', .ok ()) ∧
      (s.restart policy' settings' platform' now).1.store = s.store := by
  have hs : s.Settled := (start_settled hbegin hstart).outlives h
  refine ⟨hs.sound.store.setUp hs.users, fun now => ?_, fun policy' settings' platform' now => ?_⟩
  · rw [Call.perform, hs.setUp]
  · have hrestart := hs.restart policy' settings' platform' now
    exact ⟨hrestart, by rw [hrestart]; rfl⟩

/-- The only user is deleted, and the settings name another administrator at the restart. -/
theorem restart_keeps_deleted :
    ∃ first, start (.ofProfile .testing .standard) .standard "" 0 = .ok first ∧
      ∃ s, s = ((Call.deleteUser (Text.ofString (Fresh.idText 1))).perform first 0).1 ∧
        (∀ r ∈ s.store.users, r.isLive = false) ∧
        ∀ now, s.restart (.ofProfile .production .standard)
            { Settings.standard with adminEmail := "b@c.de", adminPassword := "other" } "" now
          = (s.reopen (.ofProfile .production .standard)
            { Settings.standard with adminEmail := "b@c.de", adminPassword := "other" } "",
              .ok ()) := by
  obtain ⟨first, hstart, hdead⟩ :
      ∃ first, start (.ofProfile .testing .standard) .standard "" 0 = .ok first ∧
        ∀ r ∈ ((Call.deleteUser (Text.ofString (Fresh.idText 1))).perform first 0).1.store.users,
          r.isLive = false := ⟨_, rfl, by decide +kernel⟩
  refine ⟨first, hstart, _, rfl, hdead, fun now => ?_⟩
  exact ((restart_keeps inEra_zero hstart
    (.single (.step (.call 0 _ inEra_zero rfl)))).2.2 _ _ _ now).1

end Service

end Pressroom
