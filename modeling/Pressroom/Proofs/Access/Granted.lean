import Pressroom.Proofs.Json.Object
import Pressroom.Proofs.Permission.Mask
import Pressroom.Proofs.Access.Logout

/-!
What a caller is told about permissions, and what the guards make of them. The registry of a service is
one that calls lead to, and only grows; so the names that a caller is told for a mask are among the names
of this mask ever after, and every guard that looks at the mask lets its bearer through exactly if the
name it asks for was told, or `Admin` was.
-/
namespace Pressroom

open Web

namespace Registry

variable {r r' : Registry} {name : String}

/-! ### Registries of services -/

theorem Reached.after (h : r.Reached) (c : Call) : (r.after c).Reached := by
  obtain ⟨calls, rfl⟩ := h
  exact ⟨calls ++ [c], List.foldl_append⟩

theorem ensureAll_eq_run (r : Registry) (wanted : List String) :
    r.ensureAll wanted = r.run (wanted.map .ensure) := by
  rw [run, List.foldl_map]
  rfl

/-- As a registry grows, a name that it had stays among the names of the same masks. -/
theorem Sound.mem_namesFor_of_begins (h : r.Sound) (h' : r'.Sound) (hbegins : r.entries <+: r'.entries)
    (hname : name ∈ r.names) (m : Int) : name ∈ r'.namesFor m ↔ name ∈ r.namesFor m := by
  obtain ⟨bit, hbit⟩ := Option.isSome_iff_exists.1 (isSome_bit?_iff.2 hname)
  rw [h'.mem_namesFor_iff_carries (bit?_of_begins hbegins hbit), h.mem_namesFor_iff_carries hbit]

end Registry

namespace Service

variable {s t m : Service} {now : Instant} {r : Request} {e : Endpoint} {v : Visit} {user : User}
  {permission : String}

theorem start_registry_reached {policy : Policy} {settings : Settings} {platform : String}
    (h : start policy settings platform now = .ok s) : s.registry.Reached := by
  rw [start] at h
  split at h
  · cases h
  · rename_i service hsetup
    cases h
    rw [setUp] at hsetup
    dsimp only at hsetup
    split at hsetup <;> cases hsetup
    exact ⟨[viewPosts, editPosts].map .ensure, (Registry.ensureAll_eq_run _ _).symm⟩

/-- A step makes one call of the registry at most. -/
theorem Step.registry_after (h : s.Step t) :
    t.registry = s.registry ∨ ∃ c, t.registry = s.registry.after c := by
  refine h.registry.imp_right fun ⟨name, bit, hregister⟩ => ⟨.register name, ?_⟩
  rw [Registry.after, Registry.Call.outcome, hregister]

theorem Reaches.registry_reached (h : s.Reaches t) (hs : s.registry.Reached) :
    t.registry.Reached := by
  induction h with
  | refl => exact hs
  | tail _ step ih =>
    obtain hsame | ⟨c, hafter⟩ := step.registry_after
    · rwa [hsame]
    · rw [hafter]; exact ih.after c

theorem Reaches.registry_begins (h : s.Reaches t) : s.registry.entries <+: t.registry.entries := by
  induction h with
  | refl => exact List.prefix_refl _
  | tail _ step ih =>
    obtain hsame | ⟨c, hafter⟩ := step.registry_after
    · rwa [hsame]
    · rw [hafter]; exact ih.trans (Registry.after_begins _ c)

/-! ### What a caller is told -/

/-- An answer lists these names as permissions. -/
def Lists (response : Response) (listed : List String) : Prop :=
  response.body.bind (·.get? "permissions") = some (.list (listed.map .string))

/-- A known caller who asks is told the names of the own mask. -/
theorem whoami_lists (harrival : s.arrival? now r = some (m, .whoami, v)) (hmethod : r.method ≠ "HEAD")
    (hsender : s.sender? now r = .ok (some user)) :
    (s.handle now r).2.status = 200 ∧
      Lists (s.handle now r).2 (s.registry.namesFor user.data.permissions) := by
  have hsame := arrival?_same harrival
  have hmeets := caller_meets (s := s) (arrival?_visit harrival)
  rw [hsender] at hmeets
  have hcaller : m.caller v = s.caller v := by
    simp only [caller, sessionUser, hsame.store]
  rw [Lists, (handle_arrived harrival).2, handle_body harrival hmethod, dispatch, whoami, hcaller,
    hsame.registry]
  generalize s.caller v = caller at hmeets
  cases hmeets with
  | known user byKey => exact ⟨rfl, Json.get?_ofFields _ _⟩

/-! ### What the guards make of it -/

/-- The guard lets a known sender through whose mask grants the permission. -/
theorem permitted_of_has (hv : v.now = now ∧ v.request = r ∧
      v.session.user = (Cookie.sessionAt r.cookie now).user)
    (hsender : s.sender? now r = .ok (some user))
    (hgranted : s.registry.has user.data.permissions permission = .ok true) :
    ∃ byKey, s.permitted v permission = .ok ⟨user, byKey⟩ := by
  have hmeets := caller_meets (s := s) hv
  rw [hsender] at hmeets
  rw [permitted]
  generalize s.caller v = caller at hmeets
  cases hmeets with
  | known user byKey =>
    dsimp only
    rw [hgranted]
    exact ⟨byKey, rfl⟩

/-- A guard passes a known sender whose names have the one it asks for, or `Admin`, and refuses all
others. -/
theorem guard_decides (hknown : s.registry.Sound) (hname : permission ∈ s.registry.names)
    (hguard : e.permission? = some permission) (harrival : s.arrival? now r = some (m, e, v))
    (hsender : s.sender? now r = .ok (some user)) {held : List String}
    (hheld : ∀ name, name = permission ∨ name = Registry.adminName →
      (name ∈ held ↔ name ∈ s.registry.namesFor user.data.permissions)) :
    (permission ∈ held ∨ Registry.adminName ∈ held →
      ∃ byKey, m.permitted v permission = .ok ⟨user, byKey⟩) ∧
    (¬ (permission ∈ held ∨ Registry.adminName ∈ held) → s.Refused now r e 403) := by
  have hv := arrival?_visit harrival
  rw [hheld _ (.inl rfl), hheld _ (.inr rfl), permitted_same (arrival?_same harrival)]
  constructor
  · intro hlisted
    exact permitted_of_has hv hsender
      ((hknown.has_eq hname _).trans (congrArg _ (decide_eq_true hlisted)))
  · intro hunlisted
    obtain ⟨reply, hpermitted, hstatus⟩ := permitted_lacking hv hsender
      ((hknown.has_eq hname _).trans (congrArg _ (decide_eq_false hunlisted)))
    exact hstatus ▸ refused_of_permitted harrival hguard hpermitted

/-- Every name that a guard asks for is registered. -/
theorem Sound.guard_name (hs : s.Sound) (hguard : e.permission? = some permission) :
    permission ∈ s.registry.names :=
  Registry.isSome_bit?_iff.1 (Option.isSome_iff_exists.2 (hs.registry.knows hguard))

/-- What a caller is told decides which guards let in whoever has the same mask, then and ever after. -/
def TellsAccess (s : Service) (mask : Int) (listed : List String) : Prop :=
  ∀ t, s.Reaches t → ∀ now r m e v permission user, t.arrival? now r = some (m, e, v) →
    e.permission? = some permission → t.sender? now r = .ok (some user) →
      user.data.permissions = mask →
        (permission ∈ listed ∨ Registry.adminName ∈ listed →
          ∃ byKey, m.permitted v permission = .ok ⟨user, byKey⟩) ∧
        (¬ (permission ∈ listed ∨ Registry.adminName ∈ listed) → t.Refused now r e 403)

/-- The names of a mask tell what its bearers may do. -/
theorem namesFor_tellsAccess (hs : s.Sound) (hregistry : s.registry.Reached) (mask : Int) :
    s.TellsAccess mask (s.registry.namesFor mask) := by
  intro t ht now r m e v permission user harrival hguard hsender hmask
  subst hmask
  have hlater := (ht.registry_reached hregistry).sound
  refine guard_decides hlater ((ht.sound hs).guard_name hguard) hguard harrival hsender ?_
  -- What the guard asks for was registered when the names were told.
  intro name hname
  have hold : name ∈ s.registry.names := by
    rcases hname with rfl | rfl
    · exact hs.guard_name hguard
    · exact hs.guard_name (e := .listUsers) rfl
  exact (hregistry.sound.mem_namesFor_of_begins hlater ht.registry_begins hold _).symm

end Service

/-! ### The main statement -/

/-- How names and masks of a registry correspond. -/
structure Registry.Corresponds (r : Registry) : Prop where
  ofNames : ∀ wanted, (∀ name ∈ wanted, name ∈ r.names) →
    ∃ mask : Nat, r.maskFor wanted = .ok mask ∧ (r.namesFor mask).Nodup ∧
      r.namesFor mask = r.names.filter (· ∈ wanted)
  ofMask : ∀ m : Int, ∃ mask : Nat, r.maskFor (r.namesFor m) = .ok mask ∧
    (mask : Int) = m % 2 ^ r.names.length
  union : ∀ first second, (∀ name ∈ first, name ∈ r.names) → (∀ name ∈ second, name ∈ r.names) →
    ∃ a b : Nat, r.maskFor first = .ok a ∧ r.maskFor second = .ok b ∧
      r.maskFor (first ++ second) = .ok (a ||| b)
  has : ∀ name ∈ r.names, ∀ m : Int,
    r.has m name = .ok (decide (name ∈ r.namesFor m ∨ adminName ∈ r.namesFor m))
  monotone : ∀ name ∈ r.names, ∀ m m' : Int, (∀ i, m.testBit i = true → m'.testBit i = true) →
    r.has m name = .ok true → r.has m' name = .ok true

theorem Registry.Sound.corresponds {r : Registry} (h : r.Sound) : r.Corresponds where
  ofNames := fun _ hwanted =>
    have ⟨mask, hmask⟩ := exists_maskFor hwanted
    ⟨mask, hmask, h.namesFor_once mask, h.namesFor_maskFor hmask⟩
  ofMask := h.maskFor_namesFor
  union := fun _ _ hfirst hsecond =>
    have ⟨a, ha⟩ := exists_maskFor hfirst
    have ⟨b, hb⟩ := exists_maskFor hsecond
    ⟨a, b, ha, hb, maskFor_append ha hb⟩
  has := fun _ => h.has_eq
  monotone := fun _ hname _ _ hbits => h.has_mono hbits hname

namespace Service

/-- In every registry that calls lead to, names and masks correspond. The registry of a service that is
reached is one of these, and a known caller who asks is told the names of the own mask, which decide
from then on what the guards make of everybody with this mask. -/
theorem names_and_masks_correspond :
    (∀ r : Registry, r.Reached → r.Corresponds) ∧
    ∀ policy settings platform begin first s, InEra begin →
      start policy settings platform begin = .ok first → first.Reaches s →
        s.registry.Reached ∧ ∀ now r m v user, s.arrival? now r = some (m, .whoami, v) →
          r.method ≠ "HEAD" → s.sender? now r = .ok (some user) →
            ∃ listed, (s.handle now r).2.status = 200 ∧ Lists (s.handle now r).2 listed ∧
              s.TellsAccess user.data.permissions listed := by
  refine ⟨fun r hr => hr.sound.corresponds, ?_⟩
  intro policy settings platform begin first s hbegin hstart hreach
  have hregistry := hreach.registry_reached (start_registry_reached hstart)
  refine ⟨hregistry, fun now r m v user harrival hmethod hsender => ?_⟩
  obtain ⟨hstatus, hlists⟩ := whoami_lists harrival hmethod hsender
  exact ⟨_, hstatus, hlists,
    namesFor_tellsAccess (hreach.sound (start_sound hbegin hstart)) hregistry _⟩

/-- The first administrator asks who it is. -/
def seedWhoami : Request := { Run.whoamiRequest with cookie := some seedCookie }

/-- What the first administrator is told decides what the guards make of everybody with its mask. -/
theorem names_and_masks_correspond_seed :
    (Registry.initial.run Registry.mixedCalls).Corresponds ∧
      ∃ first, start (.ofProfile .testing .standard) .standard "" 0 = .ok first ∧
        first.registry.Reached ∧
        ∃ listed, Lists (first.handle 0 seedWhoami).2 listed ∧ first.TellsAccess 1 listed := by
  obtain ⟨first, hstart, hfound, hmask⟩ :
      ∃ first, start (.ofProfile .testing .standard) .standard "" 0 = .ok first ∧
        (first.arrival? 0 seedWhoami).map (·.2.1) = some .whoami ∧
        ((first.sender? 0 seedWhoami).toOption.bind id).map (·.data.permissions) = some 1 :=
    ⟨_, rfl, by decide +kernel, by decide +kernel⟩
  obtain ⟨⟨m, e, v⟩, harrival, rfl⟩ := Option.map_eq_some_iff.1 hfound
  obtain ⟨user, huser, hone⟩ := Option.map_eq_some_iff.1 hmask
  obtain ⟨_, hsender, rfl⟩ := Option.bind_eq_some_iff.1 huser
  obtain ⟨hcorresponds, hservices⟩ := names_and_masks_correspond
  obtain ⟨hregistry, htold⟩ := hservices _ _ _ _ first first inEra_zero hstart .refl
  obtain ⟨listed, -, hlists, haccess⟩ :=
    htold 0 seedWhoami m v user harrival (by decide) (toOption_eq_some.1 hsender)
  exact ⟨hcorresponds _ ⟨_, rfl⟩, first, hstart, hregistry, listed, hlists, hone ▸ haccess⟩

end Service

end Pressroom
