import Mathlib.Data.Nat.Bitwise
import Pressroom.Check.Field
import Pressroom.Permission.Registry
import Pressroom.Store.Basic
import Pressroom.Proofs.Result
import Pressroom.Proofs.Text.Clean

/-!
Registries as they come about. The next bit is not kept anywhere, it is read off the number of names;
so that no two names share one rests on what every call keeps: the names own the powers of two in order,
`Admin` comes first, each name is stripped and stands once, and there are at most sixty-three. A call
adds one name at the end or changes nothing, hence a bit that was given out stays. The mask of registered
names has the bits of these names and no others, so it stays below two to the number of names.
-/
namespace Pressroom

theorem stripString_stripString (s : String) : stripString (stripString s) = stripString s := by
  rw [stripString, stripString, String.toList_ofList, trimBoth_trimBoth]

/-- The masks that a user can have are the numbers of sixty-three bits. -/
theorem Check.permissions_whole {n : Int} :
    permissions (.whole n) = .ok () ↔ 0 ≤ n ∧ n ≤ permissionsMax := by
  have hcheck : permissions (.whole n)
      = if n < 0 || permissionsMax < n then .error .permissionsOutOfRange else .ok () := rfl
  rw [hcheck]
  split
  · rename_i hout
    simp only [Bool.or_eq_true, decide_eq_true_eq] at hout
    refine ⟨(nomatch ·), fun h => ?_⟩
    omega
  · rename_i hin
    simp only [Bool.or_eq_true, decide_eq_true_eq] at hin
    refine ⟨fun _ => ?_, fun _ => rfl⟩
    omega

namespace Registry

variable {r r' : Registry} {name : String} {wanted : List String} {bit mask : Nat}

/-! ### Calls -/

/-- What can be asked of a registry that changes it. -/
inductive Call where
  | register (name : String)
  | ensure (name : String)

/-- The bit that a call gives and the registry it makes, or why it fails. -/
def Call.outcome (r : Registry) : Call → Except Fault (Nat × Registry)
  | register name => r.register name
  | ensure name => r.ensure name

/-- The registry after a call: the one before if the call fails. -/
def after (r : Registry) (c : Call) : Registry :=
  match c.outcome r with
  | .ok (_, r') => r'
  | .error _ => r

/-- The registry after some calls, one after the other. -/
def run (r : Registry) (calls : List Call) : Registry := calls.foldl after r

/-- A registry that calls lead to from a new one. -/
def Reached (r : Registry) : Prop := ∃ calls, initial.run calls = r

/-- The registered names, in order. -/
def names (r : Registry) : List String := r.entries.map (·.1)

theorem isSome_bit?_iff : (r.bit? name).isSome = true ↔ name ∈ r.names := by
  simp [bit?, names, List.lookup_isSome_iff]

/-- The registry with one more name. -/
def extended (r : Registry) (name : String) : Registry :=
  ⟨r.entries ++ [(name, twoTo r.entries.length)]⟩

/-- A name can be added: it is not empty, it is new, and there is a bit left. -/
structure Admits (r : Registry) (name : String) : Prop where
  filled : name ≠ ""
  new : name ∉ r.names
  room : r.entries.length < maxNames

/-- Registering succeeds exactly if the stripped name can be added. -/
theorem register_eq_ok_iff : r.register name = .ok (bit, r') ↔ r.Admits (stripString name) ∧
    bit = twoTo r.entries.length ∧ r' = r.extended (stripString name) := by
  rw [register]
  dsimp only
  constructor
  · intro h
    split at h
    · cases h
    · rename_i hfilled
      split at h
      · cases h
      · rename_i hnew
        split at h
        · cases h
        · rename_i hroom
          cases h
          exact ⟨⟨hfilled, isSome_bit?_iff.not.1 hnew, Nat.not_le.1 hroom⟩, rfl, rfl⟩
  · rintro ⟨⟨hfilled, hnew, hroom⟩, rfl, rfl⟩
    rw [if_neg hfilled, if_neg (isSome_bit?_iff.not.2 hnew), if_neg (Nat.not_le.2 hroom)]
    rfl

/-- A known name is given its bit, and the registry stays as it is; another name is registered. -/
theorem ensure_eq_ok_iff : r.ensure name = .ok (bit, r') ↔
    r.bit? name = some bit ∧ r' = r ∨ r.bit? name = none ∧ r.register name = .ok (bit, r') := by
  rw [ensure]
  cases r.bit? name with
  | none => simp
  | some known => simp [eq_comm]

/-- A call leaves the registry alone, or adds a name to it. -/
theorem after_cases (r : Registry) (c : Call) :
    r.after c = r ∨ ∃ name, r.Admits (stripString name) ∧ r.after c = r.extended (stripString name) := by
  have hregister : ∀ name bit r', r.register name = .ok (bit, r') →
      ∃ name, r.Admits (stripString name) ∧ r' = r.extended (stripString name) :=
    fun name bit r' h => ⟨name, (register_eq_ok_iff.1 h).1, (register_eq_ok_iff.1 h).2.2⟩
  rw [after]
  split
  · rename_i bit r' h
    cases c with
    | register name => exact .inr (hregister name bit r' h)
    | ensure name =>
      obtain ⟨-, hsame⟩ | ⟨-, hnew⟩ := ensure_eq_ok_iff.1 h
      · exact .inl hsame
      · exact .inr (hregister name bit r' hnew)
  · exact .inl rfl

/-- Names keep their places: a later registry goes on where an earlier one ended. -/
theorem after_begins (r : Registry) (c : Call) : r.entries <+: (r.after c).entries := by
  rcases after_cases r c with h | ⟨name, -, h⟩
  · simp only [h, List.prefix_refl]
  · rw [h]; exact List.prefix_append ..

theorem run_begins (r : Registry) (calls : List Call) : r.entries <+: (r.run calls).entries := by
  induction calls generalizing r with
  | nil => exact List.prefix_refl _
  | cons c calls ih => exact (after_begins r c).trans (ih (r.after c))

theorem bit?_of_begins (h : r.entries <+: r'.entries) (hbit : r.bit? name = some bit) :
    r'.bit? name = some bit := by
  obtain ⟨more, hmore⟩ := h
  rw [bit?] at hbit ⊢
  rw [← hmore, List.lookup_append, hbit, Option.some_or]

/-! ### The invariant -/

/-- A registry as it should be. -/
structure Sound (r : Registry) : Prop where
  first : r.entries.head? = some (adminName, adminBit)
  bits : r.entries.map (·.2) = (List.range r.entries.length).map twoTo
  few : r.entries.length ≤ maxNames
  stripped : ∀ name ∈ r.names, name ≠ "" ∧ stripString name = name
  once : r.names.Nodup

theorem initial_sound : initial.Sound := by
  refine ⟨rfl, rfl, by decide, ?_, by decide⟩
  intro name hname
  rw [List.mem_singleton.1 hname]
  exact ⟨by decide, by decide⟩

theorem Sound.extended (h : r.Sound) (ha : r.Admits (stripString name)) :
    (r.extended (stripString name)).Sound where
  first := by rw [Registry.extended, List.head?_append, h.first, Option.some_or]
  bits := by
    rw [Registry.extended, List.map_append, h.bits, List.length_append, List.length_singleton,
      List.range_succ, List.map_append]
    rfl
  few := by
    have hroom := ha.room
    rw [Registry.extended, List.length_append, List.length_singleton]
    omega
  stripped := by
    intro other hother
    rw [names, Registry.extended, List.map_append, List.mem_append] at hother
    rcases hother with hold | hnew
    · exact h.stripped other hold
    · rw [List.mem_singleton.1 hnew]
      exact ⟨ha.filled, stripString_stripString name⟩
  once := by
    rw [names, Registry.extended, List.map_append]
    refine List.nodup_append.2 ⟨h.once, List.nodup_singleton _, ?_⟩
    rintro a hold b hnew rfl
    obtain rfl := List.mem_singleton.1 hnew
    exact ha.new hold

theorem Sound.after (h : r.Sound) (c : Call) : (r.after c).Sound := by
  rcases after_cases r c with hsame | ⟨name, ha, hmore⟩
  · rwa [hsame]
  · rw [hmore]; exact h.extended ha

theorem Sound.run (h : r.Sound) (calls : List Call) : (r.run calls).Sound := by
  induction calls generalizing r with
  | nil => exact h
  | cons c calls ih => exact ih (h.after c)

theorem Reached.sound (h : r.Reached) : r.Sound := by
  obtain ⟨calls, rfl⟩ := h
  exact initial_sound.run calls

/-! ### Names and bits -/

/-- The name in a place owns the power of two of that place. -/
theorem Sound.bit?_eq_some_iff (h : r.Sound) :
    r.bit? name = some bit ↔ ∃ i, r.names[i]? = some name ∧ bit = twoTo i := by
  rw [bit?, lookup_iff_mem h.once, List.mem_iff_getElem?]
  refine exists_congr fun i => ?_
  have hbit : (r.entries.map (·.2))[i]? = ((List.range r.entries.length).map twoTo)[i]? := by
    rw [h.bits]
  rw [List.getElem?_map, List.getElem?_map] at hbit
  rw [names, List.getElem?_map]
  by_cases hi : i < r.entries.length
  · rw [List.getElem?_eq_getElem hi, List.getElem?_range hi] at hbit
    rw [List.getElem?_eq_getElem hi]
    simp only [Option.map_some, Option.some.injEq] at hbit ⊢
    rw [Prod.ext_iff, hbit, eq_comm (a := twoTo i)]
  · rw [List.getElem?_eq_none (Nat.not_lt.1 hi)]
    simp

/-- Different powers of two have no bit in common. -/
theorem twoTo_and_twoTo {i j : Nat} (h : i ≠ j) : twoTo i &&& twoTo j = 0 := by
  have hbit : (2 ^ j).testBit i = false := by
    rw [Nat.testBit_two_pow]
    exact decide_eq_false (Ne.symm h)
  change 2 ^ i &&& 2 ^ j = 0
  rw [Nat.two_pow_and, hbit, Bool.toNat_false, Nat.mul_zero]

/-- Different names have no bit in common. -/
theorem Sound.bits_disjoint (h : r.Sound) {a b : String} {x y : Nat} (hne : a ≠ b)
    (hx : r.bit? a = some x) (hy : r.bit? b = some y) : x &&& y = 0 := by
  obtain ⟨i, hi, rfl⟩ := h.bit?_eq_some_iff.1 hx
  obtain ⟨j, hj, rfl⟩ := h.bit?_eq_some_iff.1 hy
  refine twoTo_and_twoTo fun hij => hne ?_
  rw [hij, hj] at hi
  exact (Option.some.inj hi).symm

/-! ### Masks -/

theorem valueOf_eq_ok_iff : r.valueOf name = .ok bit ↔ r.bit? name = some bit := by
  rw [valueOf]
  cases r.bit? name <;> simp

/-- A mask fails exactly for a list with a name that is not registered. -/
theorem maskFor_fails_iff :
    (∃ f, r.maskFor wanted = .error f) ↔ ∃ name ∈ wanted, name ∉ r.names := by
  induction wanted with
  | nil => simp [maskFor]
  | cons name wanted ih =>
    rw [maskFor]
    by_cases hname : name ∈ r.names
    · obtain ⟨bit, hbit⟩ := Option.isSome_iff_exists.1 (isSome_bit?_iff.2 hname)
      rw [valueOf_eq_ok_iff.2 hbit]
      cases hmask : r.maskFor wanted with
      | error f => simp [hname, ← ih, hmask, Except.map]
      | ok mask => simp [hname, ← ih, hmask, Except.map]
    · have hunknown : r.valueOf name = .error (.unknown name) := by
        have hbit : r.bit? name = none := by
          simpa using isSome_bit?_iff.not.2 hname
        rw [valueOf, hbit]
      rw [hunknown]
      simp [hname]

/-- The mask has the bits of the names that are wanted, and no others. -/
theorem Sound.testBit_maskFor (h : r.Sound) (hmask : r.maskFor wanted = .ok mask) (i : Nat) :
    mask.testBit i = true ↔ ∃ name ∈ wanted, r.names[i]? = some name := by
  induction wanted generalizing mask with
  | nil => cases hmask; simp
  | cons name wanted ih =>
    rw [maskFor] at hmask
    split at hmask
    · cases hmask
    · rename_i bit hbit
      obtain ⟨rest, hrest, rfl⟩ := map_eq_ok.1 hmask
      obtain ⟨j, hj, rfl⟩ := h.bit?_eq_some_iff.1 (valueOf_eq_ok_iff.1 hbit)
      have hbits : (twoTo j ||| rest).testBit i = (decide (j = i) || rest.testBit i) := by
        rw [Nat.testBit_or]
        exact congrArg (· || _) Nat.testBit_two_pow
      rw [hbits, Bool.or_eq_true, decide_eq_true_eq, ih hrest]
      simp only [List.mem_cons, exists_eq_or_imp]
      refine or_congr ⟨fun hij => hij ▸ hj, fun hi => ?_⟩ Iff.rfl
      -- the name stands once, so it has no other place
      have hlt := (List.getElem?_eq_some_iff.1 hj).1
      exact (List.getElem?_inj hlt h.once).1 (hj.trans hi.symm)

theorem Sound.maskFor_lt (h : r.Sound) (hmask : r.maskFor wanted = .ok mask) :
    mask < 2 ^ r.entries.length := by
  refine Nat.lt_pow_two_of_testBit mask fun i hi => ?_
  rw [← Bool.not_eq_true, h.testBit_maskFor hmask]
  rintro ⟨name, -, hname⟩
  have hlt := (List.getElem?_eq_some_iff.1 hname).1
  rw [names, List.length_map] at hlt
  omega

/-- A mask is one that a user can have, and it fits into its column. -/
theorem Sound.maskFor_fits (h : r.Sound) (hmask : r.maskFor wanted = .ok mask) :
    Check.permissions (.whole mask) = .ok () ∧ Store.bindWhole mask = .ok mask := by
  have hlt := h.maskFor_lt hmask
  have hlast : 2 ^ r.entries.length ≤ 2 ^ 63 := Nat.pow_le_pow_right (by decide) h.few
  have hmax : Check.permissionsMax = 2 ^ 63 - 1 := rfl
  constructor
  · rw [Check.permissions_whole]
    omega
  · rw [Store.bindWhole, if_pos]
    simp only [Bool.and_eq_true, decide_eq_true_eq]
    omega

/-! ### The main statement -/

/-- Whatever calls a registry has seen, its names own the powers of two in order, at most sixty-three of
them and `Admin` first; each is stripped and stands once. A bit that was given out stays. A name is
registered exactly if its stripped form can be added, as the last one and with the next power of two;
asked for, a known name is given its bit and any other is registered; and a call that fails changes
nothing. So different names have no bit in common, a list of registered names has a mask that a user can
have, and only a list with another name has none. -/
theorem registry_orderly (r : Registry) (h : r.Reached) :
    r.Sound ∧
    (∀ calls name bit, r.bit? name = some bit → (r.run calls).bit? name = some bit) ∧
    (∀ name bit r', r.register name = .ok (bit, r') ↔ r.Admits (stripString name) ∧
      bit = twoTo r.entries.length ∧ r' = r.extended (stripString name)) ∧
    (∀ name bit r', r.ensure name = .ok (bit, r') ↔ r.bit? name = some bit ∧ r' = r ∨
      r.bit? name = none ∧ r.register name = .ok (bit, r')) ∧
    (∀ c f, c.outcome r = .error f → r.after c = r) ∧
    (∀ a b x y, a ≠ b → r.bit? a = some x → r.bit? b = some y → x &&& y = 0) ∧
    ∀ wanted,
      ((∀ name ∈ wanted, name ∈ r.names) → ∃ mask : Nat, r.maskFor wanted = .ok mask ∧
        Check.permissions (.whole mask) = .ok () ∧ Store.bindWhole mask = .ok (mask : Int)) ∧
      ((∃ f, r.maskFor wanted = .error f) ↔ ∃ name ∈ wanted, name ∉ r.names) := by
  have hsound := h.sound
  refine ⟨hsound, fun calls name bit => bit?_of_begins (run_begins r calls),
    fun _ _ _ => register_eq_ok_iff, fun _ _ _ => ensure_eq_ok_iff, ?_, ?_,
    fun wanted => ⟨fun hwanted => ?_, maskFor_fails_iff⟩⟩
  · intro c f hfails
    rw [after, hfails]
  · exact fun a b x y hne hx hy => hsound.bits_disjoint hne hx hy
  · cases hmask : r.maskFor wanted with
    | error f =>
      obtain ⟨name, hname, hunknown⟩ := maskFor_fails_iff.1 ⟨f, hmask⟩
      exact absurd (hwanted name hname) hunknown
    | ok mask => exact ⟨mask, rfl, hsound.maskFor_fits hmask⟩

/-- A name with blanks around it, one that is known, one that is empty, and one that is known once its
blanks are gone. -/
def mixedCalls : List Call :=
  [.register " Editors ", .ensure "Admin", .register " ", .ensure "Editors "]

theorem registry_orderly_mixed :
    (initial.run mixedCalls).Reached ∧ (initial.run mixedCalls).Sound ∧
      (initial.run mixedCalls).names = ["Admin", "Editors"] ∧
      1 &&& 2 = 0 ∧
      (initial.run (mixedCalls ++ [.register "Authors"])).bit? "Editors" = some 2 ∧
      ∃ mask : Nat, (initial.run mixedCalls).maskFor ["Editors", "Admin"] = .ok mask ∧
        Check.permissions (.whole mask) = .ok () := by
  have hreached : (initial.run mixedCalls).Reached := ⟨mixedCalls, rfl⟩
  have hnames : (initial.run mixedCalls).names = ["Admin", "Editors"] := by decide +kernel
  have hadmin : (initial.run mixedCalls).bit? "Admin" = some 1 := by decide +kernel
  have heditors : (initial.run mixedCalls).bit? "Editors" = some 2 := by decide +kernel
  obtain ⟨hsound, hstays, -, -, -, hdisjoint, hmasks⟩ := registry_orderly _ hreached
  have hlater := hstays [.register "Authors"] "Editors" 2 heditors
  rw [run, run, ← List.foldl_append, ← run] at hlater
  obtain ⟨mask, hmask, hfits, -⟩ := (hmasks ["Editors", "Admin"]).1 (by rw [hnames]; decide)
  exact ⟨hreached, hsound, hnames, hdisjoint "Admin" "Editors" 1 2 (by decide) hadmin heditors, hlater,
    mask, hmask, hfits⟩

end Registry

end Pressroom
