import Pressroom.Proofs.Permission.Registry

/-!
Asking a registry again for a name. `ensure` looks a name up as it is given, and what it registers is the
stripped name; so a name without blanks around it keeps its bit however often it is asked for, and one
with blanks gets a bit the first time and is refused every time after.
-/
namespace Pressroom

namespace Registry

variable {r r' : Registry} {name : String} {bit : Nat}

/-! ### Names that are known and names that are not -/

/-- A registry takes a name for one that has this bit, and gives the bit again without changing. -/
structure Accepts (r : Registry) (name : String) (bit : Nat) : Prop where
  ensured : r.ensure name = .ok (bit, r)
  value : r.valueOf name = .ok bit
  granted : ∀ m, r.has m name = .ok (carries m adminBit || carries m bit)

/-- A registry refuses a name, since only the stripped name is known. -/
structure Refuses (r : Registry) (name : String) : Prop where
  ensured : r.ensure name = .error (.alreadyRegistered (stripString name))
  value : r.valueOf name = .error (.unknown name)
  granted : ∀ m, r.has m name = if carries m adminBit then .ok true else .error (.unknown name)

theorem accepts_of_bit? (h : r.bit? name = some bit) : r.Accepts name bit where
  ensured := by rw [ensure, h]
  value := valueOf_eq_ok_iff.2 h
  granted := by
    intro m
    rw [has, valueOf_eq_ok_iff.2 h]
    cases carries m adminBit <;> rfl

theorem Accepts.bit? (h : r.Accepts name bit) : r.bit? name = some bit := valueOf_eq_ok_iff.1 h.value

/-- In a registry every known name is stripped, so one with blanks around it is not known. -/
theorem Sound.stripped_of_bit? (hs : r.Sound) (h : r.bit? name = some bit) :
    stripString name = name :=
  (hs.stripped name (isSome_bit?_iff.1 (Option.isSome_iff_exists.2 ⟨bit, h⟩))).2

theorem Sound.refuses (hs : r.Sound) (hname : stripString name ≠ name)
    (h : r.bit? (stripString name) = some bit) : r.Refuses name := by
  have hunknown : r.bit? name = none :=
    Option.eq_none_iff_forall_not_mem.2 fun _ hbit => hname (hs.stripped_of_bit? hbit)
  have hvalue : r.valueOf name = .error (.unknown name) := by rw [valueOf, hunknown]
  have hmem : stripString name ∈ r.names :=
    isSome_bit?_iff.1 (Option.isSome_iff_exists.2 ⟨bit, h⟩)
  refine ⟨?_, hvalue, fun m => ?_⟩
  · rw [ensure, hunknown]
    dsimp only
    rw [register]
    dsimp only
    rw [if_neg (hs.stripped _ hmem).1, if_pos (isSome_bit?_iff.2 hmem)]
  · rw [has, hvalue]
    rfl

/-! ### A name that was asked for -/

/-- The bit that is given for a name is that of the stripped name. -/
theorem Sound.bit?_of_ensure (hs : r.Sound) (h : r.ensure name = .ok (bit, r')) :
    r'.bit? (stripString name) = some bit := by
  obtain ⟨hbit, rfl⟩ | ⟨-, hregister⟩ := ensure_eq_ok_iff.1 h
  · rwa [hs.stripped_of_bit? hbit]
  · obtain ⟨ha, rfl, rfl⟩ := register_eq_ok_iff.1 hregister
    have hnew : r.bit? (stripString name) = none := by
      simpa using isSome_bit?_iff.not.2 ha.new
    rw [bit?] at hnew
    rw [bit?, Registry.extended, List.lookup_append, hnew, Option.none_or, List.lookup_cons,
      beq_self_eq_true]

/-- The registry that a call makes is the one after it. -/
theorem after_of_ensure (h : r.ensure name = .ok (bit, r')) : r.after (.ensure name) = r' := by
  rw [after, Call.outcome, h]

/-- After a name was given a bit, and whatever was asked for since, its stripped form has this bit and
keeps it. The name as it was given does so exactly if there are no blanks around it; else it is
refused, by all but the masks that carry `Admin`. -/
theorem ensured_again_iff (h : r.Reached) (hensured : r.ensure name = .ok (bit, r'))
    (calls : List Call) :
    (r'.run calls).Accepts (stripString name) bit ∧
    ((r'.run calls).Accepts name bit ↔ stripString name = name) ∧
    (stripString name ≠ name → (r'.run calls).Refuses name) := by
  have hsound : r'.Sound := after_of_ensure hensured ▸ h.sound.after (.ensure name)
  have hlater := hsound.run calls
  have hbit : (r'.run calls).bit? (stripString name) = some bit :=
    bit?_of_begins (run_begins r' calls) (h.sound.bit?_of_ensure hensured)
  refine ⟨accepts_of_bit? hbit, ⟨fun haccepts => hlater.stripped_of_bit? haccepts.bit?, fun hname => ?_⟩,
    fun hname => hlater.refuses hname hbit⟩
  rw [hname] at hbit
  exact accepts_of_bit? hbit

/-- A name without blanks is given its bit again after other names were registered, and one with
blanks is not. -/
theorem ensured_again_iff_editors :
    ∃ r', initial.ensure "Editors" = .ok (2, r') ∧
      (r'.run mixedCalls).Accepts "Editors" 2 ∧
      ∃ r'', initial.ensure " Editors " = .ok (2, r'') ∧ (r''.run mixedCalls).Refuses " Editors " := by
  have hstripped : stripString "Editors" = "Editors" := by decide +kernel
  have hpadded : stripString " Editors " ≠ " Editors " := by decide +kernel
  obtain ⟨r', hplain⟩ : ∃ r', initial.ensure "Editors" = .ok (2, r') := ⟨_, rfl⟩
  obtain ⟨r'', hblanks⟩ : ∃ r'', initial.ensure " Editors " = .ok (2, r'') := ⟨_, rfl⟩
  exact ⟨r', hplain, (ensured_again_iff ⟨[], rfl⟩ hplain mixedCalls).2.1.2 hstripped,
    r'', hblanks, (ensured_again_iff ⟨[], rfl⟩ hblanks mixedCalls).2.2 hpadded⟩

/-- A name with blanks is given a bit and refused at once. -/
theorem padded_name_refused :
    ∃ r', initial.ensure " Editors " = .ok (2, r') ∧
      r'.ensure " Editors " = .error (.alreadyRegistered "Editors") ∧
      r'.valueOf " Editors " = .error (.unknown " Editors ") ∧
      r'.has 2 " Editors " = .error (.unknown " Editors ") :=
  ⟨_, rfl, rfl, rfl, rfl⟩

end Registry

end Pressroom
