import Pressroom.Text.Blank
import Pressroom.Number.Power

/-!
Named permissions. Each name owns one bit of a mask: the first name is `Admin` with bit 1, and each
new name takes the next bit, up to sixty-three names. `Admin` in a mask grants everything.
-/
namespace Pressroom

/-- The names and their bits, in the order of registration. -/
structure Registry where
  entries : List (String × Nat)

namespace Registry

def adminName : String := "Admin"
def adminBit : Nat := 1
def maxNames : Nat := 63

/-- A registry that knows `Admin` alone. -/
def initial : Registry := ⟨[(adminName, adminBit)]⟩

inductive Fault where
  | nameRequired
  | alreadyRegistered (name : String)
  | full (name : String)
  | unknown (name : String)
  deriving DecidableEq

def Fault.message : Fault → String
  | nameRequired => "Permission name is required"
  | alreadyRegistered name => s!"Permission {name} is already registered"
  | full name => s!"Cannot register {name}: all {maxNames} permission bits are in use"
  | unknown name => s!"Unknown permission: {name}"

/-- The bit of a name, if it is registered. -/
def bit? (r : Registry) (name : String) : Option Nat := r.entries.lookup name

/-- Gives the next free bit to a stripped name. -/
def register (r : Registry) (name : String) : Except Fault (Nat × Registry) :=
  let name := stripString name
  if name = "" then .error .nameRequired
  else if (r.bit? name).isSome then .error (.alreadyRegistered name)
  else if maxNames ≤ r.entries.length then .error (.full name)
  else
    let bit := twoTo r.entries.length
    .ok (bit, ⟨r.entries ++ [(name, bit)]⟩)

/-- The bit of a name, which is registered if it is not known yet. -/
def ensure (r : Registry) (name : String) : Except Fault (Nat × Registry) :=
  match r.bit? name with
  | some bit => .ok (bit, r)
  | none => r.register name

def valueOf (r : Registry) (name : String) : Except Fault Nat :=
  match r.bit? name with
  | some bit => .ok bit
  | none => .error (.unknown name)

/-- The mask that carries the bits of all the names. -/
def maskFor (r : Registry) : List String → Except Fault Nat
  | [] => .ok 0
  | name :: rest =>
    match r.valueOf name with
    | .error f => .error f
    | .ok bit => (r.maskFor rest).map (bit ||| ·)

/-- Whether a mask carries a bit. Negative masks carry all high bits. -/
def carries (mask : Int) (bit : Nat) : Bool := mask / (bit : Int) % 2 == 1

/-- Whether a mask grants a permission. -/
def has (r : Registry) (mask : Int) (name : String) : Except Fault Bool :=
  if carries mask adminBit then .ok true else (r.valueOf name).map (carries mask)

/-- The names whose bits a mask carries. -/
def namesFor (r : Registry) (mask : Int) : List String :=
  (r.entries.filter fun e => carries mask e.2).map (·.1)

/-- Registers several names, those already known left alone. -/
def ensureAll (r : Registry) (names : List String) : Registry :=
  names.foldl (fun r name =>
    match r.ensure name with
    | .ok (_, r) => r
    | .error _ => r) r

end Registry

end Pressroom
