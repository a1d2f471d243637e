import Pressroom.Text.Quoted
import Pressroom.Number.Shortest

/-!
JSON values. Whole numbers and floating-point numbers are kept apart, texts may hold lone halves,
and the members of an object stay in the order in which their names first came.
-/
namespace Pressroom

inductive Json where
  | null
  | bool (b : Bool)
  | whole (n : Int)
  | real (x : Binary)
  | text (t : Text)
  | list (xs : List Json)
  | object (members : List (Text × Json))

namespace Json

/-- A text given as a string. -/
def string (s : String) : Json := text (Text.ofString s)

/-- An object whose member names are given as strings. -/
def ofFields (fields : List (String × Json)) : Json :=
  object (fields.map fun f => (Text.ofString f.1, f.2))

/-- Sets a member: in its old place if the name is there, else at the end. -/
def setMember (name : Text) (v : Json) : List (Text × Json) → List (Text × Json)
  | [] => [(name, v)]
  | (k, w) :: rest => if k = name then (k, v) :: rest else (k, w) :: setMember name v rest

/-- The members that remain when names repeat: each name once, with its last value. -/
def settle (members : List (Text × Json)) : List (Text × Json) :=
  members.foldl (fun kept m => setMember m.1 m.2 kept) []

/-- The member with this name, if the value is an object that has it. -/
def get? (v : Json) (name : String) : Option Json :=
  match v with
  | object members => members.lookup (Text.ofString name)
  | _ => none

/-- The member with this name; a missing member reads as null. -/
def getD (v : Json) (name : String) : Json := (v.get? name).getD null

/-- The names of the members, in order. -/
def names : Json → List Text
  | object members => members.map fun m => m.1
  | _ => []

def isObject : Json → Bool
  | object _ => true
  | _ => false

def isNull : Json → Bool
  | null => true
  | _ => false

/-- Null, false, zero and everything empty count as false. -/
def truthy : Json → Bool
  | null => false
  | bool b => b
  | whole n => n != 0
  | real x => !x.isZero
  | text t => !t.isEmpty
  | list xs => !xs.isEmpty
  | object members => !members.isEmpty

/-- The number a value counts as when numbers are compared; true is one and false zero. -/
inductive Amount where
  | whole (n : Int)
  | real (x : Binary)

def amount? : Json → Option Amount
  | bool b => some (.whole (if b then 1 else 0))
  | whole n => some (.whole n)
  | real x => some (.real x)
  | _ => none

def Amount.same : Amount → Amount → Bool
  | .whole m, .whole n => m == n
  | .whole m, .real x => x.compareWhole? m == some .eq
  | .real x, .whole n => x.compareWhole? n == some .eq
  | .real x, .real y => x.sameValue y

mutual

/-- Equality of values: numbers by amount, objects whatever the order of their members. -/
def same : Json → Json → Bool
  | null, null => true
  | text s, text t => s == t
  | list xs, list ys => sameList xs ys
  | object ms, object ns => ms.length == ns.length && sameMembers ms ns
  | a, b =>
    match a.amount?, b.amount? with
    | some m, some n => m.same n
    | _, _ => false

/-- Equality item by item. -/
def sameList : List Json → List Json → Bool
  | [], [] => true
  | x :: xs, y :: ys => same x y && sameList xs ys
  | _, _ => false

/-- Every member of the first list stands in the second. -/
def sameMembers : List (Text × Json) → List (Text × Json) → Bool
  | [], _ => true
  | (k, v) :: rest, other =>
    (match other.lookup k with
      | some w => same v w
      | none => false) && sameMembers rest other

end

mutual

/-- A value written out with its texts in quotes. -/
def quoted : Json → Text
  | null => Text.ofString "None"
  | bool b => Text.ofString (if b then "True" else "False")
  | whole n => Text.ofString (toString n)
  | real x => Text.ofString x.render
  | text t => t.quoted
  | list xs => .char '[' :: quotedItems xs ++ [.char ']']
  | object ms => .char '\x7b' :: quotedMembers ms ++ [.char '\x7d']

def quotedItems : List Json → Text
  | [] => []
  | [x] => quoted x
  | x :: xs => quoted x ++ Text.ofString ", " ++ quotedItems xs

def quotedMembers : List (Text × Json) → Text
  | [] => []
  | [(k, v)] => k.quoted ++ Text.ofString ": " ++ quoted v
  | (k, v) :: ms => k.quoted ++ Text.ofString ": " ++ quoted v ++ Text.ofString ", " ++ quotedMembers ms

end

/-- A value as text: a text stands for itself, everything else is written out. -/
def display : Json → Text
  | text t => t
  | v => v.quoted

end Json

end Pressroom
