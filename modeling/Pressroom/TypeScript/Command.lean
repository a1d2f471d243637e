import Pressroom.TypeScript.Interface
import Pressroom.TypeScript.Folder
import Pressroom.Text.Digit

/-!
The command that writes the interfaces to a file or prints them. Options may be shortened as long
as they stay unambiguous, and the value of an option may follow an equals sign.
-/
namespace Pressroom

namespace TypeScript

/-- What the options ask for. -/
inductive Switch where
  | help
  | output
  | print
  deriving DecidableEq

/-- The spellings of the options. -/
def spellings : List (String × Switch) :=
  [("-h", .help), ("--help", .help), ("--output", .output), ("--stdout", .print)]

/-- What a single argument is. `given` is the value written together with an option. -/
inductive Piece where
  | word (w : String)
  | switch (s : Switch) (short : Bool) (given : Option (List Char))
  | unknown

/-- Why the arguments are refused. -/
inductive UsageFault where
  | ambiguous
  | valueMissing
  | valueIgnored
  | notRecognised
  deriving DecidableEq

/-- What the arguments order. -/
inductive Order where
  | help
  | print
  | write (path : String)
  deriving DecidableEq

def defaultPath : String := "cms.types.ts"

/-- The text before the first equals sign, and the text behind it if there is one. -/
def cutAtEquals (cs : List Char) : List Char × Option (List Char) :=
  match cs.dropWhile (· != '=') with
  | [] => (cs, none)
  | _ :: rest => (cs.takeWhile (· != '='), some rest)

def isDigit (c : Char) : Bool := (decimalValue? c.toNat).isSome

/-- A minus sign, digits, and perhaps a point with more digits behind it. -/
def isNegativeNumber (cs : List Char) : Bool :=
  match cs with
  | '-' :: rest =>
    let rest := if rest.getLast? == some '\n' then rest.dropLast else rest
    match rest.dropWhile isDigit with
    | [] => !rest.isEmpty
    | '.' :: fraction => !fraction.isEmpty && fraction.all isDigit
    | _ => false
  | _ => false

/-- An argument that begins with a minus sign and is no option. -/
def classifyOther (arg : String) : Piece :=
  if isNegativeNumber arg.toList || arg.toList.contains ' ' then .word arg else .unknown

/-- What an argument before a lone double dash is. -/
def classify (arg : String) : Except UsageFault Piece :=
  let cs := arg.toList
  if cs.head? != some '-' || cs == ['-'] then .ok (.word arg)
  else
    let (name, given) := cutAtEquals cs
    match spellings.lookup arg, spellings.lookup (String.ofList name) with
    | some s, _ => .ok (.switch s (cs.length == 2) none)
    | none, some s => .ok (.switch s (name.length == 2) given)
    | none, none =>
      if cs.take 2 == ['-', '-'] then
        match spellings.filter fun p => name.isPrefixOf p.1.toList with
        | [] => .ok (classifyOther arg)
        | [p] => .ok (.switch p.2 false given)
        | _ => .error .ambiguous
      else
        match spellings.lookup (String.ofList (cs.take 2)) with
        | some s => .ok (.switch s true (some (cs.drop 2)))
        | none => .ok (classifyOther arg)

/-- Classifies the arguments. A lone double dash and everything behind it are no options. -/
def classifyAll : List String → Except UsageFault (List Piece)
  | [] => .ok []
  | arg :: rest =>
    if arg = "--" then .ok (.unknown :: rest.map .word)
    else
      match classify arg with
      | .error f => .error f
      | .ok p => (classifyAll rest).map (p :: ·)

/-- Reads the order off the classified arguments, from left to right. Arguments that belong to no
option are refused at the end only. -/
def orderOf (path : String) (print stray : Bool) : List Piece → Except UsageFault Order
  | [] =>
    if stray then .error .notRecognised
    else if print then .ok .print else .ok (.write path)
  | .switch .help short given :: _ =>
    match given with
    | none => .ok .help
    | some cs =>
      if short && !cs.isEmpty && cs.all (· == 'h') then .ok .help else .error .valueIgnored
  | .switch .print _ given :: rest =>
    if given.isSome then .error .valueIgnored else orderOf path true stray rest
  | .switch .output _ (some cs) :: rest => orderOf (String.ofList cs) print stray rest
  | .switch .output _ none :: .word w :: rest => orderOf w print stray rest
  | .switch .output _ none :: _ => .error .valueMissing
  | .word _ :: rest => orderOf path print true rest
  | .unknown :: rest => orderOf path print true rest

/-- The order that a list of arguments gives. -/
def readOrder (args : List String) : Except UsageFault Order :=
  match classifyAll args with
  | .error f => .error f
  | .ok pieces => orderOf defaultPath false false pieces

def helpText : String :=
  "usage: generate_types.py [-h] [--output OUTPUT] [--stdout]\n\n" ++
  "Generate TypeScript types for Chukfi records\n\n" ++
  "options:\n" ++
  "  -h, --help       show this help message and exit\n" ++
  "  --output OUTPUT  Destination .ts file\n" ++
  "  --stdout         Print instead of writing a file\n"

/-- What a run of the command shows. -/
structure Outcome where
  code : Nat
  printed : String
  deriving DecidableEq

/-- Runs the command in a folder: 0 when it did what was ordered, 1 when the file cannot be
written, 2 when the arguments are refused. -/
def run (d : Folder) (args : List String) : Folder × Outcome :=
  match readOrder args with
  | .error _ => (d, ⟨2, ""⟩)
  | .ok .help => (d, ⟨0, helpText⟩)
  | .ok .print => (d, ⟨0, wholeModule⟩)
  | .ok (.write path) =>
    match d.write path wholeModule with
    | (d, true) => (d, ⟨0, ""⟩)
    | (d, false) => (d, ⟨1, ""⟩)

/-- Runs the command several times in one folder, one after the other. -/
def runAll (d : Folder) : List (List String) → Folder × List Outcome
  | [] => (d, [])
  | args :: rest =>
    let (d, outcome) := run d args
    let (d, outcomes) := runAll d rest
    (d, outcome :: outcomes)

end TypeScript

end Pressroom
