import Pressroom.Text.CaseTable

/-!
Upper and lower case of whole strings, with the mappings that change the length, and the rule that
a capital sigma at the end of a word becomes the final small sigma.
-/
namespace Pressroom

/-- The code points that one code point maps to under a table. -/
def mapCase (expansions : List (Nat × List Nat)) (runs : List CaseRun) (n : Nat) : List Nat :=
  match expansions.lookup n with
  | some ns => ns
  | none =>
    match runs.find? (·.covers n) with
    | some r => [(n + r.shift).toNat]
    | none => [n]

/-- The first code point of the list that has or lacks a case, ignorable ones passed over, has it. -/
def caseComesNext (ns : List Nat) : Bool :=
  match ns.dropWhile (inRanges caseIgnorableRanges) with
  | [] => false
  | n :: _ => inRanges casedRanges n

/-- Lower case, code point by code point; `before` holds what came before, last one first. -/
def lowerCodes (before : List Nat) : List Nat → List Nat
  | [] => []
  | n :: rest =>
    let low :=
      if n = 0x3A3 then
        if caseComesNext before && !caseComesNext rest then [0x3C2] else [0x3C3]
      else mapCase lowerExpansions lowerRuns n
    low ++ lowerCodes (n :: before) rest

def codesOf (s : String) : List Nat := s.toList.map Char.toNat

def stringOfCodes (ns : List Nat) : String := String.ofList (ns.map Char.ofNat)

def upperCase (s : String) : String :=
  stringOfCodes ((codesOf s).flatMap (mapCase upperExpansions upperRuns))

def lowerCase (s : String) : String := stringOfCodes (lowerCodes [] (codesOf s))

end Pressroom
