import Pressroom.Record.Basic

/-!
TypeScript interfaces for the records: one member for each field, in order, with the type of the
field's values, and a question mark behind the name of a field that may be absent.
-/
namespace Pressroom

namespace TypeScript

/-- The line a generated file begins with. -/
def header : String := "// Code generated by scripts/generate_types.py. DO NOT EDIT.\n"

/-- The type a kind of value has in JSON. -/
def baseType : ValueKind → String
  | .text => "string"
  | .integer => "number"
  | .stamp => "string"

/-- The type shown for a field. -/
def memberType (f : Field) : String := f.memberType.getD (baseType f.kind)

/-- The name an interface is published under. -/
def interfaceName : RecordKind → String
  | .apiKey => "APIKeys"
  | .post => "Post"
  | .user => "User"

/-- One member of an interface. -/
structure Member where
  name : String
  required : Bool
  type : String

/-- The members of the interface of a kind, in order. -/
def members (kind : RecordKind) : List Member :=
  kind.fields.map fun f => ⟨f.key, f.required, memberType f⟩

def renderMember (m : Member) : String :=
  "  " ++ m.name ++ (if m.required then "" else "?") ++ ": " ++ m.type ++ ";\n"

/-- The interface of a kind under a name; an empty name stands for the published one. -/
def renderInterface (kind : RecordKind) (name : String) : String :=
  let name := if name = "" then interfaceName kind else name
  "export interface " ++ name ++ " \x7b\n" ++ String.join ((members kind).map renderMember)
    ++ "\x7d\n"

/-- A file with the interfaces of several kinds, an empty line between two. -/
def renderModule (kinds : List RecordKind) : String :=
  header ++ "\n" ++ "\n".intercalate (kinds.map fun kind => renderInterface kind "")

/-- The file with the interfaces of all kinds. -/
def wholeModule : String := renderModule [.apiKey, .post, .user]

end TypeScript

end Pressroom
