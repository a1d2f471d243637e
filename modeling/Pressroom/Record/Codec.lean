import Pressroom.Record.Basic
import Pressroom.Json.Reader

/-!
Reading records from JSON. The fields are read in the order of their table and the first one that
is missing or has a value of the wrong kind is reported; members that belong to no field are
ignored, and null counts as absent.
-/
namespace Pressroom

namespace Record

/-- Why a value is no record. -/
inductive Fault where
  | notObject (kind : RecordKind)
  | missing (key : String)
  | notText (key : String)
  | notInteger (key : String)
  | notStamp (key : String)
  | notJson (kind : RecordKind) (report : String)

def Fault.message : Fault → String
  | notObject kind => s!"{kind.name} payload must be an object"
  | missing key => s!"Missing required field: {key}"
  | notText key => s!"{key} must be a string"
  | notInteger key => s!"{key} must be an integer"
  | notStamp key => s!"{key} must be an ISO-8601 timestamp"
  | notJson kind report => s!"Invalid JSON for {kind.name}: {report}"

/-- Reads one value of a kind. Truth values and floating-point numbers are no integers. -/
def decodeValue (kind : ValueKind) (key : String) (v : Json) : Except Fault Slot :=
  match kind with
  | .stamp =>
    match v with
    | .text t =>
      match Stamp.read t with
      | .ok s => .ok (.stamp s)
      | .error _ => .error (.notStamp key)
    | _ => .error (.notStamp key)
  | .integer =>
    match v with
    | .whole n => .ok (.value (.whole n))
    | _ => .error (.notInteger key)
  | .text =>
    match v with
    | .text t => .ok (.value (.text t))
    | _ => .error (.notText key)

/-- Reads one field from the value its key has; null if it has none. -/
def decodeField (f : Field) (v : Json) : Except Fault Slot :=
  if v.isNull then (if f.required then .error (.missing f.key) else .ok .absent)
  else decodeValue f.kind f.key v

/-- Reads the fields from an object, one after the other. -/
def decodeFields (data : Json) : List Field → Except Fault (List Slot)
  | [] => .ok []
  | f :: rest =>
    match decodeField f (data.getD f.key) with
    | .error e => .error e
    | .ok s => (decodeFields data rest).map (s :: ·)

/-- Reads a record from a value. -/
def decode (kind : RecordKind) (data : Json) : Except Fault Record :=
  if data.isObject then (decodeFields data kind.fields).map (⟨kind, ·⟩)
  else .error (.notObject kind)

/-- Reads a record from JSON text. -/
def decodeText (kind : RecordKind) (text : String) : Except Fault Record :=
  match Json.read text with
  | .error report => .error (.notJson kind report)
  | .ok data => decode kind data

/-! ### Records from named values -/

/-- Why a record cannot be put together. -/
inductive BuildFault where
  | stamp (fault : Stamp.Fault)
  | attributes
  | notStamp (column : String)

/-- The attributes that hold times. -/
def stampAttributes : List String := ["created_at", "updated_at", "deleted_at"]

/-- Reads the times that are given as texts, before anything else is looked at. -/
def readStamps (given : Json) : List String → Except BuildFault (List (String × Stamp))
  | [] => .ok []
  | a :: rest =>
    match given.getD a with
    | .text t =>
      match Stamp.read t with
      | .error f => .error (.stamp f)
      | .ok s => (readStamps given rest).map ((a, s) :: ·)
    | _ => readStamps given rest

/-- The slots of a record from values that are taken as they are. Only fields that hold times need
a value of their kind. -/
def buildSlots (given : Json) (stamps : List (String × Stamp)) :
    List Field → Except BuildFault (List Slot)
  | [] => .ok []
  | f :: rest =>
    match stamps.lookup f.column, given.getD f.column with
    | some s, _ => (buildSlots given stamps rest).map (.stamp s :: ·)
    | none, v =>
      if f.kind = .stamp && !v.isNull then .error (.notStamp f.column)
      else (buildSlots given stamps rest).map (.ofJson v :: ·)

/-- Puts a record together from values by column name. Every required column has to be named,
and no other names may occur. -/
def build (kind : RecordKind) (given : Json) : Except BuildFault Record :=
  match readStamps given stampAttributes with
  | .error f => .error f
  | .ok stamps =>
    let known := given.names.all fun n => kind.fields.any fun f => Text.ofString f.column == n
    let complete := kind.fields.all fun f => !f.required || (given.get? f.column).isSome
    if known && complete then (buildSlots given stamps kind.fields).map (⟨kind, ·⟩)
    else .error .attributes

end Record

end Pressroom
