import Pressroom.Text.Utf8

/-!
A folder of files that generated text is written into. Missing folders on the way to a file are
made first, and stay even if the file cannot be written then.
-/
namespace Pressroom

/-- The folders and files below one folder, each named by its way down from it. -/
structure Folder where
  folders : List (List String)
  files : List (List String × String)

namespace Folder

def empty : Folder := ⟨[], []⟩

/-- The longest name of a file or folder, in bytes. -/
def longestName : Nat := 255

def hasFolder (d : Folder) (way : List String) : Bool := way.isEmpty || d.folders.contains way

def hasFile (d : Folder) (way : List String) : Bool := d.files.any fun f => f.1 == way

/-- Whether something new can be given this name. -/
def nameable (name : String) : Bool :=
  name.utf8ByteSize ≤ longestName && !name.toList.contains '\x00'

/-- Goes down the named folders from `way` and makes the missing ones. Two dots lead back up; no
way leads out of the outermost folder or through a file. -/
def enter (d : Folder) (way : List String) : List String → Folder × Option (List String)
  | [] => (d, some way)
  | name :: rest =>
    if name = "" || name = "." then enter d way rest
    else if name = ".." then
      match way with
      | [] => (d, none)
      | _ :: _ => enter d way.dropLast rest
    else
      let next := way ++ [name]
      if d.hasFolder next then enter d next rest
      else if d.hasFile next || !nameable name then (d, none)
      else enter { d with folders := d.folders ++ [next] } next rest

/-- Puts a file into a folder, in place of an older one. -/
def put (d : Folder) (way : List String) (content : String) : Folder :=
  { d with files := d.files.filter (fun f => f.1 != way) ++ [(way, content)] }

/-- Writes a file at a path whose names are separated by slashes, and says whether it could. -/
def write (d : Folder) (path content : String) : Folder × Bool :=
  let names := path.splitOn "/"
  let last := names.getLastD ""
  if path.startsWith "/" then (d, false)
  else
    match d.enter [] names.dropLast with
    | (d, none) => (d, false)
    | (d, some way) =>
      if last = "" || last = "." || last = ".." || !nameable last then (d, false)
      else if d.hasFolder (way ++ [last]) then (d, false)
      else (d.put (way ++ [last]) content, true)

/-- The files by their paths. -/
def listing (d : Folder) : List (String × String) :=
  d.files.map fun f => ("/".intercalate f.1, f.2)

end Folder

end Pressroom
