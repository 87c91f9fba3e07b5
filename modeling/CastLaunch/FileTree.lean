import CastLaunch.Text.Numeral

/-!
Files as the launcher sees them.  A `FileName` is a path as it was written,
without the parts that say nothing; a `FileTree` holds files and directories under
their full paths and finds what a name leads to.
-/

namespace CastLaunch

/-- A written path: the slashes in front and the names after them. -/
structure FileName where
  root : String
  parts : List String
  deriving DecidableEq, Repr

namespace FileName

/-- Reads a path; repeated slashes and single dots are dropped, and two leading slashes are kept apart. -/
def ofText (s : String) : FileName where
  root :=
    match s.toList with
    | '/' :: '/' :: '/' :: _ => "/"
    | '/' :: '/' :: _ => "//"
    | '/' :: _ => "/"
    | _ => ""
  parts := ((s.toList.splitOn '/').map String.ofList).filter fun p => p != "" && p != "."

def text (n : FileName) : String :=
  if n.root = "" ∧ n.parts = [] then "." else n.root ++ String.intercalate "/" n.parts

def isAbsolute (n : FileName) : Bool := n.root != ""

/-- The full path of a name.  A double dot takes the name in front of it back, whether that one is there or not. -/
def fullPath (here : List String) (n : FileName) : List String :=
  n.parts.foldl (fun path part => if part = ".." then path.dropLast else path ++ [part])
    (if n.isAbsolute then [] else here)

/-- The name with a leading tilde replaced by the home directory of the user named behind it; none for
an unknown user. -/
def expandHome (homes : List (String × String)) (n : FileName) : Option FileName :=
  match n.parts with
  | first :: rest =>
    match n.root, first.toList with
    | "", '~' :: user =>
      (homes.lookup (String.ofList user)).map fun home =>
        let h := ofText home
        { h with parts := h.parts ++ rest }
    | _, _ => some n
  | [] => some n

end FileName

inductive FileEntry where
  | file (bytes : List UInt8)
  | directory
  deriving DecidableEq, Repr

/-- Files and directories by their full paths, of which later ones replace earlier ones. -/
structure FileTree where
  entries : List (List String × FileEntry) := []
  /-- Where names without a leading slash start. -/
  here : List String := []
  deriving Repr

namespace FileTree

/-- What stands at a full path.  A directory is also whatever something lies below. -/
def at? (t : FileTree) (path : List String) : Option FileEntry :=
  match (t.entries.reverse.find? fun e => e.1 = path).map (·.2) with
  | some e => some e
  | none =>
    if path = [] ∨ path.isPrefixOf t.here ∨ t.entries.any fun e => path.isPrefixOf e.1 then some .directory
    else none

inductive Fault where
  | missing
  | notDirectory
  deriving DecidableEq, Repr

/-- Follows the names from a full path on; empty names and single dots stay where they are, but only in a
directory. -/
def follow (t : FileTree) (path : List String) : List String → Except Fault (List String)
  | [] => .ok path
  | part :: rest =>
    match t.at? path with
    | none => .error .missing
    | some (.file _) => .error .notDirectory
    | some .directory =>
      t.follow
        (if part = "" ∨ part = "." then path else if part = ".." then path.dropLast else path ++ [part])
        rest

def locate (t : FileTree) (isAbsolute : Bool) (names : List String) : Except Fault (List String × FileEntry) := do
  let path ← t.follow (if isAbsolute then [] else t.here) names
  match t.at? path with
  | some e => return (path, e)
  | none => throw .missing

def find (t : FileTree) (n : FileName) : Except Fault (List String × FileEntry) := t.locate n.isAbsolute n.parts

/-- What stands where the text of a path leads to.  A slash behind a name asks for a directory, which it does
not in a `FileName`. -/
def entryAt (t : FileTree) (path : String) : Except Fault FileEntry :=
  let names := (path.toList.splitOn '/').map String.ofList
  (t.locate (names.length != 1 && names.head? == some "") names).map (·.2)

def file? (t : FileTree) (n : FileName) : Option FileName :=
  match t.find n with
  | .ok (path, .file _) => some ⟨"/", path⟩
  | _ => none

end FileTree

end CastLaunch
