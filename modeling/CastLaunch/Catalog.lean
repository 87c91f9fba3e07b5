import CastLaunch.Config
import CastLaunch.Settings.Sections

/-!
Collaborators by path.  A path names a module and, behind a colon, something in it;
what it leads to has to be callable.  A `Catalog` is the set of modules that can be
reached.

To import a module of the catalog always works, and a name is in a member or is not.
Modules that fail in another way while they are imported, and members that fail in
another way when they are asked for a name, have no place in a catalog.
-/

namespace CastLaunch
open CastLaunch.Text

/-- Something in a module: its name, whether it can be called, and what is inside it. -/
inductive Member where
  | mk (name : String) (isCallable : Bool) (members : List Member)

namespace Member

def name : Member → String
  | mk name _ _ => name

def isCallable : Member → Bool
  | mk _ isCallable _ => isCallable

def members : Member → List Member
  | mk _ _ members => members

def leaf (name : String) (isCallable : Bool) : Member := mk name isCallable []

end Member

structure Module where
  name : String
  /-- Whether other modules may lie below it. -/
  isPackage : Bool
  members : List Member

structure Catalog where
  modules : List Module

inductive ImportError where
  | missing (name : String)
  | notPackage (name parent : String)
  deriving DecidableEq, Repr

def ImportError.message : ImportError → String
  | .missing name => "No module named " ++ quoted name
  | .notPackage name parent =>
    "No module named " ++ quoted name ++ "; " ++ quoted parent ++ " is not a package"

inductive Role where
  | engine
  | discovery
  | video
  | audio
  deriving DecidableEq, Repr

inductive FactoryError where
  | notConfigured (role : Role)
  | malformedPath (path : String)
  | cannotImport (name : String) (e : ImportError)
  | noAttribute (name chain : String)
  | notCallable (path : String)
  /-- A module name that begins with a dot. -/
  | relative (name : String)
  | shape (e : ShapeError)
  deriving DecidableEq, Repr

def FactoryError.message : FactoryError → String
  | .notConfigured .engine => "No protocol engine configured (set collaborators.engine)"
  | .notConfigured .discovery => "No discovery registrar configured (set collaborators.discovery)"
  | .notConfigured .video =>
    "No video renderer configured (set collaborators.video_renderer or use -vs 0)"
  | .notConfigured .audio => "No audio renderer configured (set collaborators.audio_renderer or use -a)"
  | .malformedPath path => "Collaborator path '" ++ path ++ "' must look like 'package.module:factory'"
  | .cannotImport name e => "Cannot import collaborator module '" ++ name ++ "': " ++ e.message
  | .noAttribute name chain => "Module '" ++ name ++ "' has no attribute '" ++ chain ++ "'"
  | .notCallable path => "Collaborator '" ++ path ++ "' is not callable"
  | .relative name =>
    "the 'package' argument is required to perform a relative import for " ++ quoted name
  | .shape e => e.message

/-- Whether a failure is one of the configuration, and not of a value that is no path at all. -/
def FactoryError.isConfiguration : FactoryError → Bool
  | .relative _ | .shape _ => false
  | _ => true

structure Factory where
  moduleName : String
  names : List String
  deriving DecidableEq, Repr

def Factory.label (f : Factory) : String := f.moduleName ++ ":" ++ String.intercalate "." f.names

namespace Catalog

def find? (c : Catalog) (name : String) : Option Module := c.modules.find? fun m => m.name == name

/-- The first part of a dotted name that cannot be reached, with `parent` in front of `parts`. -/
def firstMissing (c : Catalog) (parent : Option (Module × List Char)) : List (List Char) → Option ImportError
  | [] => none
  | part :: rest =>
    let name := match parent with
      | none => part
      | some (_, front) => front ++ '.' :: part
    match c.find? (String.ofList name), parent with
    | some m, _ => c.firstMissing (some (m, name)) rest
    | none, some (m, front) =>
      if m.isPackage then some (.missing (String.ofList name))
      else some (.notPackage (String.ofList name) (String.ofList front))
    | none, none => some (.missing (String.ofList name))

def load (c : Catalog) (name : String) : Except ImportError Module :=
  match c.find? name with
  | some m => .ok m
  | none => .error ((c.firstMissing none (name.toList.splitOn '.')).getD (.missing name))

def descend (members : List Member) : List String → Option Member
  | [] => none
  | [name] => members.find? fun m => m.name == name
  | name :: rest => (members.find? fun m => m.name == name).bind fun m => descend m.members rest

def splitPath (path : String) : String × String :=
  let s := path.toList
  (String.ofList (s.takeWhile (· != ':')), String.ofList ((s.dropWhile (· != ':')).drop 1))

def resolve (c : Catalog) (path : String) : Except FactoryError Factory :=
  let (name, chain) := splitPath path
  if name = "" ∨ chain = "" then .error (.malformedPath path)
  else if name.toList.head? = some '.' then .error (.relative name)
  else
    match c.load name with
    | .error e => .error (.cannotImport name e)
    | .ok m =>
      let names := (chain.toList.splitOn '.').map String.ofList
      match descend m.members names with
      | none => .error (.noAttribute name chain)
      | some target => if target.isCallable then .ok ⟨name, names⟩ else .error (.notCallable path)

/-- What a setting leads to; only texts are paths. -/
def resolveValue (c : Catalog) : Value → Except FactoryError Factory
  | .text path => c.resolve path
  | v => .error (.shape (.noPart v.typeName "partition"))

/-- What a renderer's setting leads to, when the renderer is needed. -/
def resolveRenderer (c : Catalog) (needed : Bool) (role : Role) (path : Value) :
    Except FactoryError (Option Factory) :=
  if needed then
    if path.given then (c.resolveValue path).map some else .error (.notConfigured role)
  else .ok none

end Catalog

end CastLaunch
