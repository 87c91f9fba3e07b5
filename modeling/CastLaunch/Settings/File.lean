import CastLaunch.FileTree
import CastLaunch.Settings.Sections
import CastLaunch.Text.Lines
import CastLaunch.Text.Utf8
import CastLaunch.Yaml.Load

/-!
The settings file: where it is looked for, and how it becomes settings.  A name in
the environment wins and has to lead to a file; otherwise the first of three usual
places that holds a file counts, and without any the defaults do.
-/

namespace CastLaunch

/-- What a launch does with a file. -/
inductive FileUse where
  | look
  | read
  | write

structure Surroundings where
  files : FileTree := {}
  /-- Home directories by user; the empty name is the own user. -/
  homes : List (String × String) := []
  settingsName : Option String := none
  /-- What stands in front of the system-wide place. -/
  systemRoot : String := ""
  /-- What the host has against a use of the file at a path, whatever is there: a missing permission, a full
  device. -/
  refusal? : FileUse → String → Option String := fun _ _ => none

inductive FileError where
  | noHome
  | variableMissing (name : String)
  | missing (name : String)
  | directory (name : String)
  | notDirectory (name : String)
  /-- A path with a character that no path has. -/
  | nullCharacter
  | undecodable (f : Text.Utf8.Fault)
  | unloadable (e : Yaml.LoadError)
  | notTable (name : String)
  | settings (e : SettingsError)

open CastLaunch.Text in
def FileError.message : FileError → String
  | .noHome => "Could not determine home directory."
  | .variableMissing name => Limits.configVariable ++ " points to missing file " ++ name
  | .missing name => "[Errno 2] No such file or directory: " ++ quoted name
  | .directory name => "[Errno 21] Is a directory: " ++ quoted name
  | .notDirectory name => "[Errno 20] Not a directory: " ++ quoted name
  | .nullCharacter => "embedded null byte"
  | .undecodable f => f.message
  | .unloadable e => e.message
  | .notTable name => "Config file " ++ name ++ " must contain a YAML dictionary"
  | .settings e => e.message

namespace Settings

/-- The usual places of the file, in the order in which they are tried. -/
def places (s : Surroundings) : List String :=
  ["uxlaunch.yml", "~/.config/uxlaunch/config.yml", s.systemRoot ++ "/etc/uxlaunch/config.yml"]

def expanded (s : Surroundings) (name : String) : Except FileError FileName :=
  match (FileName.ofText name).expandHome s.homes with
  | none => .error .noHome
  | some n => .ok n

/-- Looks where a name leads to; none when that is no file. -/
def lookFor (s : Surroundings) (n : FileName) : Except FileError (Option FileName) :=
  match s.refusal? .look n.text with
  | some text => .error (.unloadable (.other text))
  | none => .ok (s.files.file? n)

def namedFile (s : Surroundings) (name : String) : Except FileError FileName := do
  let n ← expanded s name
  match ← lookFor s n with
  | some path => return path
  | none => throw (.variableMissing n.text)

def firstFile (s : Surroundings) : List String → Except FileError (Option FileName)
  | [] => .ok none
  | name :: rest => do
    match ← lookFor s (← expanded s name) with
    | some path => return some path
    | none => firstFile s rest

def findFile (s : Surroundings) : Except FileError (Option FileName) :=
  match s.settingsName with
  | none | some "" => firstFile s (places s)
  | some name => (namedFile s name).map some

/-- The bytes of the file at a path; the empty path leads nowhere. -/
def bytesOf (s : Surroundings) (path : String) : Except FileError (List UInt8) :=
  if path.contains '\x00' then .error .nullCharacter
  else if path = "" then .error (.missing path)
  else
    match s.refusal? .read path, s.files.entryAt path with
    | some text, _ => .error (.unloadable (.other text))
    | none, .ok (.file bytes) => .ok bytes
    | none, .ok .directory => .error (.directory path)
    | none, .error .missing => .error (.missing path)
    | none, .error .notDirectory => .error (.notDirectory path)

def ofValue (name : String) : Value → Except FileError Settings
  | .null => (ofEntries []).mapError .settings
  | .table entries => (ofEntries entries).mapError .settings
  | _ => .error (.notTable name)

def ofBytes (loader : Yaml.Loader) (name : String) (bytes : List UInt8) : Except FileError Settings := do
  let text ← (Text.Utf8.decode bytes).mapError fun f => .undecodable f.ofLastPiece
  ofValue name (← (loader (Text.unifyBreaks text)).mapError .unloadable)

def ofFileBy (loader : Yaml.Loader) (s : Surroundings) (name : String) : Except FileError Settings := do
  ofBytes loader name (← bytesOf s name)

/-- Settings from the file that counts, or the defaults. -/
def loadBy (loader : Yaml.Loader) (s : Surroundings) : Except FileError Settings := do
  match ← findFile s with
  | none => return {}
  | some path => ofFileBy loader s path.text

theorem loadBy_of_found {loader : Yaml.Loader} {s : Surroundings} {path : FileName} {bytes : List UInt8}
    {text : List Char} (found : findFile s = .ok (some path)) (holds : bytesOf s path.text = .ok bytes)
    (decoded : Text.Utf8.decode bytes = .ok text) :
    loadBy loader s = (loader (Text.unifyBreaks text)).mapError .unloadable >>= ofValue path.text := by
  rw [loadBy, found]
  show ofFileBy loader s path.text = _
  rw [ofFileBy, holds]
  show ofBytes loader path.text bytes = _
  rw [ofBytes, decoded]
  rfl

def ofFile : Surroundings → String → Except FileError Settings := ofFileBy Yaml.load

def load : Surroundings → Except FileError Settings := loadBy Yaml.load

end Settings

end CastLaunch
