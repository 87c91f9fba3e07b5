import CastLaunch.Logging.Setup
import CastLaunch.Settings.File

/-!
The log file.  Setting logging up opens it at once, before the template and the level
are looked at, so a file that cannot be opened ends the launch.  It is opened for lines
behind its end: the directory above it has to be there, and a file that is missing is
made.
-/

namespace CastLaunch.Logging

inductive OpenError where
  | file (e : FileError)
  | refused (text : String)

def OpenError.message : OpenError → String
  | .file e => e.message
  | .refused text => text

/-- The full path that a log file is opened under. -/
def logPath (here : List String) (name : String) : FileName :=
  let n := FileName.ofText name
  { root := if n.isAbsolute then n.root else "/", parts := n.fullPath here }

/-- Opens the log file.  The names in front of its own have to lead through directories, and it must be none. -/
def openFile (s : Surroundings) (name : String) : Except OpenError Unit :=
  let path := logPath s.files.here name
  if name.contains '\x00' then .error (.file .nullCharacter)
  else
    match s.refusal? .write path.text, s.files.follow [] path.parts with
    | some text, _ => .error (.refused text)
    | none, .error .missing => .error (.file (.missing path.text))
    | none, .error .notDirectory => .error (.file (.notDirectory path.text))
    | none, .ok _ =>
      if s.files.at? path.parts = some .directory then .error (.file (.directory path.text)) else .ok ()

/-- Sets logging up on a host, with its file opened first; otherwise what is said of the failure. -/
def Setup.on (s : Surroundings) (level template file : Value) : Except String Setup := do
  match ← (fileOf file).mapError SetupError.message with
  | some name => (openFile s name).mapError OpenError.message
  | none => pure ()
  (Setup.of level template file).mapError SetupError.message

end CastLaunch.Logging
