import CastLaunch.Launch
import Std.Time.Format

/-!
The command line.  It looks at the host, tries the log file, runs the launch, and
prints what the launch leaves: its output, its log and its errors.  Collaborators from
outside are not linked in, so the launcher reaches the built-in modules only.
-/

namespace CastLaunch.Host
open CastLaunch.Text

def bytes? (name : String) : IO (Option (List UInt8)) :=
  try
    return some (← IO.FS.readBinFile name).toList
  catch _ => return none

def readHostname : IO (Option String) := do
  return (← bytes? "/proc/sys/kernel/hostname").bind fun bytes =>
    (Utf8.decode bytes).toOption.map fun name => String.ofList (trim name)

def readSurroundings : IO Surroundings := do
  let here := (FileName.ofText (← IO.currentDir).toString).parts
  let home ← IO.getEnv "HOME"
  let s : Surroundings := {
    homes := home.toList.map (("", ·))
    settingsName := ← IO.getEnv Limits.configVariable }
  let names := (Settings.places s ++ s.settingsName.toList).filterMap fun p =>
    (FileName.ofText p).expandHome s.homes
  let entries ← names.filterMapM fun n => do
    let path := n.fullPath here
    return (← bytes? (FileName.text ⟨"/", path⟩)).map fun bytes => (path, .file bytes)
  return { s with files := ⟨entries, here⟩ }

def readAddressFiles : IO (List AddressFile) :=
  Limits.hardwareAddressFiles.mapM fun path => return ⟨path, ← bytes? path⟩

def observe : IO Host := do
  let hostname ← readHostname
  let drawn := (← IO.getRandomBytes 6).toList
  return {
    surroundings := ← readSurroundings
    catalog := ⟨builtInModules⟩
    addressFiles := ← readAddressFiles
    random := ⟨fun k => (drawn.getD k 0).toNat⟩
    hostname
    scripts := []
    quiet := { reply := fun _ => .done, dynamicPort := 0, hostname, localAddress := "127.0.0.1" } }

/-- The log file of the launch, if it comes to one. -/
def logFile? (h : Host) (argv : List String) : Option String := do
  let a ← (CommandLine.Arguments.parse argv).toOption
  let s ← if a.help then none else (Launch.configure h a).toOption
  (← (Logging.fileOf s.logging.file).toOption)

/-- The host with what there is to know of the log file: that its directory is there, or why it cannot be opened. -/
def withLogFile (h : Host) (argv : List String) : IO Host := do
  match h.logFile? argv with
  | none => return h
  | some name =>
    let s := h.surroundings
    let path := Logging.logPath s.files.here name
    try
      let _ ← IO.FS.Handle.mk path.text .append
      let files := { s.files with entries := (path.parts.dropLast, .directory) :: s.files.entries }
      return { h with surroundings := { s with files } }
    catch e =>
      let refusal? := fun use p => match use with
        | .write => if p = path.text then some (toString e) else none
        | _ => none
      return { h with surroundings := { s with refusal? } }

end CastLaunch.Host

namespace CastLaunch.Outcome

/-- The log of a launch as text, every line at the same time. -/
def logText (o : Outcome) (s : Logging.Setup) (time : String) : String :=
  String.join (o.events.filterMap fun
    | .log r => some (s.render time ⟨r.severity.level, r.channel.name, r.message⟩)
    | _ => none)

def print (o : Outcome) (h : Host) : IO Unit := do
  IO.print o.output
  match o.logging with
  | some (level, template, file) =>
    match Logging.Setup.on h.surroundings level template file with
    | .ok s =>
      let text := o.logText s ((← Std.Time.PlainDateTime.now).format "uuuu-MM-dd HH:mm:ss,SSS")
      IO.eprint text
      if let some name := s.file then
        let path := Logging.logPath h.surroundings.files.here name
        (← IO.FS.Handle.mk path.text .append).putStr text
    | .error _ => pure ()
  | none => pure ()
  IO.eprint o.errors

end CastLaunch.Outcome

def main (argv : List String) : IO UInt32 := do
  let host ← (← CastLaunch.Host.observe).withLogFile argv
  let o := CastLaunch.Launch.run host argv
  o.print host
  return o.exit.toNat.toUInt32
