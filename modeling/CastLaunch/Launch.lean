import CastLaunch.CommandLine.Help
import CastLaunch.CommandLine.Overrides
import CastLaunch.FactorySet
import CastLaunch.Lifecycle.Run
import CastLaunch.Logging.File
import CastLaunch.Provision
import CastLaunch.Settings.File

/-!
A whole launch, from the command line to the exit code: settings, logging with its
file, the collaborators, the identifier, and then the serve cycles.  Whatever goes wrong
before them is reported on the error output and ends the launch with code 1.
-/

namespace CastLaunch
open CastLaunch.Text CastLaunch.CommandLine

structure Host where
  surroundings : Surroundings
  catalog : Catalog
  addressFiles : List AddressFile
  random : RandomSource
  hostname : Option String
  /-- What happens in the cycles, and the world when the scripts are used up. -/
  scripts : List Script
  quiet : World
  /-- What reads the settings file; any loader will do. -/
  loader : Yaml.Loader := Yaml.load

/-- How the part of a launch behind the command line ends. -/
inductive Ending where
  | finished (code : Int)
  | interrupted
  | failed (message : String)
  | reported (text : String)
  deriving DecidableEq, Repr

structure Outcome where
  exit : Int
  output : String := ""
  errors : String := ""
  /-- The logging settings, once they are known: level, template and file. -/
  logging : Option (Value × Value × Value) := none
  events : List Entry := []
  draws? : Option Draws := none
  controller : Option Controller := none

def knownHost (hostname : Option String) : Option String := hostname.filter (· != "")

def LaunchConfig.summary (c : LaunchConfig) : List LogRecord :=
  let line := fun message => (⟨.info, .bootstrap, message⟩ : LogRecord)
  let ports := fun t : PortTriple => String.intercalate " " (t.toList.map natText)
  let sink := fun (enabled : Bool) (name : String) => if enabled then name else "disabled"
  [line ("uxlaunch v" ++ Limits.version), line ("Service name: " ++ c.name)] ++
    (if c.portsConfigured then
      [line ("Using network ports UDP " ++ ports c.udp ++ " TCP " ++ ports c.tcp)]
    else []) ++
    [line ("Video sink: " ++ sink c.videoEnabled c.videoSink),
      line ("Audio sink: " ++ sink c.audioEnabled c.audioSink)] ++
    if c.idleTimeout = 0 then []
    else [line ("Idle relaunch after " ++ natText c.idleTimeout ++ " seconds without connections")]

namespace Launch

def fileReport (e : FileError) : String :=
  match e with
  | .settings (.invalid e) => e.message ++ "\n"
  | .missing _ | .variableMissing _ => "Error: " ++ e.message ++ "\n"
  | e => "Error loading config: " ++ e.message ++ "\n"

def overrideReport : OverrideError → String
  | .invalid e => e.message ++ "\n"
  | .shape e => "Error loading config: " ++ e.message ++ "\n"

/-- The settings of the launch: those of the file, with the options of the command line over them. -/
def configure (h : Host) (a : Arguments) : Except String Settings := do
  let s ← (Settings.loadBy h.loader h.surroundings).mapError fileReport
  let launch ← (a.configure s.launch (knownHost h.hostname)).mapError overrideReport
  return { s with launch }

/-- The level of the log that the settings ask for. -/
def logLevel (s : Settings) : Value := Logging.effectiveLevel s.logging.level s.launch.debugLog

/-- Sets the logging of a launch up, before it does anything else with its settings. -/
def beginLog (h : Host) (s : Settings) : Except String Logging.Setup :=
  Logging.Setup.on h.surroundings (logLevel s) s.logging.format s.logging.file

/-- What the cycles of a launch serve. -/
def servedOf (s : Settings) (factories : FactorySet) (p : Provision) : Served where
  config := s.launch
  identifier := p.identifier
  factories := {
    video := factories.video.isSome
    audio := factories.audio.isSome
    sink := .builtIn
    registrar := if FactorySet.isBuiltInRegistrar factories.discovery then .builtIn else .external }

/-- The launch with its settings, as far as it got, and how it ended. -/
def serveWith (h : Host) (s : Settings) : Outcome × Ending :=
  let begun : Outcome := { exit := 1, logging := some (logLevel s, s.logging.format, s.logging.file) }
  match beginLog h s with
  | .error message => (begun, .failed message)
  | .ok _ =>
    let summarized := { begun with events := s.launch.summary.map .log }
    match FactorySet.resolve h.catalog s.collaborators s.launch with
    | .error e =>
      if e.isConfiguration then
        ({ summarized with events := summarized.events ++ [.log ⟨.error, .bootstrap, e.message⟩] },
          .reported ("Error: " ++ e.message ++ "\n"))
      else (summarized, .failed e.message)
    | .ok factories =>
      match Provision.choose s.launch.randomIdentifier h.addressFiles h.random with
      | .error fault => (summarized, .failed fault.message)
      | .ok p =>
        let used := if p.synthesized then [] else
          [⟨.info, .bootstrap, "Using host device identifier " ++ p.identifier.written⟩]
        let r := Controller.run (servedOf s factories p) h.quiet h.scripts {}
        let events := summarized.events ++ (p.records ++ used).map .log ++ r.events
        ({ summarized with events, draws? := p.draws?, controller := some r.state },
          match r.outcome with
          | .ok code => .finished code
          | .error e => .failed e.message)

/-- The launch behind the command line, as far as it got, and how it ended. -/
def serve (h : Host) (a : Arguments) : Outcome × Ending :=
  match configure h a with
  | .error report => ({ exit := 1 }, .reported report)
  | .ok s => serveWith h s

def conclude (o : Outcome) : Ending → Outcome
  | .finished code => { o with exit := code }
  | .interrupted => { o with exit := 0, output := "\nShutting down...\n" }
  | .failed message => { o with exit := 1, errors := "Error: " ++ message ++ "\n" }
  | .reported text => { o with exit := 1, errors := text }

def runWith (argv : List String) (body : Arguments → Outcome × Ending) : Outcome :=
  match Arguments.parse argv with
  | .error e => { exit := 1, errors := e.report }
  | .ok a =>
    if a.help then { exit := 0, output := helpText }
    else
      let (o, ending) := body a
      conclude o ending

def run (h : Host) (argv : List String) : Outcome := runWith argv (serve h)

end Launch

end CastLaunch
