import CastLaunch.Config
import CastLaunch.ShapeError
import CastLaunch.Value

/-!
The settings that a file may hold: the launch configuration, logging, and the
paths of the collaborators.  Every section and every entry may be missing.  The
entries of the launch section have the textual forms of the command line and pass
through the same checks; logging entries and paths are kept as they are.
-/

namespace CastLaunch
open CastLaunch.Text

structure LoggingSection where
  level : Value := .text "INFO"
  file : Value := .null
  format : Value := .text "%(asctime)s %(levelname)s %(name)s: %(message)s"

structure CollaboratorPaths where
  engine : Value := .null
  video : Value := .null
  audio : Value := .null
  discovery : Value := .text "uxlaunch.discovery.zeroconf_registrar:registrar_create"

structure Settings where
  launch : LaunchConfig := {}
  logging : LoggingSection := {}
  collaborators : CollaboratorPaths := {}

inductive SettingsError where
  | invalid (e : ConfigError)
  | unknownKeys (keys : List Value)
  | numeral (e : NumeralError)
  | shape (e : ShapeError)

def SettingsError.message : SettingsError → String
  | .invalid e => e.message
  | .unknownKeys keys => "Unknown server config keys: " ++ (Value.list keys).shown
  | .numeral e => e.message
  | .shape e => e.message

namespace Settings

def launchKeys : List String :=
  ["name", "display", "fps", "overscan", "flip", "rotate", "ports", "tcp_ports", "udp_ports",
   "video_sink", "audio_sink", "debug_log", "idle_timeout", "random_identifier"]

def isLaunchKey : Value → Bool
  | .text s => launchKeys.contains s
  | _ => false

/-- What a section consists of: the keys of a table, the items of a list, the characters of a text. -/
def elements : Value → Except ShapeError (List Value)
  | .table entries => .ok (entries.map (·.1))
  | .text s => .ok (s.toList.map fun c => .text (String.ofList [c]))
  | .list items =>
    match items.find? fun v => !v.isKey with
    | some v => .error (.notKey v.typeName)
    | none => .ok items
  | v => .error (.notIterable v.typeName)

def distinct (vs : List Value) : List Value :=
  vs.foldl (fun acc v => if acc.any fun w => w.sameKey v then acc else acc ++ [v]) []

/-- The first value of the list that has no order with `v`. -/
def incomparable? (v : Value) (vs : List Value) : Option Value := vs.find? fun w => (v.below? w).isNone

/-- The values in rising order, if all of them can be compared. -/
def rising : List Value → Except ShapeError (List Value)
  | [] => .ok []
  | v :: r =>
    match incomparable? v r with
    | some w => .error (.noOrder w.typeName v.typeName)
    | none => do
      let sorted ← rising r
      let isBelow := fun w : Value => (w.below? v).getD false
      return sorted.takeWhile isBelow ++ v :: sorted.dropWhile isBelow

def entryText (v : Value) : Except SettingsError String := v.written.mapError .numeral

/-- A truth value; nothing else counts as one. -/
def truth (flag : String) : Value → Except SettingsError Bool
  | .bool b => .ok b
  | v => do throw (.invalid ⟨flag, ← entryText v, .notBoolean⟩)

def textual {α : Type} (check : String → String → Except ConfigError α) (flag : String) (v : Value) :
    Except SettingsError α := do
  (check flag (← entryText v)).mapError .invalid

/-- A count of seconds; zero is allowed here and means never. -/
def seconds (flag text : String) : Except ConfigError Nat := if text = "0" then .ok 0 else Count.parse flag 0 text

def entry {α : Type} (entries : List (Value × Value)) (key : String)
    (check : String → Value → Except SettingsError α) : Except SettingsError (Option α) :=
  match Value.find? key entries with
  | none => .ok none
  | some v => (check ("server." ++ key) v).map some

/-- The launch configuration of a section whose keys are all known. -/
def launchOfEntries (entries : List (Value × Value)) : Except SettingsError LaunchConfig := do
  let name ← entry entries "name" (textual Selector.parse)
  let geometry ← entry entries "display" (textual Geometry.parse)
  let fps ← entry entries "fps" (textual fun flag => Count.parse flag Limits.maxFps)
  let overscan ← entry entries "overscan" truth
  let flip ← entry entries "flip" (textual Flip.parse)
  let turn ← entry entries "rotate" (textual Turn.parse)
  let ports ← entry entries "ports" (textual PortGroup.parseTriple)
  let tcp ← entry entries "tcp_ports" (textual PortGroup.parseTriple)
  let udp ← entry entries "udp_ports" (textual PortGroup.parseTriple)
  let videoSink ← entry entries "video_sink" (textual Selector.parse)
  let audioSink ← entry entries "audio_sink" (textual Selector.parse)
  let debugLog ← entry entries "debug_log" truth
  let idle ← entry entries "idle_timeout" (textual seconds)
  let random ← entry entries "random_identifier" truth
  let d : Draft := {}
  let triple := fun group : Option PortTriple => ((group.or ports).getD .dynamic).toList.map Int.ofNat
  let draft : Draft :=
    { name := name.getD d.name
      width := (geometry.map fun g => (g.width : Int)).getD 0
      height := (geometry.map fun g => (g.height : Int)).getD 0
      refresh := (geometry.map fun g => g.refreshOr 0).getD 0
      maxFps := (fps.map Int.ofNat).getD 0
      overscanned := overscan.getD false
      tcp := triple tcp
      udp := triple udp
      flip := flip.getD .none
      turn := turn.getD .none
      videoSink := videoSink.getD d.videoSink
      audioSink := audioSink.getD d.audioSink
      debugLog := debugLog.getD false
      idleTimeout := (idle.map Int.ofNat).getD 0
      randomIdentifier := random.getD false }
  draft.validate.mapError .invalid

/-- The launch section.  Its keys are checked first; of the remaining shapes only a table has values. -/
def launchSection (v : Value) : Except SettingsError LaunchConfig := do
  let keys ← (elements v).mapError .shape
  match distinct (keys.filter fun k => !isLaunchKey k) with
  | [] =>
    match v with
    | .table entries => launchOfEntries entries
    | _ => throw (.shape .listIndex)
  | unknown =>
    let keys ← (rising unknown).mapError .shape
    throw (if (Value.list keys).isWritable then .unknownKeys keys else .numeral .tooLongToWrite)

/-- A section, an empty table when nothing is given. -/
def section? (entries : List (Value × Value)) (key : String) : Value :=
  match Value.find? key entries with
  | some v => if v.given then v else .table []
  | none => .table []

def tableOf : Value → Except SettingsError (List (Value × Value))
  | .table entries => .ok entries
  | v => .error (.shape (.noPart v.typeName "get"))

def ofEntries (entries : List (Value × Value)) : Except SettingsError Settings := do
  let launch ←
    match section? entries "server" with
    | .table [] => .ok {}
    | v => launchSection v
  let logging ← tableOf (section? entries "logging")
  let paths ← tableOf (section? entries "collaborators")
  let l : LoggingSection := {}
  let c : CollaboratorPaths := {}
  let pick := fun (es : List (Value × Value)) key default => (Value.find? key es).getD default
  return {
    launch
    logging := {
      level := pick logging "level" l.level
      file := pick logging "file" l.file
      format := pick logging "format" l.format }
    collaborators := {
      engine := pick paths "engine" c.engine
      video := pick paths "video_renderer" c.video
      audio := pick paths "audio_renderer" c.audio
      discovery := pick paths "discovery" c.discovery } }

end Settings

end CastLaunch
