import CastLaunch.CommandLine.Arguments
import CastLaunch.CommandLine.PortOptions
import CastLaunch.Config
import CastLaunch.ShapeError

/-!
The configuration that a command line makes of the defaults.  Options are checked
one after the other, and the result as a whole at the end.
-/

namespace CastLaunch.CommandLine
open CastLaunch.Text

inductive OverrideError where
  | invalid (e : ConfigError)
  | shape (e : ShapeError)
  deriving DecidableEq, Repr

def OverrideError.message : OverrideError → String
  | .invalid e => e.message
  | .shape e => e.message

def Except.asOverride {α : Type} : Except ConfigError α → Except OverrideError α
  | .ok a => .ok a
  | .error e => .error (.invalid e)

/-- Reads the value of an option, if it is given; a value without a text breaks `reason`. -/
def OptValue.read {α : Type} (flag : String) (reason : Reason) (f : String → Except ConfigError α) :
    Option OptValue → Except OverrideError (Option α)
  | none => .ok none
  | some (.text s) => Except.asOverride ((f s).map some)
  | some .empty => .error (.invalid ⟨flag, "[]", reason⟩)

def OptValue.readGeometry : Option OptValue → Except OverrideError (Option Geometry)
  | none => .ok none
  | some (.text s) => Except.asOverride ((Geometry.parse "-s" s).map some)
  | some .empty => .error (.shape (.noPart "list" "partition"))

def hostedName (name : String) (host : Option String) : String :=
  match host with
  | some h => if h = "" then name else name ++ "@" ++ h
  | none => name

/-- The configuration built from the options over the defaults in `base`. -/
def Arguments.configure (a : Arguments) (base : LaunchConfig) (host : Option String) :
    Except OverrideError LaunchConfig := do
  let name ← OptValue.read "-n" .blank (Selector.parse "-n") a.name
  let geometry ← OptValue.readGeometry a.display
  let fps ← OptValue.read "-fps" (.count "-fps" Limits.maxFps) (Count.parse "-fps" Limits.maxFps) a.fps
  let flip ← OptValue.read "-f" .flip (Flip.parse "-f") a.flip
  let turn ← OptValue.read "-r" .rotation (Turn.parse "-r") a.turn
  let ports ← Except.asOverride (PortPair.apply ⟨base.tcp, base.udp⟩ (a.ports.getD []))
  let videoSink ← OptValue.read "-vs" .blank (Selector.parse "-vs") a.videoSink
  let audioSink ← OptValue.read "-as" .blank (Selector.parse "-as") a.audioSink
  let idle ← OptValue.read "-t" (.count "-t" 0) (Count.parse "-t" 0) a.idleTimeout
  let d := base.toDraft
  Except.asOverride (Draft.validate
    { d with
      name := hostedName (name.getD base.name) host
      width := (geometry.map fun g => (g.width : Int)).getD d.width
      height := (geometry.map fun g => (g.height : Int)).getD d.height
      refresh := (geometry.map fun g => g.refreshOr d.refresh).getD d.refresh
      maxFps := (fps.map fun n => (n : Int)).getD d.maxFps
      overscanned := a.overscan || d.overscanned
      flip := flip.getD d.flip
      turn := turn.getD d.turn
      tcp := ports.tcp.toList.map Int.ofNat
      udp := ports.udp.toList.map Int.ofNat
      videoSink := videoSink.getD d.videoSink
      audioSink := if a.audioOff then Limits.sinkDisabled else audioSink.getD d.audioSink
      randomIdentifier := a.randomIdentifier || d.randomIdentifier
      debugLog := if a.debugToggles % 2 = 1 then !d.debugLog else d.debugLog
      idleTimeout := (idle.map fun n => (n : Int)).getD d.idleTimeout })

end CastLaunch.CommandLine
