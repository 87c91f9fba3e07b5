import CastLaunch.Count
import CastLaunch.Geometry
import CastLaunch.Orientation
import CastLaunch.PortGroup

/-!
The launch configuration.  A `Draft` holds values that nobody has checked; a
`LaunchConfig` is what `Draft.validate` lets through, and stays unchanged for the
whole run.  `LaunchConfig.Valid` states the bounds that validation establishes.
-/

namespace CastLaunch
open CastLaunch.Text

/-- Configuration values before any check. -/
structure Draft where
  name : String := Limits.defaultName
  width : Int := 0
  height : Int := 0
  refresh : Int := 0
  maxFps : Int := 0
  overscanned : Bool := false
  tcp : List Int := [0, 0, 0]
  udp : List Int := [0, 0, 0]
  flip : Flip := .none
  turn : Turn := .none
  videoSink : String := Limits.defaultVideoSink
  audioSink : String := Limits.defaultAudioSink
  debugLog : Bool := false
  idleTimeout : Int := 0
  randomIdentifier : Bool := false
  deriving DecidableEq, Repr

/-- A checked configuration.  Zero stands for the engine's own choice in geometry, frame rate and
ports, and for no idle relaunch. -/
structure LaunchConfig where
  name : String := Limits.defaultName
  width : Nat := 0
  height : Nat := 0
  refresh : Nat := 0
  maxFps : Nat := 0
  overscanned : Bool := false
  tcp : PortTriple := .dynamic
  udp : PortTriple := .dynamic
  flip : Flip := .none
  turn : Turn := .none
  videoSink : String := Limits.defaultVideoSink
  audioSink : String := Limits.defaultAudioSink
  debugLog : Bool := false
  idleTimeout : Nat := 0
  randomIdentifier : Bool := false
  deriving DecidableEq, Repr

structure DisplaySettings where
  width : Nat
  height : Nat
  refresh : Nat
  maxFps : Nat
  overscanned : Bool
  deriving DecidableEq, Repr

def checkRange (flag label : String) (value maximum : Int) : Except ConfigError Nat :=
  if 0 ≤ value ∧ value ≤ maximum then .ok value.toNat
  else .error ⟨flag, intText value, .range label maximum⟩

/-- Ports in parentheses; a single one keeps its comma. -/
def portTupleText (ports : List Int) : String :=
  match ports with
  | [p] => "(" ++ intText p ++ ",)"
  | _ => "(" ++ String.intercalate ", " (ports.map intText) ++ ")"

/-- Accepts three ports that are all zero, or all in range and distinct. -/
def checkTriple (flag : String) (ports : List Int) : Except ConfigError PortTriple :=
  match ports with
  | [a, b, c] =>
    if ports = [0, 0, 0] then .ok .dynamic
    else if ports.all (fun p => decide ((Limits.lowestPort : Int) ≤ p) && decide (p ≤ Limits.highestPort))
        ∧ ports.Nodup then
      .ok ⟨a.toNat, b.toNat, c.toNat⟩
    else .error ⟨flag, String.intercalate "," (ports.map intText), .tripleRange⟩
  | _ => .error ⟨flag, portTupleText ports, .tripleSize⟩

def checkTimeout (seconds : Int) : Except ConfigError Nat :=
  if 0 ≤ seconds then .ok seconds.toNat else .error ⟨"-t", intText seconds, .negative⟩

/-- Checks every value, in the order in which a faulty one is reported. -/
def Draft.validate (d : Draft) : Except ConfigError LaunchConfig := do
  let name ← Selector.parse "-n" d.name
  let videoSink ← Selector.parse "-vs" d.videoSink
  let audioSink ← Selector.parse "-as" d.audioSink
  let width ← checkRange "-s" "width" d.width Limits.maxExtent
  let height ← checkRange "-s" "height" d.height Limits.maxExtent
  let refresh ← checkRange "-s" "refresh" d.refresh Limits.maxRefresh
  let maxFps ← checkRange "-fps" "max fps" d.maxFps Limits.maxFps
  let idleTimeout ← checkTimeout d.idleTimeout
  let tcp ← checkTriple "-p tcp" d.tcp
  let udp ← checkTriple "-p udp" d.udp
  return { name, width, height, refresh, maxFps, overscanned := d.overscanned, tcp, udp,
           flip := d.flip, turn := d.turn, videoSink, audioSink, debugLog := d.debugLog,
           idleTimeout, randomIdentifier := d.randomIdentifier }

namespace LaunchConfig

def toDraft (c : LaunchConfig) : Draft where
  name := c.name
  width := c.width
  height := c.height
  refresh := c.refresh
  maxFps := c.maxFps
  overscanned := c.overscanned
  tcp := c.tcp.toList.map Int.ofNat
  udp := c.udp.toList.map Int.ofNat
  flip := c.flip
  turn := c.turn
  videoSink := c.videoSink
  audioSink := c.audioSink
  debugLog := c.debugLog
  idleTimeout := c.idleTimeout
  randomIdentifier := c.randomIdentifier

def videoEnabled (c : LaunchConfig) : Bool := c.videoSink != Limits.sinkDisabled

def audioEnabled (c : LaunchConfig) : Bool := c.audioSink != Limits.sinkDisabled

def portsConfigured (c : LaunchConfig) : Bool := c.tcp != .dynamic || c.udp != .dynamic

/-- What the engine is told; without video the frame rate drops to the minimum. -/
def display (c : LaunchConfig) : DisplaySettings where
  width := c.width
  height := c.height
  refresh := c.refresh
  maxFps := if c.videoEnabled then c.maxFps else Limits.disabledVideoFps
  overscanned := c.overscanned

end LaunchConfig

def PortTriple.Valid (t : PortTriple) : Prop :=
  t = .dynamic ∨
    (∀ p ∈ t.toList, Limits.lowestPort ≤ p ∧ p ≤ Limits.highestPort) ∧ t.toList.Nodup

instance (t : PortTriple) : Decidable t.Valid := by unfold PortTriple.Valid; infer_instance

structure LaunchConfig.Valid (c : LaunchConfig) : Prop where
  name : allBlank c.name = false
  videoSink : allBlank c.videoSink = false
  audioSink : allBlank c.audioSink = false
  width : c.width ≤ Limits.maxExtent
  height : c.height ≤ Limits.maxExtent
  refresh : c.refresh ≤ Limits.maxRefresh
  maxFps : c.maxFps ≤ Limits.maxFps
  tcp : c.tcp.Valid
  udp : c.udp.Valid

end CastLaunch
