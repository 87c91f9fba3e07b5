import CastLaunch.Cycle.Failure
import CastLaunch.Sink

/-!
The plan of a cycle: a fixed list of steps, without those of a renderer that is
switched off, and for each step the resource that its failure is charged to.
-/

namespace CastLaunch

/-- Which collaborators can be made, and where the optional ones come from. -/
structure Factories where
  video : Bool := true
  audio : Bool := true
  sink : Origin := .builtIn
  registrar : Origin := .builtIn
  deriving DecidableEq, Repr

/-- What every cycle of a launch serves. -/
structure Served where
  config : LaunchConfig
  identifier : DeviceIdentifier
  factories : Factories
  deriving DecidableEq, Repr

/-- The port of the companion service: the configured one, or a neighbour of the primary port. -/
def companionPort (primary configured : Int) : Int :=
  if configured ≠ 0 then configured
  else if primary ≠ Limits.highestPort then primary + 1
  else primary - 1

inductive Step where
  | createEngine
  | configureDisplay
  | configurePorts
  | createSink
  | setSinkLevel
  | bindSink
  | createVideo
  | skipVideo
  | createAudio
  | skipAudio
  | startVideo
  | startAudio
  | askPort
  | startServer
  | createRegistrar
  | bindRegistrar
  | register (k : Service)
  deriving DecidableEq, Repr

def Served.plan (s : Served) : List Step :=
  let video := s.config.videoEnabled
  let audio := s.config.audioEnabled
  [.createEngine, .configureDisplay, .configurePorts, .createSink, .setSinkLevel, .bindSink,
   if video then .createVideo else .skipVideo, if audio then .createAudio else .skipAudio] ++
    (if video then [.startVideo] else []) ++ (if audio then [.startAudio] else []) ++
    [.askPort, .startServer, .createRegistrar, .bindRegistrar, .register .raop, .register .airplay]

def LaunchConfig.sinkLevel (c : LaunchConfig) : Int := if c.debugLog then SinkLevel.debug else SinkLevel.info

namespace Step

/-- The resource that a failure of the step is charged to. -/
def stage? : Step → Option Stage
  | createEngine | configureDisplay | configurePorts | askPort | startServer => some .engine
  | createSink | bindSink => some .sink
  | createVideo | skipVideo | startVideo => some .video
  | createAudio | skipAudio | startAudio => some .audio
  | createRegistrar | bindRegistrar | register _ => some .discovery
  | setSinkLevel => none

end Step

end CastLaunch
