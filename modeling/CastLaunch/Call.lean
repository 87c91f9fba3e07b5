import CastLaunch.Config
import CastLaunch.Discovery.Service
import CastLaunch.Media

/-!
Calls to collaborators and to the host, and a `World` that answers them.
-/

namespace CastLaunch

inductive Call where
  | createEngine (capacity : Nat)
  | configureDisplay (display : DisplaySettings)
  | configurePorts (tcp udp : PortTriple)
  | createSink
  | setSinkLevel (level : Int)
  | bindSink (level : Int)
  | closeSink
  | createVideo (hasSink : Bool) (name : String) (flip : Flip) (turn : Turn) (sink : String)
  | createAudio (hasSink hasVideo : Bool) (sink : String)
  | startVideo
  | startAudio
  | flushVideo
  | flushAudio
  | destroyVideo
  | destroyAudio
  | renderVideo (frame : Frame) (kind : FrameKind)
  | renderAudio (frame : Frame)
  | setVolume (level : Volume)
  | updateBackground (delta : Int)
  | attachEvents
  | detachEvents
  | askPort
  | startServer (port : Int)
  | createRegistrar (name : String) (identifier : DeviceIdentifier)
  | bindRegistrar
  | registerService (service : Service) (port : Int)
  | unregisterService (service : Service)
  | destroyRegistrar
  | destroyEngine
  | publishRecord (name : String) (port : Int)
  | withdrawRecord (name : String) (port : Int)
  | closeResponder
  | openSocket
  | connectSocket
  | askSocketAddress
  | closeSocket
  | postToLoop
  deriving DecidableEq, Repr

/-- How a call ends: well, with nothing where something was to be made, or with an error of its own. -/
inductive Reply where
  | done
  | nothing
  | failed (text : String)
  deriving DecidableEq, Repr

/-- The collaborators and the host as a run meets them. -/
structure World where
  reply : Call → Reply
  /-- The port that an engine takes when none is configured. -/
  dynamicPort : Int
  hostname : Option String
  localAddress : String
  /-- Why the host gives a new built-in registrar no responder to publish with, if it gives none. -/
  responderFault? : Option String := none

namespace Call

def portList (t : PortTriple) : Value := .list (t.toList.map fun p => .int (Int.ofNat p))

def ofVolume : Volume → Value
  | .whole n => .int n
  | .fraction x => .float x

/-- The arguments of a call as values; the payload of a frame is left out. -/
def arguments : Call → List Value
  | createEngine capacity => [.int capacity]
  | configureDisplay d => [.int d.width, .int d.height, .int d.refresh, .int d.maxFps, .bool d.overscanned]
  | configurePorts tcp udp => [portList tcp, portList udp]
  | setSinkLevel level | bindSink level => [.int level]
  | createVideo hasSink name flip turn sink =>
    [.bool hasSink, .text name, .text flip.letter, .text turn.letter, .text sink]
  | createAudio hasSink hasVideo sink => [.bool hasSink, .bool hasVideo, .text sink]
  | renderVideo frame kind => [.int frame.timestamp, .bool kind.isKey]
  | renderAudio frame => [.int frame.timestamp]
  | setVolume level => [ofVolume level]
  | updateBackground delta => [.int delta]
  | startServer port => [.int port]
  | createRegistrar name identifier => [.text name, .text identifier.written]
  | bindRegistrar => [.bool true]
  | registerService _ port => [.int port]
  | publishRecord name port | withdrawRecord name port => [.text name, .int port]
  | connectSocket => [.list [.text "8.8.8.8", .int 80]]
  | _ => []

end Call

end CastLaunch
