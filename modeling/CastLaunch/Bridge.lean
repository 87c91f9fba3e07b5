import CastLaunch.Session

/-!
What an engine reports, and where it goes.  Connections are counted and told to the
video renderer, media go to the renderer they are for, and messages to the sink.
Reports without a receiver are dropped.
-/

namespace CastLaunch
open CastLaunch.Text

inductive Notice where
  | connected
  | disconnected
  | audioFrame (frame : Frame)
  | videoFrame (frame : Frame) (kind : FrameKind)
  | audioFlush
  | videoFlush
  | volume (level : Volume)
  | audioFormat (code : Int)
  | message (level : Int) (text : String)
  deriving DecidableEq, Repr

namespace Notice

def formatRecord (code : Int) : LogRecord :=
  ⟨.info, .bridge,
    "New audio connection with audio format " ++ AudioFormat.codeText code ++ " " ++ AudioFormat.name code⟩

def logConnections (count : Nat) : Run Fault Session Unit :=
  Run.log .info .bridge ("Open connections: " ++ natText count)

def toVideo (w : World) (c : Call) : Run Fault Session Unit := do
  if (← Run.read).hasVideo then Run.perform w c

def toAudio (w : World) (c : Call) : Run Fault Session Unit := do
  if (← Run.read).hasAudio then Run.perform w c

def toSink (level : Int) (text : String) : Run Fault Session Unit := do
  match (← Run.read).sink.bind (·.record? level text) with
  | some r => Run.emit (.log r)
  | none => return ()

def deliver (w : World) : Notice → Run Fault Session Unit
  | connected => do
    logConnections (← Session.connect)
    toVideo w (.updateBackground 1)
  | disconnected => do
    toVideo w (.updateBackground (-1))
    logConnections (← Session.disconnect)
  | audioFrame frame => toAudio w (.renderAudio frame)
  | videoFrame frame kind => toVideo w (.renderVideo frame kind)
  | audioFlush => toAudio w .flushAudio
  | videoFlush => toVideo w .flushVideo
  | volume level => toAudio w (.setVolume level)
  | audioFormat code => Run.emit (.log (formatRecord code))
  | message level text => toSink level text

/-- What is left of a report when the session is gone. -/
def orphaned : Notice → List Entry
  | audioFormat code => [.log (formatRecord code)]
  | _ => []

end Notice

end CastLaunch
