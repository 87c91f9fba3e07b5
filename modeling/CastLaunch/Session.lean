import CastLaunch.Discovery.Advertiser
import CastLaunch.Sink

/-!
The state of a running service: how active its clients are, and the collaborators
of the current serve cycle.  The idle count starts again whenever a client was
there since the last tick.
-/

namespace CastLaunch
open CastLaunch.Text

structure Activity where
  connections : Nat := 0
  /-- Whether no client was there since the last tick. -/
  idle : Bool := true
  seconds : Nat := 0
  deriving DecidableEq, Repr

namespace Activity

def connect (a : Activity) : Activity := { a with connections := a.connections + 1, idle := false }

/-- One client less; without any nothing changes. -/
def disconnect (a : Activity) : Activity := { a with connections := a.connections - 1 }

def tick (a : Activity) : Activity :=
  if 0 < a.connections ∨ a.idle = false then { a with seconds := 0, idle := a.connections == 0 }
  else { a with seconds := a.seconds + 1 }

/-- Whether the tick makes the idle count reach the timeout; zero or less means no timeout. -/
def tickExpires (a : Activity) (timeout : Int) : Bool :=
  a.connections == 0 && a.idle && decide (0 < timeout) && decide (timeout ≤ a.seconds + 1)

theorem connections_tick (a : Activity) : a.tick.connections = a.connections := by
  unfold tick
  split <;> rfl

end Activity

inductive Registrar where
  | external
  | builtIn (a : Advertiser)
  deriving DecidableEq, Repr

structure Handles where
  engine : Bool := false
  sink : Option Sink := none
  video : Bool := false
  audio : Bool := false
  registrar : Option Registrar := none
  /-- Whether the engine was given a way to report back. -/
  bridged : Bool := false
  primary : Option Int := none
  companion : Option Int := none
  registered : List Service := []
  deriving DecidableEq, Repr

def Handles.live (h : Handles) : List String :=
  ([("engine", h.engine), ("log_sink", h.sink.isSome), ("video_renderer", h.video), ("audio_renderer", h.audio),
    ("discovery", h.registrar.isSome), ("callbacks", h.bridged)].filter (·.2)).map (·.1)

structure Session where
  activity : Activity := {}
  /-- The collaborators of the current cycle; none between cycles. -/
  handles : Option Handles := none
  deriving DecidableEq, Repr

namespace Session

def hasVideo (s : Session) : Bool := (s.handles.map (·.video)).getD false

def hasAudio (s : Session) : Bool := (s.handles.map (·.audio)).getD false

def sink (s : Session) : Option Sink := s.handles.bind (·.sink)

def connect : Run Fault Session Nat := do
  Run.update fun s => { s with activity := s.activity.connect }
  return (← Run.read).activity.connections

/-- Counts a client that left and gives the count; warns when there was none. -/
def disconnect : Run Fault Session Nat := do
  let s ← Run.read
  if s.activity.connections = 0 then
    Run.log .warning .session "Connection close reported with no open connections"
    return 0
  else
    Run.update fun s => { s with activity := s.activity.disconnect }
    return s.activity.connections - 1

def tick (timeout : Int) : Run Fault Session Bool := do
  let s ← Run.read
  Run.update fun s => { s with activity := s.activity.tick }
  return s.activity.tickExpires timeout

def reset : Run Fault Session Unit := Run.update fun s => { s with activity := {} }

def setHandles {ε : Type} (h : Option Handles) : Run ε Session Unit := Run.update fun s => { s with handles := h }

def onHandles {ε α : Type} (x : Run ε Handles α) : Run ε Session α :=
  Run.within (fun s => s.handles.getD {}) (fun h s => { s with handles := some h }) x

theorem disconnect_apply (s : Session) :
    disconnect s = ⟨.ok (s.activity.connections - 1), { s with activity := s.activity.disconnect },
      if s.activity.connections = 0 then
        [.log ⟨.warning, .session, "Connection close reported with no open connections"⟩] else []⟩ := by
  obtain ⟨⟨connections, idle, seconds⟩, handles⟩ := s
  cases connections with
  | zero => rfl
  | succ n => rfl

end Session

end CastLaunch
