import CastLaunch.Session

/-!
The controller of a launch: the phase it is in, the way out of the running cycle,
what its loop still has to do, and the session.  It keeps account of the phases it
was in, of what requests asked for, and of the collaborators that it was given and
gave back.  A `Script` is what happens around one cycle from outside.
-/

namespace CastLaunch

inductive Phase where
  | starting
  | running
  | relaunch
  | shutdown
  deriving DecidableEq, Repr

def Phase.label : Phase → String
  | .starting => "starting"
  | .running => "running"
  | .relaunch => "relaunch"
  | .shutdown => "shutdown"

inductive Transition where
  | closed
  | pending
  | decided (next : Phase)
  deriving DecidableEq, Repr

/-- What can happen from outside. -/
inductive Event where
  | connected
  | disconnected
  | relaunchRequested
  | shutdownRequested
  /-- The video renderer came to its end. -/
  | rendererQuit
  | signal (number : Int)
  /-- The sleep of the idle timer is over. -/
  | tick
  deriving DecidableEq, Repr

/-- What the loop still has to do. -/
inductive Wake where
  | timer
  | relaunch
  | controller
  deriving DecidableEq, Repr

inductive Loop where
  | absent
  | closed
  | accepting
  /-- The loop is there but takes no more work. -/
  | refusing
  deriving DecidableEq, Repr

inductive Timer where
  | absent
  | asleep
  /-- The timer will go on when its wake is worked off. -/
  | waking
  deriving DecidableEq, Repr

structure Controller where
  phase : Phase := .starting
  /-- Every phase entered, the latest one last. -/
  visited : List Phase := []
  relaunches : Nat := 0
  shutdownRequested : Bool := false
  loop : Loop := .absent
  transition : Transition := .closed
  /-- The way out that the running cycle took. -/
  exit? : Option Phase := none
  timer : Timer := .absent
  queue : List Wake := []
  session : Session := {}
  /-- How many cycles were begun. -/
  cycles : Nat := 0
  /-- How many requests to shut down were made. -/
  shutdowns : Nat := 0
  /-- What the requests of the latest running period asked for, in their order. -/
  asked : List Phase := []
  /-- The collaborators that starts gave, start by start. -/
  started : List Handles := []
  /-- The collaborators that stops were given, stop by stop. -/
  stopped : List (Option Handles) := []
  /-- For every running period the activity after each batch. -/
  snapshots : List (List Activity) := []
  deriving DecidableEq, Repr

/-- What happens around one cycle. -/
structure Script where
  world : World
  /-- While the start is under way, before each of its steps. -/
  amidStart : List (List Event) := []
  /-- After a successful start and before the cycle runs. -/
  starting : List Event := []
  /-- While the cycle runs, batch by batch. -/
  running : List (List Event) := []
  /-- When the stop begins and nothing is released yet. -/
  stopping : List Event := []
  /-- While the collaborators are released, by a stop or by a start that fails, before each release. -/
  amidStop : List (List Event) := []

namespace Controller

/-- The latest phases, as many as are remembered. -/
def history (c : Controller) : List Phase := c.visited.drop (c.visited.length - Limits.historySize)

theorem history_length (c : Controller) : c.history.length = min c.visited.length Limits.historySize := by
  simp [history, Limits.historySize]
  omega

end Controller

end CastLaunch
