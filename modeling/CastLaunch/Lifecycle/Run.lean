import CastLaunch.Cycle.Start
import CastLaunch.Lifecycle.Events

/-!
The phases of a launch.  A cycle starts, runs until somebody asks for its end, and
is stopped; then either the next cycle starts or the launch is over.  A request to
shut down that came too late for its own cycle ends a launch that is about to start
again.
-/

namespace CastLaunch

namespace Controller

def addSnapshot (a : Activity) : List (List Activity) → List (List Activity)
  | [] => [[a]]
  | [period] => [period ++ [a]]
  | period :: r => period :: addSnapshot a r

/-- Batches up to the one that ends the running period; when none does, a shutdown is requested. -/
def serveBatches {ε : Type} (s : Served) (w : World) : List (List Event) → Run ε Controller Unit
  | [] => settle s.config.idleTimeout w [.shutdownRequested]
  | events :: rest => do
    settle s.config.idleTimeout w events
    Run.update fun c => { c with snapshots := addSnapshot c.session.activity c.snapshots }
    if (← Run.read).exit?.isNone then serveBatches s w rest

def enter {ε : Type} (p : Phase) : Run ε Controller Unit :=
  Run.update fun c => { c with phase := p, visited := c.visited ++ [p] }

/-- Subscribes to the events of the video renderer, if there is one that has any. -/
def attach (w : World) (h : Handles) : Run Fault Controller Bool := do
  if h.video then Run.call w .attachEvents else return false

def detach {ε : Type} (w : World) : Run ε Controller Unit := do
  match ← Run.attempt (Run.perform w .detachEvents) with
  | .ok () => return ()
  | .error e => Run.log .warning .lifecycle ("Error detaching renderer event source: " ++ e.message)

def openPeriod (timeout : Nat) (c : Controller) : Controller :=
  { c with
    transition := .pending
    exit? := none
    timer := if timeout = 0 then .absent else .asleep
    asked := []
    snapshots := c.snapshots ++ [[]] }

/-- The running period of a cycle; gives the phase that follows.  A shutdown requested before it ends it
at once. -/
def serve (s : Served) (script : Script) (h : Handles) : Run Fault Controller Phase := do
  enter .running
  if (← Run.read).shutdownRequested then return .shutdown
  Run.update (openPeriod s.config.idleTimeout)
  let attached ← attach script.world h
  serveBatches s script.world script.running
  if attached then detach script.world
  return (← Run.read).exit?.getD .shutdown

def release {ε : Type} (s : Served) (script : Script) (h : Handles) : Run ε Controller Unit := do
  settle s.config.idleTimeout script.world script.stopping
  onSession (Session.setHandles (some h))
  Run.eachAmid (settle s.config.idleTimeout script.world)
    (fun r => onSession (Session.onHandles (Release.run script.world r))) script.amidStop Release.order

/-- Stops the cycle and forgets its collaborators.  Without collaborators there is nothing to release. -/
def stop {ε : Type} (s : Served) (script : Script) (handles : Option Handles) : Run ε Controller Unit := do
  Run.update fun c => { c with stopped := c.stopped ++ [handles] }
  match handles with
  | some h => release s script h
  | none => pure ()
  onSession (Session.setHandles none)

def shutDown {ε : Type} (s : Served) (script : Script) (handles : Option Handles) : Run ε Controller Unit := do
  enter .shutdown
  Run.log .info .lifecycle "Stopping..."
  stop s script handles

/-- From the end of a cycle to the next one; gives the exit code when there is none. -/
def relaunch (s : Served) (script : Script) (h : Handles) : Run Fault Controller (Option Nat) := do
  enter .relaunch
  Run.log .info .lifecycle "Re-launching server..."
  stop s script (some h)
  onSession Session.reset
  Run.update fun c => { c with relaunches := c.relaunches + 1 }
  if (← Run.read).shutdownRequested then
    shutDown s script none
    return some 0
  else return none

/-- Starts the collaborators of a cycle and gives them; gives the exit code when that fails. -/
def start (s : Served) (script : Script) : Run Fault Controller (Except Nat Handles) := do
  enter .starting
  let c ← Run.read
  Run.emit (.cycle c.cycles)
  Run.update fun c => { c with cycles := c.cycles + 1 }
  match ← Run.attempt (s.startAmid script.world (·.session) (fun t c => { c with session := t })
      (settle s.config.idleTimeout script.world) script.amidStart script.amidStop) with
  | .ok h =>
    Run.update fun c => { c with started := c.started ++ [h] }
    return .ok h
  | .error (.failed f) =>
    if c.relaunches ≠ 0 then
      Run.log .error .lifecycle ("Relaunch failed, stopping: " ++ f.message)
    return .error f.stage.exitCode
  | .error (.fault e) => Run.fail e

/-- One cycle; gives the exit code, or nothing when the next cycle is to start. -/
def cycle (s : Served) (script : Script) : Run Fault Controller (Option Nat) := do
  match ← start s script with
  | .error code => return some code
  | .ok h =>
    settle s.config.idleTimeout script.world script.starting
    match ← serve s script h with
    | .relaunch => relaunch s script h
    | _ =>
      shutDown s script (some h)
      return some 0

/-- Cycles until one ends the launch.  When the scripts are used up, one more cycle runs in which
nothing happens; that one ends in a shutdown. -/
def cyclesFrom (s : Served) (quiet : World) : List Script → Run Fault Controller Nat
  | [] => do return (← cycle s { world := quiet }).getD 0
  | script :: rest => do
    match ← cycle s script with
    | some code => return code
    | none => cyclesFrom s quiet rest

def run (s : Served) (quiet : World) (scripts : List Script) : Run Fault Controller Nat := do
  Run.update fun c => { c with loop := .accepting }
  let outcome ← Run.attempt (cyclesFrom s quiet scripts)
  Run.update fun c => { c with loop := .absent, timer := .absent, queue := [] }
  match outcome with
  | .ok code => return code
  | .error e => Run.fail e

/-- The end of the renderer after the launch, with the loop in some other condition. -/
def rendererQuitOn (l : Loop) : Run Fault Controller Unit := do
  let c ← Run.read
  Run.update fun c => { c with loop := l }
  rendererQuit
  Run.update fun d => { d with loop := c.loop }

end Controller

end CastLaunch
