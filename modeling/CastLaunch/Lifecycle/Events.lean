import CastLaunch.Bridge
import CastLaunch.Lifecycle.Controller

/-!
What reaches the controller from outside.  While a cycle runs, the first request
decides how it ends; a request to shut down is remembered beyond that.  Requests and
timer wakes do not act at once: they queue up and are worked off after the events of
a batch, first in, first out.
-/

namespace CastLaunch
open CastLaunch.Text

def signalNames : List (Int × String) :=
  [(1, "SIGHUP"), (2, "SIGINT"), (3, "SIGQUIT"), (4, "SIGILL"), (5, "SIGTRAP"), (6, "SIGABRT"),
   (7, "SIGBUS"), (8, "SIGFPE"), (9, "SIGKILL"), (10, "SIGUSR1"), (11, "SIGSEGV"), (12, "SIGUSR2"),
   (13, "SIGPIPE"), (14, "SIGALRM"), (15, "SIGTERM"), (16, "SIGSTKFLT"), (17, "SIGCHLD"),
   (18, "SIGCONT"), (19, "SIGSTOP"), (20, "SIGTSTP"), (21, "SIGTTIN"), (22, "SIGTTOU"), (23, "SIGURG"),
   (24, "SIGXCPU"), (25, "SIGXFSZ"), (26, "SIGVTALRM"), (27, "SIGPROF"), (28, "SIGWINCH"), (29, "SIGIO"),
   (30, "SIGPWR"), (31, "SIGSYS"), (34, "SIGRTMIN"), (64, "SIGRTMAX")]

namespace Controller

/-- The controller with the way out decided, if nobody decided it before.  When no cycle is running, the
request is lost. -/
def request (next : Phase) (c : Controller) : Controller :=
  match c.transition with
  | .closed => c
  | .pending => { c with transition := .decided next, queue := c.queue ++ [.controller], asked := c.asked ++ [next] }
  | .decided _ => { c with asked := c.asked ++ [next] }

def requestShutdown (c : Controller) : Controller :=
  { c with shutdownRequested := true, shutdowns := c.shutdowns + 1 }.request .shutdown

/-- The end of the renderer asks for a relaunch, through the loop. -/
def rendererQuit : Run Fault Controller Unit := do
  match (← Run.read).loop with
  | .absent | .closed => return ()
  | .accepting =>
    Run.log .info .lifecycle "Renderer pipeline ended"
    Run.update fun c => { c with queue := c.queue ++ [.relaunch] }
  | .refusing =>
    Run.log .info .lifecycle "Renderer pipeline ended"
    Run.emit (.call .postToLoop)
    Run.log .debug .lifecycle "Renderer quit after loop shutdown ignored"

/-- A termination signal; a number that is no signal fails. -/
def receiveSignal (number : Int) : Run Fault Controller Unit := do
  match signalNames.lookup number with
  | none => Run.fail (.unknownSignal number)
  | some name =>
    Run.log .info .lifecycle ("Received " ++ name)
    Run.update requestShutdown

def onSession {ε α : Type} (x : Run ε Session α) : Run ε Controller α :=
  Run.within (·.session) (fun s c => { c with session := s }) x

def fire (w : World) : Event → Run Fault Controller Unit
  | .connected => onSession (Notice.connected.deliver w)
  | .disconnected => onSession (Notice.disconnected.deliver w)
  | .relaunchRequested => Run.update (request .relaunch)
  | .shutdownRequested => Run.update requestShutdown
  | .rendererQuit => rendererQuit
  | .signal number => receiveSignal number
  | .tick => Run.update fun c =>
    match c.timer with
    | .asleep => { c with timer := .waking, queue := c.queue ++ [.timer] }
    | _ => c

/-- Events one after the other; one that fails leaves a note and does not stop the others. -/
def fireAll {ε : Type} (w : World) : List Event → Run ε Controller Unit :=
  Run.each fun e => do
    match ← Run.attempt (fire w e) with
    | .ok () => return ()
    | .error fault => Run.emit (.raised fault)

/-- The idle timer goes on, unless the cycle is over by now. -/
def wakeTimer {ε : Type} (timeout : Nat) : Run ε Controller Unit := do
  let c ← Run.read
  if c.timer = .waking then
    match ← Run.attempt (onSession (Session.tick timeout)) with
    | .ok true =>
      Run.log .info .lifecycle
        ("No connections for " ++ natText timeout ++ " seconds: relaunch server")
      Run.update fun c => { c with timer := .absent }.request .relaunch
    | _ => Run.update fun c => { c with timer := .asleep }

/-- Works off one wake.  The controller's wake ends the running period and its timer. -/
def work {ε : Type} (timeout : Nat) : Wake → Run ε Controller Unit
  | .timer => wakeTimer timeout
  | .relaunch => Run.update (request .relaunch)
  | .controller => Run.update fun c =>
    match c.transition with
    | .decided next => { c with transition := .closed, timer := .absent, exit? := some next }
    | _ => c

def workQueue {ε : Type} (timeout : Nat) : Run ε Controller Unit := do
  let c ← Run.read
  Run.update fun c => { c with queue := [] }
  Run.each (work timeout) c.queue

/-- Events and everything that they queue up.  Working off a queue adds the controller's wake at most,
so the second round leaves nothing.

All events of a batch happen before the queue is worked off, and the controller wakes before the next batch.
So a relaunch asked for by the timer or the renderer, worked off, and followed by another request before the
controller's wake cannot be written with `tick` or `rendererQuit`.  Such a batch has `relaunchRequested` in their
place. -/
def settle {ε : Type} (timeout : Nat) (w : World) (events : List Event) : Run ε Controller Unit := do
  fireAll w events
  workQueue timeout
  workQueue timeout

end Controller

end CastLaunch
