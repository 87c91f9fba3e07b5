import CastLaunch.Execution
import CastLaunch.Text.Blank

/-!
The sink that collaborators log into.  It forwards messages up to a threshold, on
the scale where larger numbers are more verbose, until it is closed.  A sink may be
the built-in one or come from outside.  One from outside is called for its level and
for its closing, and may fail then; a message for it is no call of its own, but is
forwarded as the built-in one would do it.
-/

namespace CastLaunch
open CastLaunch.Text

namespace SinkLevel

def error : Int := 3
def warning : Int := 4
def info : Int := 6
def debug : Int := 7

def severity? (level : Int) : Option Severity :=
  if level = error then some .error
  else if level = warning then some .warning
  else if level = info then some .info
  else if level = debug then some .debug
  else none

end SinkLevel

inductive Origin where
  | builtIn
  | external
  deriving DecidableEq, Repr

structure Sink where
  origin : Origin
  /-- The most verbose level that is forwarded. -/
  level : Int := SinkLevel.info
  closed : Bool := false
  deriving DecidableEq, Repr

def withoutFinalBreaks (text : String) : String := String.ofList (dropEnd (· == '\n') text.toList)

namespace Sink

def record? (s : Sink) (level : Int) (text : String) : Option LogRecord :=
  if s.closed ∨ s.level < level then none
  else (SinkLevel.severity? level).map fun severity => ⟨severity, .collaborator, withoutFinalBreaks text⟩

/-- A sink from outside is called; the built-in one needs no call. -/
def announce (w : World) (c : Call) : Run Fault Sink Unit := do
  match (← Run.read).origin with
  | .builtIn => return ()
  | .external => Run.perform w c

def setLevel (w : World) (level : Int) : Run Fault Sink Unit := do
  announce w (.setSinkLevel level)
  Run.update fun s => { s with level }

def close (w : World) : Run Fault Sink Unit := do
  announce w .closeSink
  Run.update fun s => { s with closed := true }

end Sink

end CastLaunch
