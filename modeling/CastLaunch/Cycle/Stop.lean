import CastLaunch.Session

/-!
The end of a serve cycle.  Every collaborator that is there is released, the engine
first, so that nothing reports into released collaborators.  A release that fails
is logged and does not keep the others from theirs.
-/

namespace CastLaunch
open CastLaunch.Text

inductive Release where
  | engine
  | service (k : Service)
  | registrar
  | audio
  | video
  | sink
  deriving DecidableEq, Repr

namespace Release

def label : Release → String
  | engine => "protocol engine"
  | service k => k.label ++ " service"
  | registrar => "discovery registrar"
  | audio => "audio renderer"
  | video => "video renderer"
  | sink => "render logger"

def failure (label text : String) : LogRecord :=
  ⟨.warning, .cycle, "Error releasing " ++ label ++ ": " ++ text⟩

def order : List Release :=
  [engine, service .raop, service .airplay, registrar, audio, video, sink]

def applies (h : Handles) : Release → Bool
  | engine => h.engine
  | service _ => h.registrar.isSome
  | registrar => h.registrar.isSome
  | audio => h.audio
  | video => h.video
  | sink => h.sink.isSome

/-- A run of the registrar, as far as it is the built-in one, or else a call. -/
def onRegistrar (w : World) (c : Call) (x : Run Fault Advertiser Unit) : Run Fault Handles Unit := do
  match (← Run.read).registrar with
  | some (.builtIn a) =>
    Run.within (fun _ => a) (fun a h => { h with registrar := some (.builtIn a) }) x
  | _ => Run.perform w c

def act (w : World) : Release → Run Fault Handles Unit
  | engine => Run.perform w .destroyEngine
  | service k => onRegistrar w (.unregisterService k) (Advertiser.unregister w k)
  | registrar => onRegistrar w .destroyRegistrar (Advertiser.destroy w)
  | audio => Run.perform w .destroyAudio
  | video => Run.perform w .destroyVideo
  | sink => do
    match (← Run.read).sink with
    | some s => Run.within (fun _ => s) (fun s h => { h with sink := some s }) (Sink.close w)
    | none => return ()

/-- The collaborators after the release, whether it failed or not. -/
def clear (h : Handles) : Release → Handles
  | engine => { h with engine := false }
  | service _ => h
  | registrar => { h with registrar := none, registered := [] }
  | audio => { h with audio := false }
  | video => { h with video := false }
  | sink => { h with sink := none }

/-- The release, if there is anything to release; a failure is logged. -/
def run {ε : Type} (w : World) (r : Release) : Run ε Handles Unit := do
  if r.applies (← Run.read) then
    match ← Run.attempt (r.act w) with
    | .ok () => pure ()
    | .error e => Run.emit (.log (failure r.label e.message))
    Run.update fun h => r.clear h

end Release

namespace Handles

def release {ε : Type} (w : World) : Run ε Handles Unit := Run.each (Release.run w) Release.order

end Handles

end CastLaunch
