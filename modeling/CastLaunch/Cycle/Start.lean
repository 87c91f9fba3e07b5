import CastLaunch.Cycle.Plan
import CastLaunch.Cycle.Stop

/-!
The start of a serve cycle.  The steps of the plan run in their order.  The first
one that fails ends the start: what was made so far is released, and the failure
names the resource.  Collaborators report and others ask while a start is under way:
what happens between its steps comes in as pauses.
-/

namespace CastLaunch
open CastLaunch.Text

namespace Step

/-- The port that an engine asks for: the first configured one, or zero for its own choice. -/
def requestedPort (c : LaunchConfig) : Int := c.tcp.first

def boundPort (w : World) (requested : Int) : Int := if requested = 0 then w.dynamicPort else requested

def servicePort (h : Handles) : Service → Int
  | .raop => h.primary.getD 0
  | .airplay => h.companion.getD 0

/-- A factory call; what it gives is put among the collaborators. -/
def factory (w : World) (c : Call) (put : Handles → Handles) : Run Fault Handles Bool := do
  let made ← Run.call w c
  if made then Run.update put
  return made

def request (w : World) (c : Call) : Run Fault Handles Bool := do
  Run.perform w c
  return true

/-- Makes the sink; the built-in one is always there. -/
def makeSink (w : World) (s : Served) : Run Fault Handles Bool := do
  match s.factories.sink with
  | .builtIn =>
    Run.update fun h => { h with sink := some { origin := .builtIn } }
    return true
  | .external => factory w .createSink fun h => { h with sink := some { origin := .external } }

def makeRegistrar (w : World) (s : Served) : Run Fault Handles Bool := do
  match s.factories.registrar with
  | .builtIn =>
    let a ← Run.within (fun _ => ()) (fun _ h => h) (Advertiser.create w s.config.name s.identifier none)
    Run.update fun h => { h with registrar := some (.builtIn a) }
    return true
  | .external =>
    factory w (.createRegistrar s.config.name s.identifier) fun h => { h with registrar := some .external }

/-- The step itself; false when a factory makes nothing. -/
def act (w : World) (s : Served) : Step → Run Fault Handles Bool
  | createEngine => do
    Run.update fun h => { h with bridged := true }
    factory w (.createEngine Limits.engineCapacity) fun h => { h with engine := true }
  | configureDisplay => request w (.configureDisplay s.config.display)
  | configurePorts => request w (.configurePorts s.config.tcp s.config.udp)
  | createSink => makeSink w s
  | setSinkLevel => do
    match (← Run.read).sink with
    | some sink =>
      Run.within (fun _ => sink) (fun t h => { h with sink := some t }) (Sink.setLevel w s.config.sinkLevel)
      return true
    | none => return true
  | bindSink => request w (.bindSink s.config.sinkLevel)
  | createVideo => do
    let h ← Run.read
    if s.factories.video then
      factory w (.createVideo h.sink.isSome s.config.name s.config.flip s.config.turn s.config.videoSink)
        fun h => { h with video := true }
    else Run.fail .noVideoFactory
  | skipVideo => do
    Run.log .info .cycle "Video disabled"
    return true
  | createAudio => do
    let h ← Run.read
    if s.factories.audio then
      factory w (.createAudio h.sink.isSome h.video s.config.audioSink) fun h => { h with audio := true }
    else Run.fail .noAudioFactory
  | skipAudio => do
    Run.log .info .cycle "Audio disabled"
    return true
  | startVideo => request w .startVideo
  | startAudio => request w .startAudio
  | askPort => request w .askPort
  | startServer => do
    let port := requestedPort s.config
    Run.perform w (.startServer port)
    Run.update fun h => { h with primary := some (boundPort w port) }
    Run.log .info .cycle ("Engine listening on port " ++ intText (boundPort w port))
    return true
  | createRegistrar => do
    let made ← makeRegistrar w s
    if made then
      Run.update fun h => { h with companion := h.primary.map fun p => companionPort p s.config.tcp.third }
    return made
  | bindRegistrar => request w .bindRegistrar
  | register k => do
    let port := servicePort (← Run.read) k
    Release.onRegistrar w (.registerService k port) (Advertiser.register w k port)
    Run.update fun h => { h with registered := h.registered ++ [k] }
    return true

/-- How the step ends, in terms of the start. -/
def judge (step : Step) (outcome : Except Fault Bool) : Except StartError Unit :=
  match outcome, step.stage? with
  | .ok true, _ => .ok ()
  | .ok false, some stage => .error (.failed { stage })
  | .ok false, none => .ok ()
  | .error e, some stage => .error (.failed { stage, detail := e.message })
  | .error e, none => .error (.fault e)

def run (w : World) (s : Served) (step : Step) : Run StartError Handles Unit := fun h =>
  let y := step.act w s h
  ⟨step.judge y.outcome, y.state, y.events⟩

end Step

namespace Served

/-- Starts a cycle whose session is part of a larger state, and gives its collaborators.  There may be a
pause before each step, and before each release of a start that fails.  A failed start releases what it
made and leaves no collaborators. -/
def startAmid {σ β : Type} (s : Served) (w : World) (part : σ → Session) (put : Session → σ → σ)
    (pause : β → Run StartError σ Unit) (steps releases : List β) : Run StartError σ Handles := do
  Run.within part put (Session.setHandles (some {}))
  match ← Run.attempt (Run.eachAmid pause
      (fun step => Run.within part put (Session.onHandles (Step.run w s step))) steps s.plan) with
  | .ok () => return (part (← Run.read)).handles.getD {}
  | .error (.failed f) =>
    Run.log .error .cycle f.message
    Run.eachAmid pause (fun r => Run.within part put (Session.onHandles (Release.run w r))) releases Release.order
    Run.within part put (Session.setHandles none)
    Run.fail (.failed f)
  | .error (.fault e) => Run.fail (.fault e)

def start (s : Served) (w : World) : Run StartError Session Handles :=
  s.startAmid w id (fun t _ => t) (fun _ : Unit => pure ()) [] []

end Served

end CastLaunch
