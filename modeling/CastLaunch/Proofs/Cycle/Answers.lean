import CastLaunch.Proofs.Cycle.Rollback
import CastLaunch.Proofs.Discovery.Records

/-!
How the steps of a start are answered.  A step makes one call at a collaborator or at the
responder of the built-in registrar; it makes none when it is skipped, when the collaborator is
built in, or when there is no factory for it.  The answer of the world to the call decides how
the step ends.
-/

namespace CastLaunch

/-- Whether the call goes to the sockets or the loop of the host. -/
def Call.isOfHost : Call → Bool
  | .openSocket | .connectSocket | .askSocketAddress | .closeSocket | .postToLoop => true
  | _ => false

def Entry.asked? : Entry → Option Call
  | .call c => if c.isOfHost then none else some c
  | _ => none

/-- The calls of a trace at collaborators and at the responder of the built-in registrar. -/
def asked (events : List Entry) : List Call := events.filterMap Entry.asked?

theorem asked_append (a b : List Entry) : asked (a ++ b) = asked a ++ asked b := List.filterMap_append

theorem asked_eq_nil {events : List Entry} (h : ∀ e ∈ events, e.asked? = none) : asked events = [] :=
  List.filterMap_eq_nil_iff.mpr h

/-- A call with which collaborators are released. -/
def Entry.isRelease : Entry → Bool
  | .call c => c.isOfStop
  | _ => false

/-- Why a factory makes nothing, if it does not. -/
def Reply.shortage? : Reply → Option String
  | .done => none
  | .nothing => some ""
  | .failed text => some text

/-- The address that a registrar without addresses of its own publishes. -/
def World.ownAddress (w : World) : String :=
  if [Call.openSocket, .connectSocket, .askSocketAddress, .closeSocket].all fun c => (w.reply c).refusal?.isNone then
    w.localAddress
  else "127.0.0.1"

namespace Served

def primaryPort (s : Served) (w : World) : Int := Step.boundPort w (Step.requestedPort s.config)

def portOf (s : Served) (w : World) : Service → Int
  | .raop => s.primaryPort w
  | .airplay => companionPort (s.primaryPort w) s.config.tcp.third

/-- The registrar of a launch that uses the built-in one. -/
def advertiser (s : Served) (w : World) : Advertiser where
  name := s.config.name
  identifier := s.identifier
  addresses := [w.ownAddress]

/-- The record of the service that the built-in registrar makes. -/
def record (s : Served) (w : World) (k : Service) : Except Fault ServiceRecord :=
  Advertiser.record w (s.advertiser w) k (s.portOf w k)

end Served

namespace Step

/-- The call that the step makes at a collaborator or at the responder. -/
def call? (w : World) (s : Served) : Step → Option Call
  | createEngine => some (.createEngine Limits.engineCapacity)
  | configureDisplay => some (.configureDisplay s.config.display)
  | configurePorts => some (.configurePorts s.config.tcp s.config.udp)
  | createSink => if s.factories.sink = .external then some .createSink else none
  | setSinkLevel => if s.factories.sink = .external then some (.setSinkLevel s.config.sinkLevel) else none
  | bindSink => some (.bindSink s.config.sinkLevel)
  | createVideo =>
    if s.factories.video then
      some (.createVideo true s.config.name s.config.flip s.config.turn s.config.videoSink)
    else none
  | createAudio =>
    if s.factories.audio then some (.createAudio true s.config.videoEnabled s.config.audioSink) else none
  | skipVideo | skipAudio => none
  | startVideo => some .startVideo
  | startAudio => some .startAudio
  | askPort => some .askPort
  | startServer => some (.startServer (requestedPort s.config))
  | createRegistrar =>
    if s.factories.registrar = .external then some (.createRegistrar s.config.name s.identifier) else none
  | bindRegistrar => some .bindRegistrar
  | register k =>
    match s.factories.registrar, s.record w k with
    | .external, _ => some (.registerService k (s.portOf w k))
    | .builtIn, .ok r => some (.publishRecord r.name r.port)
    | .builtIn, .error _ => none

/-- Why the step fails without a call, if it does. -/
def lack? (w : World) (s : Served) : Step → Option String
  | createVideo => some Fault.noVideoFactory.message
  | createAudio => some Fault.noAudioFactory.message
  | createRegistrar => w.responderFault?
  | register k =>
    match s.record w k with
    | .error e => some e.message
    | .ok _ => none
  | _ => none

/-- Why the step fails, if it does. -/
def failure? (w : World) (s : Served) (step : Step) : Option String :=
  match step.call? w s with
  | some c => if step.makes?.isSome then (w.reply c).shortage? else (w.reply c).refusal?
  | none => step.lack? w s

def passes (w : World) (s : Served) (step : Step) : Bool := (step.failure? w s).isNone

/-- The error of a start that the step ends. -/
def error (step : Step) (detail : String) : StartError :=
  match step.stage? with
  | some stage => .failed ⟨stage, detail⟩
  | none => .fault (.collaborator detail)

def service? : Step → Option Service
  | register k => some k
  | _ => none

/-- The step goes as its call is answered, with no other call at a collaborator and no release. -/
structure Goes (w : World) (s : Served) (step : Step) (x : Execution Fault Handles Bool) : Prop where
  ends : step.judge x.outcome = match step.failure? w s with
    | none => .ok ()
    | some detail => .error (step.error detail)
  asks : asked x.events = (step.call? w s).toList
  spares : ∀ e ∈ x.events, e.isRelease = false

variable {w : World} {s : Served} {step : Step} {c : Call}

theorem goes_silently {x : Execution Fault Handles Bool} (call : step.call? w s = none)
    (lack : step.lack? w s = none) (ok : x.outcome = .ok true) (asks : asked x.events = [])
    (spares : ∀ e ∈ x.events, e.isRelease = false) : Goes w s step x := by
  refine ⟨?_, by rw [asks, call]; rfl, spares⟩
  rw [failure?, call, ok, lack]
  rfl

/-- A step that makes nothing fails as its call does. -/
theorem goes_asking {x : Execution Fault Handles Bool} (makes : step.makes? = none) (call : step.call? w s = some c)
    (outcome : x.outcome = match (w.reply c).refusal? with
      | none => .ok true
      | some text => .error (.collaborator text))
    (asks : asked x.events = [c]) (spares : ∀ e ∈ x.events, e.isRelease = false) : Goes w s step x := by
  refine ⟨?_, by rw [asks, call]; rfl, spares⟩
  have fails : step.failure? w s = (w.reply c).refusal? := by rw [failure?, call, makes]; rfl
  rw [fails, outcome]
  cases (w.reply c).refusal? with
  | none => rfl
  | some text => cases charged : step.stage? <;> simp [judge, charged, error, Fault.message]

theorem goes_request (makes : step.makes? = none) (call : step.call? w s = some c)
    (kind : c.isOfHost = false ∧ c.isOfStop = false) (h : Handles) : Goes w s step (request w c h) := by
  have asks : asked (request w c h).events = [c] ∧ ∀ e ∈ (request w c h).events, e.isRelease = false := by
    rw [request_apply]
    cases w.reply c <;> simp [asked, Entry.asked?, Entry.isRelease, kind]
  refine goes_asking makes call ?_ asks.1 asks.2
  rw [request_apply]
  cases w.reply c <;> rfl

theorem goes_factory {stage : Stage} {put : Handles → Handles} (makes : step.makes? = some stage)
    (asks : step.call? w s = some c) (kind : c.isOfHost = false ∧ c.isOfStop = false) (h : Handles) :
    Goes w s step (factory w c put h) := by
  have charged : step.stage? = some stage := stage?_of_makes makes
  have fails : step.failure? w s = (w.reply c).shortage? := by rw [failure?, asks, makes]; rfl
  rw [factory_apply]
  refine ⟨?_, by cases w.reply c <;> simp [asked, Entry.asked?, asks, kind.1],
    by cases w.reply c <;> simp [Entry.isRelease, kind.2]⟩
  cases reply : w.reply c <;> simp [fails, reply, Reply.shortage?, judge, charged, error, Fault.message]

end Step

namespace Advertiser

theorem localAddress_outcome (w : World) : (localAddress w ()).outcome = .ok w.ownAddress := by
  cases opens : (w.reply .openSocket).refusal? <;> cases connects : (w.reply .connectSocket).refusal? <;>
    cases tells : (w.reply .askSocketAddress).refusal? <;> cases closes : (w.reply .closeSocket).refusal? <;>
      simp [localAddress, routeSteps, World.ownAddress, Run.perform_eq, opens, connects, tells, closes]

theorem create_outcome {w : World} (there : w.responderFault? = none) (name : String) (d : DeviceIdentifier) :
    (create w name d none ()).outcome = .ok { name, identifier := d, addresses := [w.ownAddress] } := by
  have own : (ownAddresses w none ()).outcome = .ok [w.ownAddress] := by
    rw [ownAddresses, Run.bind_of_ok (localAddress_outcome w)]
    rfl
  rw [create_of_none there, Run.bind_of_ok own]
  rfl

end Advertiser

namespace Step

variable {w : World} {s : Served} {h : Handles}

theorem act_createEngine_goes : Goes w s .createEngine (act w s .createEngine h) := by
  rw [act, Run.update_bind]
  exact goes_factory rfl rfl ⟨rfl, rfl⟩ _

theorem act_createSink_goes : Goes w s .createSink (act w s .createSink h) := by
  rw [act, makeSink]
  cases origin : s.factories.sink with
  | builtIn => exact goes_silently (by simp [call?, origin]) rfl rfl rfl (by simp)
  | external => exact goes_factory rfl (by simp [call?, origin]) ⟨rfl, rfl⟩ h

theorem act_setSinkLevel_goes {sink : Sink} (there : h.sink = some sink) (origin : sink.origin = s.factories.sink) :
    Goes w s .setSinkLevel (act w s .setSinkLevel h) := by
  rw [act_setSinkLevel_of_some there, Sink.setLevel, Sink.announce_update_apply]
  cases source : s.factories.sink with
  | builtIn =>
    rw [Sink.announce_of_builtIn (origin.trans source)]
    exact goes_silently (by simp [call?, source]) rfl rfl rfl (by simp)
  | external =>
    rw [Sink.announce_of_external (origin.trans source), Run.perform_eq]
    refine goes_asking rfl (by simp [call?, source]) ?_ rfl (by simp [Entry.isRelease, Call.isOfStop])
    cases (w.reply (.setSinkLevel s.config.sinkLevel)).refusal? <;> rfl

theorem act_createVideo_goes (sink : h.sink.isSome = true) : Goes w s .createVideo (act w s .createVideo h) := by
  rw [act, Run.read_bind, sink]
  cases there : s.factories.video with
  | false =>
    have asks : call? w s .createVideo = none := by simp [call?, there]
    exact ⟨by rw [failure?, asks]; rfl, by rw [asks]; rfl, by simp⟩
  | true => exact goes_factory rfl (by simp [call?, there]) ⟨rfl, rfl⟩ h

theorem act_createAudio_goes (sink : h.sink.isSome = true) (video : h.video = s.config.videoEnabled) :
    Goes w s .createAudio (act w s .createAudio h) := by
  rw [act, Run.read_bind, sink, video]
  cases there : s.factories.audio with
  | false =>
    have asks : call? w s .createAudio = none := by simp [call?, there]
    exact ⟨by rw [failure?, asks]; rfl, by rw [asks]; rfl, by simp⟩
  | true => exact goes_factory rfl (by simp [call?, there]) ⟨rfl, rfl⟩ h

theorem act_startServer_goes : Goes w s .startServer (act w s .startServer h) := by
  rw [act]
  cases refusal : (w.reply (.startServer (requestedPort s.config))).refusal? with
  | none =>
    rw [Run.perform_bind_of_heard refusal]
    exact goes_asking rfl rfl (by rw [refusal]; rfl) rfl (by simp [Entry.isRelease, Call.isOfStop])
  | some text =>
    rw [Run.perform_bind_of_refused refusal]
    exact goes_asking rfl rfl (by rw [refusal]) rfl (by simp [Entry.isRelease, Call.isOfStop])

theorem act_createRegistrar_of_builtIn (source : s.factories.registrar = .builtIn) (there : w.responderFault? = none)
    (primary : h.primary = some (s.primaryPort w)) :
    act w s .createRegistrar h = ⟨.ok true,
      { h with registrar := some (.builtIn (s.advertiser w)), companion := some (s.portOf w .airplay) },
      (Advertiser.create w s.config.name s.identifier none ()).events⟩ := by
  have made := makeRegistrar_of_ok source (Advertiser.create_outcome there s.config.name s.identifier) h
  rw [act, Run.bind_of_ok (a := true) (by rw [made]), made]
  simp [primary, Served.portOf, Served.advertiser]

/-- Without a responder the step fails, and nothing was called. -/
theorem act_createRegistrar_of_some (source : s.factories.registrar = .builtIn) {text : String}
    (missing : w.responderFault? = some text) :
    act w s .createRegistrar h = ⟨.error (.collaborator text), h, []⟩ := by
  have failed := makeRegistrar_of_some source missing h
  rw [act, Run.bind_of_error (by rw [failed]), failed]

theorem act_createRegistrar_of_external (source : s.factories.registrar = .external)
    (primary : h.primary = some (s.primaryPort w)) :
    act w s .createRegistrar h = factory w (.createRegistrar s.config.name s.identifier)
      (fun h => { h with registrar := some .external, companion := some (s.portOf w .airplay) }) h := by
  rw [act, makeRegistrar, source]
  simp only [Run.bind_apply, factory_apply]
  cases w.reply (.createRegistrar s.config.name s.identifier) <;> simp [primary, Served.portOf]

theorem act_createRegistrar_goes (primary : h.primary = some (s.primaryPort w)) :
    Goes w s .createRegistrar (act w s .createRegistrar h) := by
  cases source : s.factories.registrar with
  | builtIn =>
    have asks : call? w s .createRegistrar = none := by simp [call?, source]
    cases responder : w.responderFault? with
    | none =>
      have silent : Run.Leaves (fun e => e.asked? = none ∧ e.isRelease = false)
          (Advertiser.create w s.config.name s.identifier none) :=
        Advertiser.create_leaves (by decide) (fun _ _ => ⟨rfl, rfl⟩) _ _ _ _
      rw [act_createRegistrar_of_builtIn source responder primary]
      exact goes_silently asks responder rfl (asked_eq_nil fun e member => ((silent ()).2 e member).1)
        fun e member => ((silent ()).2 e member).2
    | some text =>
      rw [act_createRegistrar_of_some source responder]
      exact ⟨by rw [failure?, asks, lack?, responder]; rfl, by rw [asks]; rfl, by simp⟩
  | external =>
    rw [act_createRegistrar_of_external source primary]
    exact goes_factory rfl (by simp [call?, source]) ⟨rfl, rfl⟩ h

theorem servicePort_eq {k : Service} (primary : h.primary = some (s.primaryPort w))
    (companion : h.companion = some (s.portOf w .airplay)) : servicePort h k = s.portOf w k := by
  cases k with
  | raop => rw [servicePort, primary]; rfl
  | airplay => rw [servicePort, companion]; rfl

theorem act_register_goes {k : Service} (port : servicePort h k = s.portOf w k)
    (origin : h.registrar.map (·.origin) = some s.factories.registrar)
    (unpublished : ∀ a, h.registrar = some (.builtIn a) →
      { a with records := [] } = s.advertiser w ∧ a.records.lookup k = none) :
    Goes w s (.register k) (act w s (.register k) h) := by
  rw [act_register_apply, port]
  cases registrar : h.registrar with
  | none => rw [registrar] at origin; cases origin
  | some there =>
    rw [registrar] at origin
    cases there with
    | external =>
      have source : s.factories.registrar = .external := (Option.some.inj origin).symm
      dsimp only
      rw [Release.onRegistrar_of_not_builtIn (by simp [registrar]), Run.perform_eq]
      refine goes_asking rfl (by simp [call?, source]) ?_ rfl (by simp [Entry.isRelease, Call.isOfStop])
      cases (w.reply (.registerService k (s.portOf w k))).refusal? <;> rfl
    | builtIn a =>
      have source : s.factories.registrar = .builtIn := (Option.some.inj origin).symm
      obtain ⟨same, absent⟩ := unpublished a registrar
      have made : Advertiser.record w a k (s.portOf w k) = s.record w k := by
        rw [Served.record, ← same]
        rfl
      dsimp only
      rw [Release.onRegistrar_of_builtIn registrar, Advertiser.register_of_absent absent]
      cases record : s.record w k with
      | error e =>
        have asks : call? w s (.register k) = none := by simp [call?, source, record]
        rw [Advertiser.publish_of_error (made.trans record)]
        refine ⟨?_, by rw [asks]; rfl, nofun⟩
        rw [failure?, asks, lack?, record]
        rfl
      | ok r =>
        have asks : call? w s (.register k) = some (.publishRecord r.name r.port) := by simp [call?, source, record]
        cases refusal : (w.reply (.publishRecord r.name r.port)).refusal? with
        | none =>
          rw [Advertiser.publish_of_heard (made.trans record) refusal]
          exact goes_asking rfl asks (by rw [refusal]; rfl) rfl (by simp [Entry.isRelease, Call.isOfStop])
        | some text =>
          rw [Advertiser.publish_of_refused (made.trans record) refusal]
          exact goes_asking rfl asks (by rw [refusal]; rfl) rfl (by simp [Entry.isRelease, Call.isOfStop])

end Step

end CastLaunch
