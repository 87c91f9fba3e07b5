import CastLaunch.Proofs.CommandLine.Overriding
import CastLaunch.Proofs.Cycle.Course
import CastLaunch.Proofs.Cycle.Interleaving
import CastLaunch.Proofs.Launch.FactoryPaths

/-!
Which renderers a launch has.  The choice of the factories and the start of a cycle each ask the
configuration for themselves, and they agree: a set has the factory of a renderer exactly when the
renderer is switched on, so a start never misses a factory, and never makes a renderer that is
switched off.  What is set for such a renderer is not followed.
-/

namespace CastLaunch

/-- Whether a cycle with this configuration has the collaborator. -/
def LaunchConfig.needs (c : LaunchConfig) : Stage → Bool
  | .video => c.videoEnabled
  | .audio => c.audioEnabled
  | _ => true

/-- Whether there is something that makes the collaborator. -/
def Factories.has (f : Factories) : Stage → Bool
  | .video => f.video
  | .audio => f.audio
  | _ => true

/-- The renderer whose factory is missing. -/
def Fault.missing? : Fault → Option Stage
  | .noVideoFactory => some .video
  | .noAudioFactory => some .audio
  | _ => none

/-- The renderer that the call makes or starts. -/
def Call.renderer? : Call → Option Stage
  | .createVideo .. | .startVideo => some .video
  | .createAudio .. | .startAudio => some .audio
  | _ => none

/-- The renderer that the step makes or starts. -/
def Step.renderer? : Step → Option Stage
  | .createVideo | .startVideo => some .video
  | .createAudio | .startAudio => some .audio
  | _ => none

namespace FactorySet

variable {c c' : Catalog} {paths other : CollaboratorPaths} {config : LaunchConfig} {set : FactorySet}

/-- Only the settings that are followed count, and of the catalog only what they lead to. -/
theorem resolve_congr (same : other.followed config = paths.followed config)
    (agree : ∀ path ∈ paths.followed config, c'.resolveValue path = c.resolveValue path) :
    resolve c' other config = resolve c paths config := by
  unfold resolve
  cases video : config.videoEnabled <;> cases audio : config.audioEnabled <;>
    simp [CollaboratorPaths.followed, video, audio] at same agree <;>
    simp [Catalog.resolveRenderer, same, agree]

theorem given_of_resolve_ok (ok : resolve c paths config = .ok set) :
    paths.engine.given = true ∧ paths.discovery.given = true := by
  rw [resolve] at ok
  cases engine : paths.engine.given with
  | false => rw [engine] at ok; cases ok
  | true =>
    cases discovery : paths.discovery.given with
    | false => rw [engine, discovery] at ok; cases ok
    | true => exact ⟨rfl, rfl⟩

theorem isSome_of_resolveRenderer {needed : Bool} {role : Role} {path : Value} {found : Option Factory}
    (ok : c.resolveRenderer needed role path = .ok found) : found.isSome = needed := by
  cases needed with
  | false => cases ok; rfl
  | true =>
    rw [Catalog.resolveRenderer, if_pos rfl] at ok
    split at ok
    · cases leads : c.resolveValue path with
      | error e => rw [leads] at ok; cases ok
      | ok f => rw [leads] at ok; cases ok; rfl
    · cases ok

theorem isSome_of_resolve_ok (ok : resolve c paths config = .ok set) :
    set.video.isSome = config.videoEnabled ∧ set.audio.isSome = config.audioEnabled := by
  have given := given_of_resolve_ok ok
  rw [resolve, given.1, given.2] at ok
  obtain ⟨video, videoOk, ok⟩ := exists_of_bind_ok ok
  obtain ⟨audio, audioOk, ok⟩ := exists_of_bind_ok ok
  obtain ⟨engine, -, ok⟩ := exists_of_bind_ok ok
  obtain ⟨discovery, -, ok⟩ := exists_of_bind_ok ok
  cases ok
  exact ⟨isSome_of_resolveRenderer videoOk, isSome_of_resolveRenderer audioOk⟩

end FactorySet

namespace Advertiser

variable {w : World}

theorem record_fault {a : Advertiser} {k : Service} {port : Int} {e : Fault} (failed : record w a k port = .error e) :
    e.missing? = none := by
  unfold record at failed
  split at failed
  · cases failed; rfl
  · split at failed <;> cases failed
    rfl

theorem register_failsWith (k : Service) (port : Int) : Run.FailsWith (·.missing? = none) (register w k port) := by
  have published : Run.FailsWith (·.missing? = none) (publish w k port) := by
    refine Run.FailsWith.bind .read fun a => ?_
    cases made : record w a k port with
    | error e => exact .fail (record_fault made)
    | ok r => exact .bind (.perform (fun _ => rfl) w _) fun _ => .bind (.update _) fun _ => .emit _
  refine Run.FailsWith.bind .read fun a => .bind (.update _) fun _ => ?_
  cases a.records.lookup k with
  | none => exact published
  | some previous => exact .bind (.perform (fun _ => rfl) w _) fun _ => published

end Advertiser

/-- With the fault of a missing factory, the step is one that uses it, and the factory is not there. -/
def Step.Blames (s : Served) (step : Step) (e : Fault) : Prop :=
  ∀ k, e.missing? = some k → step.renderer? = some k ∧ s.factories.has k = false

namespace Step

variable {w : World} {s : Served} {step : Step} {k : Stage}

theorem blames_of_plain {e : Fault} (plain : e.missing? = none) : Blames s step e := by
  intro k missing
  cases plain.symm.trans missing

theorem perform_failsWith {σ : Type} (w : World) (c : Call) :
    Run.FailsWith (Blames s step) (Run.perform w c : Run Fault σ Unit) :=
  .perform (fun _ => blames_of_plain rfl) w c

theorem factory_failsWith (c : Call) (put : Handles → Handles) : Run.FailsWith (Blames s step) (factory w c put) := by
  refine Run.FailsWith.bind (.call (fun _ => blames_of_plain rfl) w c) fun made => ?_
  cases made with
  | false => exact .pure _
  | true => exact .bind (.update _) fun _ => .pure _

theorem request_failsWith (c : Call) : Run.FailsWith (Blames s step) (request w c) :=
  .bind (perform_failsWith w c) fun _ => .pure _

theorem makeSink_failsWith : Run.FailsWith (Blames s step) (makeSink w s) := by
  unfold makeSink
  cases s.factories.sink with
  | builtIn => exact .bind (.update _) fun _ => .pure _
  | external => exact factory_failsWith _ _

theorem setLevel_failsWith (level : Int) : Run.FailsWith (Blames s step) (Sink.setLevel w level) := by
  refine Run.FailsWith.bind (Run.FailsWith.bind .read fun sink => ?_) fun _ => .update _
  cases sink.origin with
  | builtIn => exact .pure _
  | external => exact perform_failsWith w _

theorem makeRegistrar_failsWith : Run.FailsWith (Blames s step) (makeRegistrar w s) := by
  unfold makeRegistrar
  cases s.factories.registrar with
  | builtIn =>
    have opened : Run.FailsWith (Blames s step) (Advertiser.openResponder w) := by
      unfold Advertiser.openResponder
      cases w.responderFault? with
      | none => exact .pure _
      | some text => exact .fail (blames_of_plain rfl)
    have created : Run.FailsWith (Blames s step) (Advertiser.create w s.config.name s.identifier none) :=
      .bind opened fun _ => .bind (.of_succeeds (Advertiser.ownAddresses_ok w none)) fun _ => .pure _
    exact .bind (.within created) fun _ => .bind (.update _) fun _ => .pure _
  | external => exact factory_failsWith _ _

theorem onRegistrar_failsWith (c : Call) {x : Run Fault Advertiser Unit} (hx : Run.FailsWith (Blames s step) x) :
    Run.FailsWith (Blames s step) (Release.onRegistrar w c x) := by
  refine Run.FailsWith.bind .read fun h => ?_
  rcases h.registrar with _ | _ | a
  · exact perform_failsWith w c
  · exact perform_failsWith w c
  · exact .within hx

/-- A step misses a factory only if it is the one that would use it. -/
theorem act_failsWith (w : World) (s : Served) (step : Step) : Run.FailsWith (Blames s step) (step.act w s) := by
  -- Apart from the two steps that look for a factory, the faults are those of collaborators and of a record.
  cases step with
  | createEngine => exact .bind (.update _) fun _ => factory_failsWith _ _
  | createSink => exact makeSink_failsWith
  | setSinkLevel =>
    refine Run.FailsWith.bind .read fun h => ?_
    cases h.sink with
    | none => exact .pure _
    | some sink => exact .bind (.within (setLevel_failsWith _)) fun _ => .pure _
  | createVideo =>
    refine Run.FailsWith.bind .read fun h => ?_
    cases there : s.factories.video with
    | false =>
      refine .fail ?_
      rintro k ⟨⟩
      exact ⟨rfl, there⟩
    | true => exact factory_failsWith _ _
  | createAudio =>
    refine Run.FailsWith.bind .read fun h => ?_
    cases there : s.factories.audio with
    | false =>
      refine .fail ?_
      rintro k ⟨⟩
      exact ⟨rfl, there⟩
    | true => exact factory_failsWith _ _
  | createRegistrar =>
    refine Run.FailsWith.bind makeRegistrar_failsWith fun made => ?_
    cases made with
    | false => exact .pure _
    | true => exact .bind (.update _) fun _ => .pure _
  | startServer =>
    exact .bind (perform_failsWith w _) fun _ => .bind (.update _) fun _ => .bind (.emit _) fun _ => .pure _
  | register k =>
    refine Run.FailsWith.bind .read fun h => .bind (onRegistrar_failsWith _ ?_) fun _ => ?_
    · exact fun a e failed => blames_of_plain (Advertiser.register_failsWith k _ a e failed)
    · exact .bind (.update _) fun _ => .pure _
  | skipVideo | skipAudio => exact .bind (.emit _) fun _ => .pure _
  | configureDisplay | configurePorts | bindSink | startVideo | startAudio | askPort | bindRegistrar =>
    exact request_failsWith _

theorem renderer?_of_call {c : Call} (asks : step.call? w s = some c) : c.renderer? = step.renderer? := by
  cases step <;> simp only [call?] at asks <;> try split at asks
  all_goals cases asks <;> rfl

theorem call?_of_renderer (own : step.renderer? = some k) (there : s.factories.has k = true) :
    ∃ c, step.call? w s = some c := by
  cases step <;> cases own
  · exact ⟨_, if_pos there⟩
  · exact ⟨_, if_pos there⟩
  · exact ⟨_, rfl⟩
  · exact ⟨_, rfl⟩

theorem shortage_of_failure {c : Call} {detail : String} (asks : step.call? w s = some c)
    (failure : step.failure? w s = some detail) : (w.reply c).shortage? = some detail := by
  rw [failure?, asks] at failure
  dsimp only at failure
  split at failure
  · exact failure
  · cases reply : w.reply c with
    | done | nothing => rw [reply] at failure; cases failure
    | failed text => rw [reply] at failure; exact failure

/-- A step that fails for a renderer makes or starts it. -/
theorem renderer?_of_failure {detail : String} (failure : step.failure? w s = some detail)
    (charged : step.stage? = some k) (renderer : k = .video ∨ k = .audio) : step.renderer? = some k := by
  have taken : step.isSkip = false := by
    cases skip : step.isSkip with
    | false => rfl
    | true =>
      have passes := passes_of_skip (w := w) (s := s) skip
      rw [Step.passes, failure] at passes
      cases passes
  rcases renderer with rfl | rfl
  · cases step with
    | createVideo | startVideo => rfl
    | skipVideo => cases taken
    | _ => cases charged
  · cases step with
    | createAudio | startAudio => rfl
    | skipAudio => cases taken
    | _ => cases charged

end Step

namespace Served

variable {s : Served} {w : World} {t : Session} {step : Step} {k : Stage} {c : Call}

theorem needs_of_mem_plan (member : step ∈ s.plan) (own : step.renderer? = some k) : s.config.needs k = true := by
  cases video : s.config.videoEnabled <;> cases audio : s.config.audioEnabled <;>
    cases step <;> cases own <;> simp_all [plan, LaunchConfig.needs]

/-- Behind its steps a start leaves at most what releases leave. -/
theorem start_events (s : Served) (w : World) (t : Session) :
    ∃ behind, (s.start w t).events = (Run.each (Step.run w s) s.plan {}).events ++ behind ∧
      ∀ e ∈ behind, e.isOfStop = true := by
  rw [start_apply]
  cases (Run.each (Step.run w s) s.plan {}).outcome with
  | ok u => exact ⟨[], (List.append_nil _).symm, nofun⟩
  | error e =>
    cases e with
    | fault e => exact ⟨[], (List.append_nil _).symm, nofun⟩
    | failed f =>
      have releases := (Handles.release_leaves (ε := StartError) w (Run.each (Step.run w s) s.plan {}).state).2
      rw [Handles.release_apply] at releases
      exact ⟨_, rfl, List.forall_mem_cons.mpr ⟨rfl, releases⟩⟩

theorem mem_asked {events : List Entry} (own : c.renderer? = some k) : c ∈ asked events ↔ .call c ∈ events := by
  have ofHost : c.isOfHost = false := by cases c <;> first | rfl | cases own
  rw [asked, List.mem_filterMap]
  constructor
  · rintro ⟨e, member, called⟩
    cases e with
    | call c' =>
      rw [Entry.asked?] at called
      split at called <;> cases called
      exact member
    | log r | cycle n | raised f => cases called
  · intro member
    exact ⟨.call c, member, by rw [Entry.asked?, ofHost]; rfl⟩

/-- A call for a renderer is the one of a step, since no release makes or starts any. -/
theorem call_of_start (made : .call c ∈ (s.start w t).events) (own : c.renderer? = some k) :
    ∃ step ∈ s.plan, step.call? w s = some c := by
  obtain ⟨asks, -, -⟩ := (s.stands_nothing w).courses (List.nil_append s.plan).symm
  obtain ⟨behind, whole, releases⟩ := s.start_events w t
  rw [whole, List.mem_append] at made
  rcases made with amidSteps | later
  · rw [← mem_asked own, asks, List.mem_filterMap] at amidSteps
    obtain ⟨step, member, called⟩ := amidSteps
    refine ⟨step, ?_, called⟩
    rcases List.mem_append.mp member with passed | failed
    · exact (List.takeWhile_prefix _).subset passed
    · exact (List.dropWhile_suffix _).subset ((List.take_subset ..) failed)
  · have released : c.isOfStop = true := releases _ later
    cases c <;> first | (cases own; done) | cases released

/-- A start that fails for a renderer whose factory is there does so by the answer to a call for the renderer. -/
theorem shortage_of_failed {f : StartFailure} (has : ∀ k, s.config.needs k = true → s.factories.has k = true)
    (failed : (s.start w t).outcome = .error (.failed f)) (renderer : f.stage = .video ∨ f.stage = .audio) :
    ∃ c, .call c ∈ (s.start w t).events ∧ c.renderer? = some f.stage ∧ (w.reply c).shortage? = some f.detail := by
  obtain ⟨asks, -, ends⟩ := (s.stands_nothing w).courses (List.nil_append s.plan).symm
  obtain ⟨behind, whole, -⟩ := s.start_events w t
  have ended : (Run.each (Step.run w s) s.plan {}).outcome = .error (.failed f) := by
    rw [start_apply] at failed
    cases outcome : (Run.each (Step.run w s) s.plan {}).outcome with
    | ok u => rw [outcome] at failed; cases failed
    | error e => rw [outcome] at failed; cases e <;> cases failed; rfl
  cases rest : s.plan.dropWhile (Step.passes w s) with
  | nil =>
    rw [rest] at ends
    cases ends.1.symm.trans ended
  | cons step others =>
    rw [rest] at ends asks
    obtain ⟨detail, failure, error⟩ := ends
    have member : step ∈ s.plan := (List.dropWhile_suffix (Step.passes w s)).subset (rest ▸ List.mem_cons_self)
    obtain ⟨charged, rfl⟩ : step.stage? = some f.stage ∧ f.detail = detail := by
      have same := error.symm.trans ended
      rw [Step.error] at same
      cases charged : step.stage? with
      | none => rw [charged] at same; cases same
      | some stage => rw [charged] at same; cases same; exact ⟨rfl, rfl⟩
    have own := Step.renderer?_of_failure failure charged renderer
    obtain ⟨c, called⟩ := Step.call?_of_renderer (w := w) own (has _ (needs_of_mem_plan member own))
    have ownCall := (Step.renderer?_of_call called).trans own
    refine ⟨c, ?_, ownCall, Step.shortage_of_failure called failure⟩
    rw [whole, List.mem_append, ← mem_asked ownCall, asks]
    exact .inl (List.mem_filterMap.mpr ⟨step, by simp, called⟩)

end Served

namespace FactorySet

/-- What a launch serves with the factories of the set. -/
def served (set : FactorySet) (config : LaunchConfig) (identifier : DeviceIdentifier) (sink registrar : Origin) :
    Served where
  config
  identifier
  factories := { video := set.video.isSome, audio := set.audio.isSome, sink, registrar }

variable {c : Catalog} {paths : CollaboratorPaths} {config : LaunchConfig} {set : FactorySet}

/-- The choice of the factories and the start need the same renderers.  The set has exactly the factories of the
renderers that are switched on; the settings of the others, and what the catalog has under them, do not count.
A start with the set and the configuration misses no factory, fails for a renderer only by what was called for it,
and calls for none that is switched off. -/
theorem renderers_as_needed (chosen : resolve c paths config = .ok set) :
    (set.video.isSome = config.videoEnabled ∧ set.audio.isSome = config.audioEnabled) ∧
    (config.videoEnabled = false → ∀ path, resolve c { paths with video := path } config = .ok set) ∧
    (config.audioEnabled = false → ∀ path, resolve c { paths with audio := path } config = .ok set) ∧
    (∀ c' : Catalog, (∀ path ∈ paths.followed config, c'.resolveValue path = c.resolveValue path) →
      resolve c' paths config = .ok set) ∧
    ∀ identifier sink registrar w t,
      let s := set.served config identifier sink registrar
      (∀ visit ∈ Run.visits (Step.run w s) s.plan {}, ∀ e,
        (visit.1.act w s visit.2).outcome = .error e → e.missing? = none) ∧
      (∀ f, (s.start w t).outcome = .error (.failed f) → f.stage = .video ∨ f.stage = .audio →
        ∃ call, .call call ∈ (s.start w t).events ∧ call.renderer? = some f.stage ∧
          (w.reply call).shortage? = some f.detail) ∧
      ∀ call k, .call call ∈ (s.start w t).events → call.renderer? = some k → config.needs k = true := by
  have present := isSome_of_resolve_ok chosen
  refine ⟨present, fun off path => ?_, fun off path => ?_, fun c' agree => ?_, ?_⟩
  · exact (resolve_congr (by simp [CollaboratorPaths.followed, off]) fun _ _ => rfl).trans chosen
  · exact (resolve_congr (by simp [CollaboratorPaths.followed, off]) fun _ _ => rfl).trans chosen
  · exact (resolve_congr rfl agree).trans chosen
  intro identifier sink registrar w t s
  have has : ∀ k, s.config.needs k = true → s.factories.has k = true := by
    intro k needed
    cases k with
    | video => exact present.1.trans needed
    | audio => exact present.2.trans needed
    | _ => rfl
  refine ⟨fun visit member e failed => ?_, fun f failed renderer => Served.shortage_of_failed has failed renderer, ?_⟩
  · cases missing : e.missing? with
    | none => rfl
    | some k =>
      obtain ⟨own, absent⟩ := Step.act_failsWith w s visit.1 visit.2 e failed k missing
      have planned : visit.1 ∈ s.plan := (Run.visits_prefix ..).subset (List.mem_map_of_mem member)
      cases absent.symm.trans (has k (Served.needs_of_mem_plan planned own))
  · intro call k made own
    obtain ⟨step, planned, called⟩ := Served.call_of_start made own
    exact Served.needs_of_mem_plan planned ((Step.renderer?_of_call called).symm.trans own)

/-- A launch without sound.  Its video renderer has a factory, and the setting of the other one leads nowhere. -/
def silent : LaunchConfig := { audioSink := Limits.sinkDisabled }

def studio : Catalog := ⟨⟨"host", false, [.leaf "engine" true, .leaf "video" true]⟩ :: builtInModules⟩

def studioPaths : CollaboratorPaths :=
  { engine := .text "host:engine", video := .text "host:video", audio := .text "host:audio" }

def studioSet : FactorySet where
  engine := ⟨"host", ["engine"]⟩
  sink := builtInSink
  video := some ⟨"host", ["video"]⟩
  audio := none
  discovery := ⟨"uxlaunch.discovery.zeroconf_registrar", ["registrar_create"]⟩

/-- The video renderer does not start. -/
def darkened : World where
  reply
    | .startVideo => .failed "no display"
    | _ => .done
  dynamicPort := 7000
  hostname := none
  localAddress := "192.0.2.10"

theorem renderers_as_needed_silent :
    resolve studio studioPaths silent = .ok studioSet ∧
    resolve studio { studioPaths with audio := .null } silent = .ok studioSet ∧
    let s := studioSet.served silent (.ofDraws ⟨0, .replicate 5 0⟩) .builtIn .builtIn
    (s.start darkened {}).outcome = .error (.failed ⟨.video, "no display"⟩) ∧
    ∃ call, .call call ∈ (s.start darkened {}).events ∧ call.renderer? = some .video ∧
      (darkened.reply call).shortage? = some "no display" := by
  have chosen : resolve studio studioPaths silent = .ok studioSet := by decide +kernel
  obtain ⟨-, -, unfollowed, -, starts⟩ := renderers_as_needed chosen
  have failed : ((studioSet.served silent (.ofDraws ⟨0, .replicate 5 0⟩) .builtIn .builtIn).start
      darkened {}).outcome = .error (.failed ⟨.video, "no display"⟩) := by decide +kernel
  exact ⟨chosen, unfollowed rfl _, failed, (starts _ _ _ _ _).2.1 _ failed (.inl rfl)⟩

end FactorySet

end CastLaunch
