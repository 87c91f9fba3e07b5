import CastLaunch.Proofs.Cycle.Answers
import Mathlib.Data.List.TakeWhile

/-!
The course of a start.  A start takes its steps in their order, up to the first one that
fails, and it is that step which the failure names; without one it gives all collaborators.
What the collaborators are behind the first steps of a plan is known from those steps, and with
it how the next step goes.
-/

namespace CastLaunch

namespace Served

theorem plan_nodup (s : Served) : s.plan.Nodup := by
  unfold plan
  cases s.config.videoEnabled <;> cases s.config.audioEnabled <;> decide

/-- The steps before a step of the plan. -/
def before (s : Served) (step : Step) : List Step := s.plan.takeWhile (· != step)

theorem before_of_split {s : Served} {passed rest : List Step} {step : Step} (split : s.plan = passed ++ step :: rest) :
    passed = s.before step := by
  have apart : step ∉ passed := by
    have nodup := s.plan_nodup
    rw [split] at nodup
    exact fun member => (List.nodup_append.mp nodup).2.2 step member step List.mem_cons_self rfl
  have others : ∀ a ∈ passed, (a != step) = true := fun a member => bne_iff_ne.mpr (ne_of_mem_of_not_mem member apart)
  rw [before, split, List.takeWhile_append_of_pos others, List.takeWhile_cons_of_neg (by simp), List.append_nil]

/-- What the collaborators of a start are once it has passed the steps. -/
structure Stands (s : Served) (w : World) (passed : List Step) (h : Handles) : Prop where
  origin : ∀ j, h.origin? j = if j ∈ passed.filterMap Step.makes? then some (s.originOf j) else none
  primary : .startServer ∈ passed → h.primary = some (s.primaryPort w)
  companion : .createRegistrar ∈ passed → h.companion = some (s.portOf w .airplay)
  registered : h.registered = passed.filterMap Step.service?
  advertiser : ∀ a, h.registrar = some (.builtIn a) →
    { a with records := [] } = s.advertiser w ∧ a.records.map (·.1) = passed.filterMap Step.service?

theorem stands_nothing (s : Served) (w : World) : s.Stands w [] {} where
  origin j := by cases j <;> rfl
  primary := nofun
  companion := nofun
  registered := rfl
  advertiser _ builtIn := nomatch builtIn

theorem sink_before (s : Served) {step : Step} (late : step ∉ opening) :
    .sink ∈ (s.before step).filterMap Step.makes? := by
  have others : ∀ a ∈ opening, (a != step) = true := fun a member => bne_iff_ne.mpr (ne_of_mem_of_not_mem member late)
  rw [before, plan_eq, List.takeWhile_append_of_pos others, List.filterMap_append]
  exact List.mem_append_left _ (by decide)

theorem video_before (s : Served) :
    .video ∈ (s.before .createAudio).filterMap Step.makes? ↔ s.config.videoEnabled = true := by
  cases video : s.config.videoEnabled <;> cases audio : s.config.audioEnabled <;>
    simp only [before, plan, video, audio] <;> decide

theorem startServer_before (s : Served) {step : Step} (last : step = .createRegistrar ∨ ∃ k, step = .register k) :
    .startServer ∈ s.before step := by
  rcases last with rfl | ⟨k, rfl⟩ <;> cases video : s.config.videoEnabled <;> cases audio : s.config.audioEnabled <;>
    simp [before, plan, video, audio]

theorem createRegistrar_before (s : Served) (k : Service) : .createRegistrar ∈ s.before (.register k) := by
  cases video : s.config.videoEnabled <;> cases audio : s.config.audioEnabled <;>
    simp [before, plan, video, audio]

theorem service_not_before (s : Served) (k : Service) : k ∉ (s.before (.register k)).filterMap Step.service? := by
  cases k <;> cases video : s.config.videoEnabled <;> cases audio : s.config.audioEnabled <;>
    simp only [before, plan, video, audio] <;> decide

theorem services_before (s : Served) : (s.before .createRegistrar).filterMap Step.service? = [] := by
  cases video : s.config.videoEnabled <;> cases audio : s.config.audioEnabled <;>
    simp only [before, plan, video, audio] <;> decide

end Served

/-- What only the last steps of a start settle. -/
def Handles.settled (h : Handles) : Option Int × Option Int × List Service × Option Registrar :=
  (h.primary, h.companion, h.registered, h.registrar)

namespace Step

variable {w : World} {s : Served} {h : Handles}

theorem factory_settled (c : Call) (put : Handles → Handles) (same : (put h).settled = h.settled) :
    (factory w c put h).state.settled = h.settled := by
  rw [factory_apply]
  cases w.reply c with
  | done => exact same
  | nothing | failed text => rfl

theorem request_settled (c : Call) : (request w c h).state.settled = h.settled := by
  rw [request_apply]
  cases w.reply c <;> rfl

/-- The steps before the listening one, and the binding of the registrar, settle nothing. -/
theorem act_settled {step : Step} (early : step ≠ .startServer ∧ step ≠ .createRegistrar ∧ step.service? = none) :
    (act w s step h).state.settled = h.settled := by
  cases step with
  | createEngine => rw [act, Run.update_bind, factory_settled _ _ rfl]; rfl
  | createSink =>
    rw [act, makeSink]
    cases s.factories.sink with
    | builtIn => rfl
    | external => exact factory_settled _ _ rfl
  | setSinkLevel =>
    cases there : h.sink with
    | none => rw [act_setSinkLevel_of_none there]
    | some sink => rw [act_setSinkLevel_of_some there]; rfl
  | createVideo =>
    rw [act, Run.read_bind]
    cases s.factories.video with
    | false => rfl
    | true => exact factory_settled _ _ rfl
  | createAudio =>
    rw [act, Run.read_bind]
    cases s.factories.audio with
    | false => rfl
    | true => exact factory_settled _ _ rfl
  | skipVideo | skipAudio => rfl
  | startServer => exact absurd rfl early.1
  | createRegistrar => exact absurd rfl early.2.1
  | register k => exact absurd early.2.2 (by simp [service?])
  | configureDisplay | configurePorts | bindSink | startVideo | startAudio | askPort | bindRegistrar =>
    exact request_settled _

end Step

namespace Served

variable {s : Served} {w : World} {passed : List Step} {step : Step} {h : Handles}

theorem Stands.sink (stands : s.Stands w passed h) (made : .sink ∈ passed.filterMap Step.makes?) :
    ∃ sink, h.sink = some sink ∧ sink.origin = s.factories.sink := by
  have there := stands.origin .sink
  rw [if_pos made] at there
  exact Option.map_eq_some_iff.mp there

theorem Stands.unpublished {k : Service} {a : Advertiser} (stands : s.Stands w passed h)
    (fresh : k ∉ passed.filterMap Step.service?) (there : h.registrar = some (.builtIn a)) :
    a.records.lookup k = none := by
  refine List.lookup_eq_none_iff.mpr fun r member => bne_iff_ne.mpr ?_
  rintro rfl
  exact fresh ((stands.advertiser a there).2 ▸ List.mem_map_of_mem member)

theorem Stands.act_goes (stands : s.Stands w (s.before step) h) : Step.Goes w s step (step.act w s h) := by
  cases step with
  | createEngine => exact Step.act_createEngine_goes
  | createSink => exact Step.act_createSink_goes
  | setSinkLevel =>
    obtain ⟨sink, there, origin⟩ := stands.sink (s.sink_before (by decide))
    exact Step.act_setSinkLevel_goes there origin
  | createVideo =>
    obtain ⟨sink, there, -⟩ := stands.sink (s.sink_before (by decide))
    exact Step.act_createVideo_goes (by rw [there]; rfl)
  | createAudio =>
    obtain ⟨sink, there, -⟩ := stands.sink (s.sink_before (by decide))
    have video : h.video = s.config.videoEnabled := by
      have shown := stands.origin .video
      simp only [s.video_before] at shown
      cases enabled : s.config.videoEnabled <;> cases seen : h.video <;>
        simp_all [Handles.origin?, Origin.ofPresent, originOf]
    exact Step.act_createAudio_goes (by rw [there]; rfl) video
  | skipVideo | skipAudio =>
    exact Step.goes_silently rfl rfl rfl rfl (by simp [Step.act, Entry.isRelease])
  | startServer => exact Step.act_startServer_goes
  | createRegistrar => exact Step.act_createRegistrar_goes (stands.primary (s.startServer_before (.inl rfl)))
  | register k =>
    have primary := stands.primary (s.startServer_before (.inr ⟨k, rfl⟩))
    have created := s.createRegistrar_before k
    refine Step.act_register_goes (Step.servicePort_eq primary (stands.companion created)) ?_ fun a there => ?_
    · have made : Stage.discovery ∈ (s.before (.register k)).filterMap Step.makes? :=
        List.mem_filterMap.mpr ⟨_, created, rfl⟩
      have registrar := stands.origin .discovery
      rwa [if_pos made] at registrar
    · exact ⟨(stands.advertiser a there).1, stands.unpublished (s.service_not_before k) there⟩
  | configureDisplay | configurePorts | bindSink | startVideo | startAudio | askPort | bindRegistrar =>
    exact Step.goes_request rfl rfl ⟨rfl, rfl⟩ h


theorem Stands.origin_run (stands : s.Stands w passed h) (through : (step.run w s h).outcome = .ok ()) (j : Stage) :
    (step.run w s h).state.origin? j =
      if j ∈ (passed ++ [step]).filterMap Step.makes? then some (s.originOf j) else none := by
  rw [Step.origin?_run, stands.origin, through]
  by_cases made : step.makes? = some j
  · simp [made, Except.isOk, Except.toBool]
  · simp [made]

theorem services_concat (silent : step.service? = none) :
    (passed ++ [step]).filterMap Step.service? = passed.filterMap Step.service? := by
  rw [List.filterMap_append, List.filterMap_cons_none silent, List.filterMap_nil, List.append_nil]

theorem Stands.early (stands : s.Stands w passed h) (through : (step.run w s h).outcome = .ok ())
    (early : step ≠ .startServer ∧ step ≠ .createRegistrar ∧ step.service? = none) :
    s.Stands w (passed ++ [step]) (step.run w s h).state := by
  obtain ⟨primary, companion, registered, registrar⟩ : (step.act w s h).state.primary = h.primary ∧
      (step.act w s h).state.companion = h.companion ∧ (step.act w s h).state.registered = h.registered ∧
      (step.act w s h).state.registrar = h.registrar := by
    simpa [Handles.settled] using Step.act_settled early
  refine ⟨stands.origin_run through, fun member => ?_, fun member => ?_, ?_, fun a there => ?_⟩
  · refine primary.trans (stands.primary ?_)
    exact (List.mem_append.mp member).resolve_right fun last => early.1 (List.mem_singleton.mp last).symm
  · refine companion.trans (stands.companion ?_)
    exact (List.mem_append.mp member).resolve_right fun last => early.2.1 (List.mem_singleton.mp last).symm
  · rw [services_concat early.2.2]
    exact registered.trans stands.registered
  · rw [services_concat early.2.2]
    exact stands.advertiser a (registrar.symm.trans there)

theorem Stands.startServer (stands : s.Stands w passed h) (through : (Step.startServer.run w s h).outcome = .ok ()) :
    s.Stands w (passed ++ [.startServer]) (Step.startServer.run w s h).state := by
  have state : (Step.startServer.run w s h).state = { h with primary := some (s.primaryPort w) } := by
    have ok := (Step.run_eq_ok_iff rfl).mp through
    rw [Step.run]
    rw [Step.act] at ok ⊢
    cases refusal : (w.reply (.startServer (Step.requestedPort s.config))).refusal? with
    | none => rw [Run.perform_bind_of_heard refusal]; rfl
    | some text => rw [Run.perform_bind_of_refused refusal] at ok; cases ok
  have origin := stands.origin_run through
  rw [state] at origin ⊢
  refine ⟨origin, fun _ => rfl, fun member => stands.companion (by simpa using member), ?_, fun a there => ?_⟩
  · rw [services_concat rfl]
    exact stands.registered
  · rw [services_concat rfl]
    exact stands.advertiser a there

theorem Stands.createRegistrar (stands : s.Stands w passed h) (listens : .startServer ∈ passed)
    (silent : passed.filterMap Step.service? = []) (through : (Step.createRegistrar.run w s h).outcome = .ok ()) :
    s.Stands w (passed ++ [.createRegistrar]) (Step.createRegistrar.run w s h).state := by
  obtain ⟨registrar, own, state⟩ : ∃ registrar, (∀ a, registrar = .builtIn a → a = s.advertiser w) ∧
      (Step.createRegistrar.run w s h).state =
        { h with registrar := some registrar, companion := some (s.portOf w .airplay) } := by
    have ok := (Step.run_eq_ok_iff rfl).mp through
    rw [Step.run]
    cases source : s.factories.registrar with
    | builtIn =>
      cases responder : w.responderFault? with
      | none =>
        rw [Step.act_createRegistrar_of_builtIn source responder (stands.primary listens)]
        exact ⟨_, fun a same => (Registrar.builtIn.inj same).symm, rfl⟩
      | some text =>
        rw [Step.act_createRegistrar_of_some source responder] at ok
        cases ok
    | external =>
      rw [Step.act_createRegistrar_of_external source (stands.primary listens)] at ok ⊢
      rw [Step.factory_apply, Step.factory_eq_ok_iff.mp ok]
      exact ⟨.external, by simp, rfl⟩
  have origin := stands.origin_run through
  rw [state] at origin ⊢
  refine ⟨origin, fun member => stands.primary (by simpa using member), fun _ => rfl, ?_, fun a there => ?_⟩
  · rw [services_concat rfl]
    exact stands.registered
  · rw [services_concat rfl, silent, own a (Option.some.inj there)]
    exact ⟨rfl, rfl⟩

theorem Stands.register {k : Service} (stands : s.Stands w passed h) (fresh : k ∉ passed.filterMap Step.service?)
    (through : ((Step.register k).run w s h).outcome = .ok ()) :
    s.Stands w (passed ++ [.register k]) ((Step.register k).run w s h).state := by
  have services : (passed ++ [Step.register k]).filterMap Step.service? = passed.filterMap Step.service? ++ [k] := by
    rw [List.filterMap_append]
    rfl
  obtain ⟨registrar, grown, state⟩ : ∃ registrar,
      (∀ a, registrar = some (.builtIn a) → ∃ b r, h.registrar = some (.builtIn b) ∧ a = b.add k r) ∧
      ((Step.register k).run w s h).state = { h with registrar, registered := h.registered ++ [k] } := by
    have ok := (Step.run_eq_ok_iff rfl).mp through
    rw [Step.act_register_apply] at ok
    rw [Step.run, Step.act_register_apply]
    dsimp only at ok ⊢
    by_cases builtIn : ∃ a, h.registrar = some (.builtIn a)
    · obtain ⟨a, there⟩ := builtIn
      rw [Release.onRegistrar_of_builtIn there, Advertiser.register_of_absent (stands.unpublished fresh there)] at ok ⊢
      have published : (Advertiser.publish w k (Step.servicePort h k) a).outcome = .ok () := by
        cases outcome : (Advertiser.publish w k (Step.servicePort h k) a).outcome with
        | ok u => rfl
        | error e => rw [outcome] at ok; cases ok
      obtain ⟨r, added⟩ := Advertiser.publish_state_of_ok published
      refine ⟨some (.builtIn (a.add k r)), fun b same => ⟨a, r, there, by simpa using same.symm⟩, ?_⟩
      rw [published, added]
      rfl
    · rw [Release.onRegistrar_of_not_builtIn fun a same => builtIn ⟨a, same⟩, Run.perform_eq] at ok ⊢
      refine ⟨h.registrar, fun a same => absurd ⟨a, same⟩ builtIn, ?_⟩
      cases refusal : (w.reply (.registerService k (Step.servicePort h k))).refusal? with
      | none => rfl
      | some text => rw [refusal] at ok; cases ok
  have origin := stands.origin_run through
  rw [state] at origin ⊢
  refine ⟨origin, fun member => stands.primary (by simpa using member),
    fun member => stands.companion (by simpa using member), ?_, fun a there => ?_⟩
  · rw [services, ← stands.registered]
  · obtain ⟨b, r, before, rfl⟩ := grown a there
    obtain ⟨same, records⟩ := stands.advertiser b before
    rw [services, ← records]
    exact ⟨same, by simp [Advertiser.add]⟩

theorem Stands.run (stands : s.Stands w (s.before step) h) (through : (step.run w s h).outcome = .ok ()) :
    s.Stands w (s.before step ++ [step]) (step.run w s h).state := by
  cases step with
  | startServer => exact stands.startServer through
  | createRegistrar => exact stands.createRegistrar (s.startServer_before (.inl rfl)) s.services_before through
  | register k => exact stands.register (s.service_not_before k) through
  | _ => exact stands.early through (by simp [Step.service?])

/-- How the last steps of a plan go: in their order, up to the first one that fails. -/
structure Courses (s : Served) (w : World) (steps : List Step) (x : Execution StartError Handles Unit) : Prop where
  asks : asked x.events =
    (steps.takeWhile (Step.passes w s) ++ (steps.dropWhile (Step.passes w s)).take 1).filterMap (Step.call? w s)
  spares : ∀ e ∈ x.events, e.isRelease = false
  ends : match steps.dropWhile (Step.passes w s) with
    | [] => x.outcome = .ok () ∧ s.Stands w s.plan x.state
    | step :: _ => ∃ detail, step.failure? w s = some detail ∧ x.outcome = .error (step.error detail)

theorem Stands.courses {steps : List Step} (stands : s.Stands w passed h) (split : s.plan = passed ++ steps) :
    s.Courses w steps (Run.each (Step.run w s) steps h) := by
  induction steps generalizing passed h with
  | nil => exact ⟨rfl, nofun, rfl, by rwa [split, List.append_nil]⟩
  | cons step rest ih =>
    obtain rfl := before_of_split split
    have goes := stands.act_goes
    cases failure : step.failure? w s with
    | none =>
      have passes : step.passes w s = true := by rw [Step.passes, failure]; rfl
      have through : (step.run w s h).outcome = .ok () := by rw [Step.run, goes.ends, failure]
      have later := ih (stands.run through) (by rw [split, List.append_assoc]; rfl)
      rw [Run.each_cons, Run.bind_of_ok through]
      refine ⟨?_, ?_, by rw [List.dropWhile_cons_of_pos passes]; exact later.ends⟩
      · rw [List.takeWhile_cons_of_pos passes, List.dropWhile_cons_of_pos passes, List.cons_append, asked_append,
          later.asks]
        show asked (step.act w s h).events ++ _ = _
        rw [goes.asks]
        cases asks : step.call? w s <;> simp [asks]
      · intro e member
        exact (List.mem_append.mp member).elim (goes.spares e) (later.spares e)
    | some detail =>
      have fails : ¬step.passes w s = true := by rw [Step.passes, failure]; simp
      have ends : (step.run w s h).outcome = .error (step.error detail) := by rw [Step.run, goes.ends, failure]
      rw [Run.each_cons, Run.bind_of_error ends]
      refine ⟨?_, goes.spares, by rw [List.dropWhile_cons_of_neg fails]; exact ⟨detail, failure, rfl⟩⟩
      rw [List.takeWhile_cons_of_neg fails, List.dropWhile_cons_of_neg fails]
      show asked (step.act w s h).events = _
      rw [goes.asks]
      cases asks : step.call? w s <;> simp [asks]

end Served

namespace Step

/-- The steps of a start with both renderers, in their order. -/
def sequence : List Step :=
  [createEngine, configureDisplay, configurePorts, createSink, setSinkLevel, bindSink, createVideo, createAudio,
   startVideo, startAudio, askPort, startServer, createRegistrar, bindRegistrar, register .raop, register .airplay]

/-- The exit code of a start that the step ends. -/
def exitCode? : Step → Option Nat
  | createEngine | configureDisplay | configurePorts | askPort | startServer => some 2
  | createSink | bindSink => some 3
  | createVideo | skipVideo | startVideo => some 4
  | createAudio | skipAudio | startAudio => some 5
  | createRegistrar | bindRegistrar | register _ => some 6
  | setSinkLevel => none

def isSkip : Step → Bool
  | skipVideo | skipAudio => true
  | _ => false

theorem passes_of_skip {w : World} {s : Served} {step : Step} (skip : step.isSkip = true) : step.passes w s = true := by
  cases step <;> first | rfl | cases skip

theorem call?_of_skip {w : World} {s : Served} {step : Step} (skip : step.isSkip = true) : step.call? w s = none := by
  cases step <;> first | rfl | cases skip

theorem exitCode?_eq (step : Step) : step.exitCode? = step.stage?.map Stage.exitCode := by
  cases step <;> rfl

end Step

namespace Served

/-- Whether a start takes the step, which may be one of a renderer. -/
def takes (s : Served) : Step → Bool
  | .createVideo | .startVideo => s.config.videoEnabled
  | .createAudio | .startAudio => s.config.audioEnabled
  | _ => true

/-- The steps that a start takes, in their order. -/
def course (s : Served) : List Step := Step.sequence.filter s.takes

/-- The collaborators after a start that got through. -/
structure Complete (s : Served) (w : World) (h : Handles) : Prop where
  engine : h.engine = true
  sink : h.sink.map (·.origin) = some s.factories.sink
  video : h.video = s.config.videoEnabled
  audio : h.audio = s.config.audioEnabled
  registrar : h.registrar.map (·.origin) = some s.factories.registrar
  ports : h.primary = some (s.primaryPort w) ∧ h.companion = some (s.portOf w .airplay)
  registered : h.registered = [.raop, .airplay]

variable {s : Served} {w : World} {h : Handles}

theorem course_eq (s : Served) : s.course = s.plan.filter fun step => !step.isSkip := by
  cases video : s.config.videoEnabled <;> cases audio : s.config.audioEnabled <;>
    simp [course, Step.sequence, takes, plan, video, audio, Step.isSkip, List.filter_cons]

theorem passes_eq (s : Served) (w : World) :
    (fun step : Step => !!step.isSkip || step.passes w s) = Step.passes w s := by
  funext step
  cases skip : step.isSkip with
  | true => rw [Step.passes_of_skip skip]; rfl
  | false => rfl

theorem takeWhile_course (s : Served) (w : World) :
    s.course.takeWhile (Step.passes w s) = (s.plan.takeWhile (Step.passes w s)).filter fun step => !step.isSkip := by
  rw [course_eq, List.takeWhile_filter, passes_eq]

theorem dropWhile_course (s : Served) (w : World) :
    s.course.dropWhile (Step.passes w s) = (s.plan.dropWhile (Step.passes w s)).filter fun step => !step.isSkip := by
  rw [course_eq, List.dropWhile_filter, passes_eq]

theorem filterMap_call?_filter (s : Served) (w : World) (steps : List Step) :
    (steps.filter fun step => !step.isSkip).filterMap (Step.call? w s) = steps.filterMap (Step.call? w s) := by
  rw [List.filterMap_filter]
  congr 1
  funext step
  cases skip : step.isSkip with
  | true => rw [Step.call?_of_skip skip]; rfl
  | false => rfl

theorem Stands.complete (stands : s.Stands w s.plan h) : s.Complete w h := by
  have origin := stands.origin
  simp only [s.makes_plan] at origin
  have present : ∀ (there enabled : Bool), Origin.ofPresent there = (if enabled then some .external else none) →
      there = enabled := by decide
  refine ⟨present _ true ((origin .engine).trans (if_pos (by simp))), (origin .sink).trans (if_pos (by simp)),
    present _ _ ((origin .video).trans (ite_congr (by simp) (fun _ => rfl) fun _ => rfl)),
    present _ _ ((origin .audio).trans (ite_congr (by simp) (fun _ => rfl) fun _ => rfl)),
    (origin .discovery).trans (if_pos (by simp)), ⟨stands.primary ?_, stands.companion ?_⟩, ?_⟩
  · simp [plan]
  · simp [plan]
  · rw [stands.registered]
    cases video : s.config.videoEnabled <;> cases audio : s.config.audioEnabled <;>
      simp only [plan, video, audio] <;> rfl

theorem asked_before_release {events : List Entry} (stop : ∀ e ∈ events, e.isOfStop = true) :
    asked (events.takeWhile fun e => !e.isRelease) = [] := by
  refine asked_eq_nil fun e member => ?_
  have own := stop e ((List.takeWhile_prefix _).subset member)
  have spared := List.mem_takeWhile_imp (p := fun e : Entry => !e.isRelease) member
  cases e with
  | call c =>
    rw [Entry.isRelease, show c.isOfStop = true from own] at spared
    cases spared
  | log r | cycle n | raised f => rfl

theorem asked_rollback (w : World) (h : Handles) (f : StartFailure) :
    asked ((.log (failureRecord f) :: (Release.trail w Release.order h).flatMap Release.account).takeWhile
      fun e => !e.isRelease) = [] := by
  have releases := (Handles.release_leaves (ε := StartError) w h).2
  rw [Handles.release_apply] at releases
  exact asked_before_release (List.forall_mem_cons.mpr ⟨rfl, releases⟩)

/-- A start makes the calls of its course in their order.  If no step fails, it makes all of them and gives all
collaborators; otherwise it makes none behind the first step that fails, and that step gives its error. -/
theorem start_takes_course (s : Served) (w : World) (t : Session) :
    let x := s.start w t
    match s.course.dropWhile (Step.passes w s) with
    | [] => asked x.events = s.course.filterMap (Step.call? w s) ∧
        ∃ h, x.outcome = .ok h ∧ x.state.handles = some h ∧ s.Complete w h
    | step :: _ =>
      asked (x.events.takeWhile fun e => !e.isRelease) =
          (s.course.takeWhile (Step.passes w s) ++ [step]).filterMap (Step.call? w s) ∧
        ∃ detail, step.failure? w s = some detail ∧
          match step.exitCode? with
          | some code => ∃ f, x.outcome = .error (.failed f) ∧ f.detail = detail ∧ f.stage.exitCode = code
          | none => x.outcome = .error (.fault (.collaborator detail)) := by
  obtain ⟨asks, spares, ends⟩ := (s.stands_nothing w).courses (List.nil_append s.plan).symm
  have spares : ∀ e ∈ (Run.each (Step.run w s) s.plan {}).events, (!e.isRelease) = true := fun e member => by
    rw [spares e member]
    rfl
  intro x
  rw [dropWhile_course, takeWhile_course]
  cases rest : s.plan.dropWhile (Step.passes w s) with
  | nil =>
    rw [rest] at asks ends
    obtain ⟨ok, stands⟩ := ends
    have whole : s.plan.takeWhile (Step.passes w s) = s.plan := by
      simpa [rest] using List.takeWhile_append_dropWhile (p := Step.passes w s) (l := s.plan)
    simp only [x, start_apply, ok, List.filter_nil]
    refine ⟨?_, _, rfl, rfl, stands.complete⟩
    rw [asks, whole, course_eq, filterMap_call?_filter]
    simp
  | cons step others =>
    rw [rest] at asks ends
    obtain ⟨detail, failure, ends⟩ := ends
    have own : step.isSkip = false := by
      cases skip : step.isSkip with
      | false => rfl
      | true =>
        have passes := Step.passes_of_skip (w := w) (s := s) skip
        simp [Step.passes, failure] at passes
    rw [List.filter_cons_of_pos (by simp [own])]
    dsimp only
    rw [List.filterMap_append, filterMap_call?_filter, ← List.filterMap_append]
    cases charged : step.stage? with
    | some stage =>
      have failed : Step.error step detail = .failed ⟨stage, detail⟩ := by rw [Step.error, charged]
      simp only [x, start_apply, ends, failed]
      refine ⟨?_, detail, failure, ?_⟩
      · rw [List.takeWhile_append_of_pos spares, asked_append]
        exact (congrArg _ (asked_rollback ..)).trans ((List.append_nil _).trans asks)
      · rw [Step.exitCode?_eq, charged]
        exact ⟨_, rfl, rfl, rfl⟩
    | none =>
      have fault : Step.error step detail = .fault (.collaborator detail) := by rw [Step.error, charged]
      simp only [x, start_apply, ends, fault]
      refine ⟨?_, detail, failure, ?_⟩
      · rw [List.takeWhile_eq_self_iff.mpr spares]
        exact asks
      · rw [Step.exitCode?_eq, charged]
        rfl

end Served

end CastLaunch
