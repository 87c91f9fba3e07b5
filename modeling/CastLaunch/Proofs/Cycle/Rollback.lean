import CastLaunch.Proofs.Cycle.Steps

/-!
A start that fails.  When the failure is charged to a resource, the start releases each
collaborator that its factories gave, and keeps none.  There is one way past that: a
sink from outside that refuses its level ends the start with the sink's own error, and
the engine and the sink stay behind.
-/

namespace CastLaunch

namespace Session

theorem each_onHandles {ε α : Type} (f : α → Run ε Handles Unit) (items : List α) {t : Session} {h : Handles}
    (ht : t.handles = some h) :
    Run.each (fun a => onHandles (f a)) items t =
      ⟨(Run.each f items h).outcome, { t with handles := some (Run.each f items h).state },
        (Run.each f items h).events⟩ := by
  induction items generalizing t h with
  | nil => simp [← ht]
  | cons a r ih =>
    have first : onHandles (f a) t = ⟨(f a h).outcome, { t with handles := some (f a h).state }, (f a h).events⟩ := by
      rw [onHandles, Run.within_apply, ht]
      rfl
    rw [Run.each_cons, Run.each_cons]
    cases ho : (f a h).outcome with
    | error e => rw [Run.bind_of_error (e := e) (by rw [first, ho]), Run.bind_of_error ho, first]
    | ok u => rw [Run.bind_of_ok (a := u) (by rw [first, ho]), Run.bind_of_ok ho, first, ih rfl]

end Session

namespace Step

theorem factory_eq_ok_iff {w : World} {c : Call} {put : Handles → Handles} {h : Handles} :
    (factory w c put h).outcome = .ok true ↔ w.reply c = .done := by
  rw [factory_apply]
  cases w.reply c <;> simp

theorem request_eq_ok_iff {w : World} {c : Call} {h : Handles} :
    (request w c h).outcome = .ok true ↔ ∀ text, w.reply c ≠ .failed text := by
  rw [request_apply]
  cases w.reply c <;> simp

theorem run_eq_ok_iff {w : World} {s : Served} {step : Step} {j : Stage} (charged : step.stage? = some j) {h : Handles} :
    (step.run w s h).outcome = .ok () ↔ (step.act w s h).outcome = .ok true :=
  judge_eq_ok_iff charged _

theorem act_createEngine_eq_ok_iff (w : World) (s : Served) (h : Handles) :
    (act w s .createEngine h).outcome = .ok true ↔ w.reply (.createEngine Limits.engineCapacity) = .done := by
  rw [act, Run.bind_of_ok (a := ()) rfl]
  exact factory_eq_ok_iff

theorem act_createSink_eq_ok_iff (w : World) (s : Served) (h : Handles) :
    (act w s .createSink h).outcome = .ok true ↔ (s.factories.sink = .external → w.reply .createSink = .done) := by
  rw [act, makeSink]
  cases s.factories.sink with
  | builtIn => simp
  | external => simp [factory_eq_ok_iff]

theorem run_setSinkLevel_eq_fault_iff {w : World} {s : Served} {h : Handles} {sink : Sink} (hs : h.sink = some sink)
    (e : Fault) :
    (run w s .setSinkLevel h).outcome = .error (.fault e) ↔
      sink.origin = .external ∧
        ∃ text, w.reply (.setSinkLevel s.config.sinkLevel) = .failed text ∧ e = .collaborator text := by
  rw [run, act_setSinkLevel_of_some hs, Sink.setLevel, Sink.announce_update_apply]
  dsimp only
  cases ho : sink.origin with
  | builtIn => simp [Sink.announce_of_builtIn ho, Except.map, judge]
  | external =>
    rw [Sink.announce_of_external ho, Run.perform_apply]
    cases w.reply (.setSinkLevel s.config.sinkLevel) <;> simp [Except.map, judge, stage?, eq_comm]

end Step

namespace Served

def failureRecord (f : StartFailure) : LogRecord := ⟨.error, .cycle, f.message⟩

theorem start_apply (s : Served) (w : World) (t : Session) :
    let x := Run.each (Step.run w s) s.plan {}
    s.start w t =
      match x.outcome with
      | .ok () => ⟨.ok x.state, { t with handles := some x.state }, x.events⟩
      | .error (.failed f) => ⟨.error (.failed f), { t with handles := none },
          x.events ++ .log (failureRecord f) :: (Release.trail w Release.order x.state).flatMap Release.account⟩
      | .error (.fault e) => ⟨.error (.fault e), { t with handles := some x.state }, x.events⟩ := by
  intro x
  have whole : ∀ {ε α : Type} (y : Run ε Session α), Run.within id (fun t _ => t) y = y := fun _ => rfl
  have steps : Run.each (fun step => Session.onHandles (Step.run w s step)) s.plan { t with handles := some {} } =
      ⟨x.outcome, { t with handles := some x.state }, x.events⟩ := Session.each_onHandles _ _ rfl
  have releases : Run.each (fun r => Session.onHandles (Release.run w r)) Release.order
        { t with handles := some x.state } =
      (⟨.ok (), { t with handles := some (Release.leaves w Release.order x.state) },
        (Release.trail w Release.order x.state).flatMap Release.account⟩ : Execution StartError Session Unit) := by
    rw [Session.each_onHandles _ _ rfl, Release.each_run_apply]
  unfold start startAmid
  simp only [whole, Run.eachAmid_nil]
  rw [Run.bind_of_ok (a := ()) rfl]
  simp only [Session.setHandles, Run.update_apply, List.nil_append]
  rw [Run.bind_of_ok (a := x.outcome) (by rw [Run.attempt_apply, steps])]
  simp only [Run.attempt_apply, steps]
  cases x.outcome with
  | ok u => simp
  | error e =>
    cases e with
    | fault e => simp
    | failed f =>
      simp only [Run.bind_apply, Run.log_apply, releases, Run.update_apply, Run.fail_apply, List.append_nil]
      rfl

theorem start_of_ok {s : Served} {w : World} {t : Session} {h : Handles} (ok : (s.start w t).outcome = .ok h) :
    h = s.reached w ∧ (s.start w t).events = (Run.each (Step.run w s) s.plan {}).events := by
  rw [start_apply] at ok ⊢
  cases ho : (Run.each (Step.run w s) s.plan {}).outcome with
  | ok u =>
    rw [ho] at ok
    cases ok
    exact ⟨rfl, rfl⟩
  | error e =>
    rw [ho] at ok
    cases e <;> cases ok

/-- The start comes as far as the level of a sink from outside, and the sink refuses it. -/
structure LevelRefused (s : Served) (w : World) : Prop where
  external : s.factories.sink = .external
  engine : w.reply (.createEngine Limits.engineCapacity) = .done
  display : ∀ text, w.reply (.configureDisplay s.config.display) ≠ .failed text
  ports : ∀ text, w.reply (.configurePorts s.config.tcp s.config.udp) ≠ .failed text
  sink : w.reply .createSink = .done
  level : ∃ text, w.reply (.setSinkLevel s.config.sinkLevel) = .failed text

def opening : List Step := [.createEngine, .configureDisplay, .configurePorts, .createSink]

def later (s : Served) : List Step := s.plan.drop 5

theorem plan_eq (s : Served) : s.plan = opening ++ .setSinkLevel :: s.later := rfl

theorem setSinkLevel_not_mem_later (s : Served) : Step.setSinkLevel ∉ s.later := by
  cases hv : s.config.videoEnabled <;> cases ha : s.config.audioEnabled <;> simp [later, plan, hv, ha]

theorem setSinkLevel_mem_of_fault {s : Served} {w : World} {steps : List Step} {h : Handles} {e : Fault}
    (fault : (Run.each (Step.run w s) steps h).outcome = .error (.fault e)) : Step.setSinkLevel ∈ steps := by
  obtain ⟨step, rest, t, events, split, -, -, failed⟩ := Run.each_of_error fault
  obtain ⟨rfl, -⟩ := Step.eq_setSinkLevel_of_fault failed
  rw [split]
  simp

/-- A failure without a resource to charge is one of the level, behind the opening. -/
theorem fault_iff (s : Served) (w : World) (e : Fault) :
    (Run.each (Step.run w s) s.plan {}).outcome = .error (.fault e) ↔
      (Run.each (Step.run w s) opening {}).outcome = .ok () ∧
        (Step.run w s .setSinkLevel (Run.each (Step.run w s) opening {}).state).outcome = .error (.fault e) := by
  rw [plan_eq]
  cases ho : (Run.each (Step.run w s) opening {}).outcome with
  | error e' =>
    rw [Run.each_append_of_error ho, ho]
    refine ⟨fun same => ?_, fun h => nomatch h.1⟩
    have early := setSinkLevel_mem_of_fault (ho.trans same)
    simp [opening] at early
  | ok u =>
    rw [Run.each_append_of_ok ho, Run.each_cons]
    simp only [true_and]
    cases hl : (Step.run w s .setSinkLevel (Run.each (Step.run w s) opening {}).state).outcome with
    | error e' => rw [Run.bind_of_error hl]
    | ok u =>
      rw [Run.bind_of_ok hl]
      refine ⟨fun fault => ?_, fun h => nomatch h⟩
      exact absurd (setSinkLevel_mem_of_fault fault) (setSinkLevel_not_mem_later s)

theorem each_cons_eq_ok_iff {s : Served} {w : World} {step : Step} {rest : List Step} {h : Handles} :
    (Run.each (Step.run w s) (step :: rest) h).outcome = .ok () ↔
      (step.run w s h).outcome = .ok () ∧ (Run.each (Step.run w s) rest (step.run w s h).state).outcome = .ok () := by
  rw [Run.each_cons]
  cases ho : (step.run w s h).outcome with
  | error e => rw [Run.bind_of_error ho]; simp
  | ok u => rw [Run.bind_of_ok ho]; simp

theorem opening_eq_ok_iff (s : Served) (w : World) :
    (Run.each (Step.run w s) opening {}).outcome = .ok () ↔
      w.reply (.createEngine Limits.engineCapacity) = .done ∧
      (∀ text, w.reply (.configureDisplay s.config.display) ≠ .failed text) ∧
      (∀ text, w.reply (.configurePorts s.config.tcp s.config.udp) ≠ .failed text) ∧
      (s.factories.sink = .external → w.reply .createSink = .done) := by
  simp only [opening, each_cons_eq_ok_iff, Run.each_nil, Run.pure_apply, and_true]
  refine and_congr ?_ (and_congr ?_ (and_congr ?_ ?_))
  · exact (Step.run_eq_ok_iff rfl).trans (Step.act_createEngine_eq_ok_iff ..)
  · exact (Step.run_eq_ok_iff rfl).trans Step.request_eq_ok_iff
  · exact (Step.run_eq_ok_iff rfl).trans Step.request_eq_ok_iff
  · exact (Step.run_eq_ok_iff rfl).trans (Step.act_createSink_eq_ok_iff ..)

theorem sink_of_opening {s : Served} {w : World} (through : (Run.each (Step.run w s) opening {}).outcome = .ok ()) :
    ∃ sink, (Run.each (Step.run w s) opening {}).state.sink = some sink ∧ sink.origin = s.factories.sink := by
  have there := origin?_each s w opening {} .sink
  rw [Run.done_of_ok through, if_pos (by decide)] at there
  simpa [Handles.origin?, originOf] using there

theorem fault_iff_levelRefused (s : Served) (w : World) (e : Fault) :
    (Run.each (Step.run w s) s.plan {}).outcome = .error (.fault e) ↔
      s.LevelRefused w ∧ ∃ text, w.reply (.setSinkLevel s.config.sinkLevel) = .failed text ∧ e = .collaborator text := by
  rw [fault_iff]
  constructor
  · intro ⟨through, fault⟩
    obtain ⟨sink, hs, origin⟩ := sink_of_opening through
    obtain ⟨engine, display, ports, made⟩ := (opening_eq_ok_iff s w).mp through
    obtain ⟨external, text, refused, he⟩ := (Step.run_setSinkLevel_eq_fault_iff hs e).mp fault
    rw [origin] at external
    exact ⟨⟨external, engine, display, ports, made external, text, refused⟩, text, refused, he⟩
  · intro ⟨h, refused⟩
    have through := (opening_eq_ok_iff s w).mpr ⟨h.engine, h.display, h.ports, fun _ => h.sink⟩
    obtain ⟨sink, hs, origin⟩ := sink_of_opening through
    exact ⟨through, (Step.run_setSinkLevel_eq_fault_iff hs e).mpr ⟨origin.trans h.external, refused⟩⟩

theorem created_of_levelRefused {s : Served} {w : World} (h : s.LevelRefused w) : s.created w = [.engine, .sink] := by
  obtain ⟨text, refused⟩ := h.level
  obtain ⟨through, fault⟩ := (fault_iff s w _).mp ((fault_iff_levelRefused s w _).mpr ⟨h, text, refused, rfl⟩)
  rw [created, plan_eq, Run.done_append_of_ok through]
  simp only [Run.done, fault]
  rfl

/-- What the releases from where the steps came to an end are about, each collaborator at its last release. -/
def rolledBack (s : Served) (w : World) : List Stage :=
  (((Release.trail w Release.order (s.reached w)).map (·.1)).filter Release.isLast).map Release.stage

theorem rolledBack_eq (s : Served) (w : World) :
    s.rolledBack w = [.engine, .discovery, .audio, .video, .sink].filter (s.reached w).has := by
  rw [rolledBack, Release.names_trail w Release.order_apart]
  simp only [Release.order, List.filter_cons, List.filter_nil, Release.applies_eq_has, Release.stage]
  cases (s.reached w).has .engine <;> cases (s.reached w).has .discovery <;> cases (s.reached w).has .audio <;>
    cases (s.reached w).has .video <;> cases (s.reached w).has .sink <;> rfl

theorem has_reached (s : Served) (w : World) (k : Stage) : (s.reached w).has k = true ↔ k ∈ s.created w := by
  rw [Handles.has, origin?_reached]
  split <;> simp_all

theorem endsByCall_reached (s : Served) (w : World) (k : Stage) :
    (s.reached w).endsByCall k = true ↔ k ∈ s.created w ∧ k.endsByCall (s.originOf k) = true := by
  rw [Handles.endsByCall, origin?_reached]
  split <;> simp_all

theorem stages_nodup : [Stage.engine, .discovery, .audio, .video, .sink].Nodup := by decide

theorem mem_stages (k : Stage) : k ∈ [Stage.engine, .discovery, .audio, .video, .sink] := by cases k <;> decide

/-- Each collaborator given is released once, and no other one is. -/
theorem rolledBack_perm (s : Served) (w : World) : (s.rolledBack w).Perm (s.created w) := by
  rw [rolledBack_eq]
  refine (List.perm_ext_iff_of_nodup (stages_nodup.filter _) (s.created_nodup w)).mpr fun k => ?_
  rw [List.mem_filter, has_reached]
  exact and_iff_right (mem_stages k)

theorem ended_rollback_perm (s : Served) (w : World) :
    (ended ((Release.trail w Release.order (s.reached w)).flatMap Release.account)).Perm
      ((s.created w).filter fun k => k.endsByCall (s.originOf k)) := by
  rw [Release.ended_trail w Release.order_apart]
  refine (List.perm_ext_iff_of_nodup (stages_nodup.filter _) ((s.created_nodup w).filter _)).mpr fun k => ?_
  rw [List.mem_filter, endsByCall_reached, List.mem_filter]
  exact and_iff_right (mem_stages k)

/-- A start that gives collaborators gives those that the session holds.  Any other start fails for one of
its resources and holds none; at its end it has released each collaborator that a factory gave, once, and
nothing else. -/
def AllOrNothing (s : Served) (w : World) (x : Execution StartError Session Handles) : Prop :=
  match x.outcome with
  | .ok h => x.state.handles = some h
  | .error (.fault _) => False
  | .error (.failed f) => x.state.handles = none ∧ (s.rolledBack w).Perm (s.created w) ∧
      (ended x.events).Perm ((s.created w).filter fun k => k.endsByCall (s.originOf k)) ∧
      x.events = (Run.each (Step.run w s) s.plan {}).events ++
        .log (failureRecord f) :: (Release.trail w Release.order (s.reached w)).flatMap Release.account

/-- What a refused level leaves behind: the sink's own error, an engine and a sink that nobody ends. -/
def LeftBehind (s : Served) (w : World) (x : Execution StartError Session Handles) : Prop :=
  (∃ text, w.reply (.setSinkLevel s.config.sinkLevel) = .failed text ∧ x.outcome = .error (.fault (.collaborator text))) ∧
    x.state.handles = some (s.reached w) ∧ s.created w = [.engine, .sink] ∧
    (∀ k, (s.reached w).has k = true ↔ k ∈ s.created w) ∧ ended x.events = []

theorem start_of_not_levelRefused {s : Served} {w : World} (h : ¬s.LevelRefused w) (t : Session) :
    s.AllOrNothing w (s.start w t) := by
  rw [start_apply]
  cases ho : (Run.each (Step.run w s) s.plan {}).outcome with
  | ok u => exact rfl
  | error e =>
    cases e with
    | fault e => exact absurd ((fault_iff_levelRefused s w e).mp ho).1 h
    | failed f =>
      refine ⟨rfl, s.rolledBack_perm w, ?_, rfl⟩
      rw [ended_append, Step.ended_each_run, List.nil_append]
      exact s.ended_rollback_perm w

theorem start_of_levelRefused {s : Served} {w : World} (h : s.LevelRefused w) (t : Session) :
    s.LeftBehind w (s.start w t) := by
  obtain ⟨text, refused⟩ := h.level
  have fault := (fault_iff_levelRefused s w (.collaborator text)).mpr ⟨h, text, refused, rfl⟩
  rw [start_apply]
  simp only [fault]
  exact ⟨⟨text, refused, rfl⟩, rfl, created_of_levelRefused h, has_reached s w, Step.ended_each_run ..⟩

/-- Starts are all or nothing, but for one failure. -/
theorem start_allOrNothing_iff (s : Served) (w : World) (t : Session) :
    (s.AllOrNothing w (s.start w t) ↔ ¬s.LevelRefused w) ∧ (s.created w).Nodup ∧
      (s.LevelRefused w → s.LeftBehind w (s.start w t)) := by
  refine ⟨⟨fun holds refused => ?_, fun h => start_of_not_levelRefused h t⟩, s.created_nodup w,
    fun refused => start_of_levelRefused refused t⟩
  obtain ⟨⟨text, -, fault⟩, -⟩ := start_of_levelRefused refused t
  rw [AllOrNothing, fault] at holds
  exact holds

end Served

end CastLaunch
