import CastLaunch.Proofs.Cycle.Rollback
import CastLaunch.Proofs.Lifecycle.Period

/-!
The phases around a running period.  What comes from outside while a cycle starts or
stops makes no difference to what is called, up to asides.  `Books` says what a part of
a lap adds to the accounts of the controller: the phases that it enters and what it
gives back.
-/

namespace CastLaunch

namespace Controller

variable {ε : Type}

namespace Drifts

variable {c d : Controller}

theorem withSession (h : Drifts c d) (t : Session) : Drifts c { d with session := t } := by
  refine ⟨?_, h.counted⟩
  rw [h.rest]

theorem visited (h : Drifts c d) : d.visited = c.visited := by rw [h.rest]

theorem relaunches (h : Drifts c d) : d.relaunches = c.relaunches := by rw [h.rest]

theorem cycles (h : Drifts c d) : d.cycles = c.cycles := by rw [h.rest]

theorem started (h : Drifts c d) : d.started = c.started := by rw [h.rest]

theorem stopped (h : Drifts c d) : d.stopped = c.stopped := by rw [h.rest]

theorem asked (h : Drifts c d) : d.asked = c.asked := by rw [h.rest]

end Drifts

/-- The later controller has entered the phases and given to stops what is listed. -/
structure Books (phases : List Phase) (stops : List (Option Handles)) (c d : Controller) : Prop where
  visited : d.visited = c.visited ++ phases
  stopped : d.stopped = c.stopped ++ stops
  relaunches : d.relaunches = c.relaunches + phases.count .relaunch
  cycles : d.cycles = c.cycles
  started : d.started = c.started
  counted : Counted c → Counted d

theorem Books.trans {c d e : Controller} {phases later : List Phase} {stops others : List (Option Handles)}
    (h : Books phases stops c d) (k : Books later others d e) : Books (phases ++ later) (stops ++ others) c e where
  visited := by rw [k.visited, h.visited, List.append_assoc]
  stopped := by rw [k.stopped, h.stopped, List.append_assoc]
  relaunches := by rw [k.relaunches, h.relaunches, List.count_append, Nat.add_assoc]
  cycles := k.cycles.trans h.cycles
  started := k.started.trans h.started
  counted := fun before => k.counted (h.counted before)

theorem Stays.books {c d : Controller} (h : Stays c d) : Books [] [] c d :=
  ⟨by simp [h.visited], by simp [h.stopped], h.relaunches, h.cycles, h.started, h.counted⟩

theorem Drifts.books {c d : Controller} (h : Drifts c d) : Books [] [] c d :=
  ⟨by simp [h.visited], by simp [h.stopped], h.relaunches, h.cycles, h.started, h.counted⟩

theorem books_running (c : Controller) : Books [.running] [] c (c.entered .running) :=
  ⟨rfl, (List.append_nil _).symm, rfl, rfl, rfl, id⟩

structure Beside (c d : Controller) (handles : Option Handles) : Prop where
  drifts : Drifts c d
  resting : Resting d
  handles : d.session.handles = handles

theorem Beside.settle {c d : Controller} {handles : Option Handles} (h : Beside c d handles) (timeout : Nat) (w : World)
    (events : List Event) : Beside c (Controller.settle timeout w events d : Execution ε Controller Unit).state handles :=
  ⟨h.drifts.trans (settle_of_resting _ _ _ h.resting).2, (settle_of_resting _ _ _ h.resting).1,
    (settle_stays timeout w events d).handles.trans h.handles⟩

theorem Beside.withSession {c d : Controller} {handles : Option Handles} (h : Beside c d handles) (t : Session) :
    Beside c { d with session := t } t.handles :=
  ⟨h.drifts.withSession t, ⟨h.resting.transition, h.resting.timer, h.resting.queue⟩, rfl⟩

theorem startAmid_alike (s : Served) (script : Script) {c : Controller} (r : Resting c) :
    (s.startAmid script.world (·.session) (fun t c => { c with session := t })
      (settle s.config.idleTimeout script.world) script.amidStart script.amidStop c).Alike
        (fun d t => Beside c d t.handles) (s.start script.world c.session) := by
  have parts : ∀ {ε α : Type} (x : Run ε Session α), (∀ t u : Session, t.handles = u.handles →
        (x t).outcome = (x u).outcome ∧ (x t).state.handles = (x u).state.handles ∧ (x t).events = (x u).events) →
      Run.Follows (fun d (t : Session) => Beside c d t.handles) (fun d (t : Session) => Beside c d t.handles)
        (Run.within (·.session) (fun t c => { c with session := t }) x) (Run.within id (fun t _ => t) x) := by
    intro ε α x same d t h
    obtain ⟨outcome, state, events⟩ := same d.session t h.handles
    have beside := h.withSession (x d.session).state
    exact ⟨outcome, ⟨beside.drifts, beside.resting, state⟩, congrArg outline events⟩
  have steps : ∀ {ε : Type} (x : Run ε Handles Unit),
      Run.Follows (fun d (t : Session) => Beside c d t.handles) (fun d (t : Session) => Beside c d t.handles)
        (Run.within (·.session) (fun t c => { c with session := t }) (Session.onHandles x))
        (Run.within id (fun t _ => t) (Session.onHandles x)) := by
    intro ε x
    refine parts _ fun t u h => ?_
    simp [Session.onHandles, h]
  refine Served.startAmid_follows (R := fun d t => Beside c d t.handles) (fun d t h => h.handles)
    (fun h => parts _ fun _ _ _ => ⟨rfl, rfl, rfl⟩) ?_ ?_ c c.session ⟨Drifts.refl c, r, rfl⟩
  · rw [Run.eachAmid_nil]
    exact Run.Follows.eachAmid (settle_ok _ _) (fun _ _ => outline_settle ..) (fun _ _ _ h => h.settle ..)
      (fun _ => steps _) _ _
  · rw [Run.eachAmid_nil]
    exact Run.Follows.eachAmid (settle_ok _ _) (fun _ _ => outline_settle ..) (fun _ _ _ h => h.settle ..)
      (fun _ => steps _) _ _

def begun (c : Controller) : Controller := { c.entered .starting with cycles := c.cycles + 1 }

def startEnd : Except StartError Handles → Except Fault (Except Nat Handles)
  | .ok h => .ok (.ok h)
  | .error (.failed f) => .ok (.error f.stage.exitCode)
  | .error (.fault e) => .error e

/-- The start of a cycle is the start of its collaborators, up to asides. -/
theorem start_apply (s : Served) (script : Script) {c : Controller} (r : Resting c) :
    let y := s.start script.world c.session
    ∃ d, Beside c.begun d y.state.handles ∧ (start s script c).outcome = startEnd y.outcome ∧
      (start s script c).state = { d with started := d.started ++ y.outcome.toOption.toList } ∧
      outline (start s script c).events = .cycle c.cycles :: outline y.events := by
  intro y
  have resting : Resting c.begun := ⟨r.transition, r.timer, r.queue⟩
  obtain ⟨same, beside, events⟩ := startAmid_alike s script resting
  let x := s.startAmid script.world (·.session) (fun t c => { c with session := t })
      (settle s.config.idleTimeout script.world) script.amidStart script.amidStop c.begun
  refine ⟨x.state, beside, ?_⟩
  have unfolded : start s script c =
      let z : Run Fault Controller (Except Nat Handles) := match x.outcome with
        | .ok h => do
          Run.update fun c => { c with started := c.started ++ [h] }
          return .ok h
        | .error (.failed f) => do
          if c.relaunches ≠ 0 then Run.log .error .lifecycle ("Relaunch failed, stopping: " ++ f.message)
          return .error f.stage.exitCode
        | .error (.fault e) => Run.fail e
      ⟨(z x.state).outcome, (z x.state).state, .cycle c.cycles :: x.events ++ (z x.state).events⟩ := by
    rw [start, enter]
    simp only [Run.bind_apply, Run.update_apply, Run.read_apply, Run.emit_apply, Run.attempt_apply, List.nil_append,
      List.cons_append]
    rfl
  rw [unfolded]
  have ended : x.outcome = y.outcome := same
  have calls : outline x.events = outline y.events := events
  cases ho : x.outcome with
  | ok h => simp [← ended, ho, calls, startEnd, Except.toOption]
  | error e =>
    cases e with
    | fault e => simp [← ended, ho, calls, startEnd, Except.toOption]
    | failed f =>
      by_cases first : c.relaunches = 0 <;> simp [← ended, ho, calls, startEnd, Except.toOption, first]

/-- What happens between the releases of a stop makes no difference to it. -/
theorem release_apply (s : Served) (script : Script) (h : Handles) {c : Controller} (r : Resting c) :
    let x : Execution ε Controller Unit := release s script h c
    x.outcome = .ok () ∧ Drifts c x.state ∧ Resting x.state ∧
      outline x.events = outline (Handles.release script.world h : Execution ε Handles Unit).events := by
  intro x
  let d := (settle s.config.idleTimeout script.world script.stopping c : Execution ε Controller Unit).state
  let e : Controller := { d with session := { d.session with handles := some h } }
  obtain ⟨resting, drifts⟩ := settle_of_resting (ε := ε) s.config.idleTimeout script.world script.stopping r
  have steps : ∀ a, Run.Follows (fun d h => Beside c d (some h)) (fun d h => Beside c d (some h))
      (onSession (Session.onHandles (Release.run script.world a)) : Run ε Controller Unit)
      (Release.run script.world a) := by
    intro a d h beside
    simp only [onSession, Session.onHandles, Run.within_apply, beside.handles, Option.getD_some]
    exact ⟨rfl, beside.withSession _, rfl⟩
  have releases := Run.Follows.eachAmid (settle_ok (ε := ε) s.config.idleTimeout script.world)
    (fun _ _ => outline_settle ..) (fun _ _ _ h => h.settle ..) steps script.amidStop Release.order e h
    ⟨drifts.withSession _, ⟨resting.transition, resting.timer, resting.queue⟩, rfl⟩
  obtain ⟨same, beside, events⟩ := releases
  have unfolded : x =
      let y : Execution ε Controller Unit := Run.eachAmid (settle s.config.idleTimeout script.world)
        (fun r => onSession (Session.onHandles (Release.run script.world r))) script.amidStop Release.order e
      ⟨y.outcome, y.state, (settle s.config.idleTimeout script.world script.stopping c : Execution ε _ _).events ++
        y.events⟩ := by
    simp only [x, release]
    rw [(settle_ok _ _ _).bind_unit, Run.bind_of_ok (a := ()) rfl]
    rfl
  rw [unfolded]
  refine ⟨?_, beside.drifts, beside.resting, ?_⟩
  · exact same.trans (congrArg Execution.outcome (Release.each_run_apply script.world Release.order h))
  · rw [outline_append, outline_settle, List.nil_append]
    exact events

structure Back (phases : List Phase) (stops : List (Option Handles)) (c d : Controller) : Prop
    extends Books phases stops c d where
  resting : Resting d
  handles : d.session.handles = none
  asked : d.asked = c.asked

theorem stop_apply (s : Served) (script : Script) (h : Handles) {c : Controller} (r : Resting c) :
    let x : Execution ε Controller Unit := stop s script (some h) c
    x.outcome = .ok () ∧ Back [] [some h] c x.state ∧
      outline x.events = outline (Handles.release script.world h : Execution ε Handles Unit).events := by
  intro x
  have resting : Resting { c with stopped := c.stopped ++ [some h] } := ⟨r.transition, r.timer, r.queue⟩
  have noted : Books [] [some h] c { c with stopped := c.stopped ++ [some h] } :=
    ⟨(List.append_nil _).symm, rfl, rfl, rfl, rfl, id⟩
  obtain ⟨ok, drifts, resting', events⟩ := release_apply (ε := ε) s script h resting
  simp only [x, stop]
  rw [Run.update_bind, Run.bind_of_ok ok]
  refine ⟨rfl, ⟨noted.trans (drifts.withSession _).books, ⟨resting'.transition, resting'.timer, resting'.queue⟩, rfl,
    drifts.asked⟩, ?_⟩
  rw [outline_append, events]
  simp [onSession, Session.setHandles]

theorem shutDown_apply (s : Served) (script : Script) (h : Handles) {c : Controller} (r : Resting c) :
    let x : Execution ε Controller Unit := shutDown s script (some h) c
    x.outcome = .ok () ∧ Back [.shutdown] [some h] c x.state ∧
      outline x.events = outline (Handles.release script.world h : Execution ε Handles Unit).events := by
  intro x
  have entered : Books [.shutdown] [] c (c.entered .shutdown) := ⟨rfl, (List.append_nil _).symm, rfl, rfl, rfl, id⟩
  obtain ⟨ok, back, events⟩ := stop_apply (ε := ε) s script h (c := c.entered .shutdown) ⟨r.transition, r.timer, r.queue⟩
  simp only [x, shutDown]
  rw [enter_bind, Run.log_bind]
  exact ⟨ok, ⟨entered.trans back.toBooks, back.resting, back.handles, back.asked⟩, events⟩

theorem shutDown_none_apply (s : Served) (script : Script) (c : Controller) :
    (shutDown s script none c : Execution ε Controller Unit) =
      ⟨.ok (), { c.entered .shutdown with
          stopped := c.stopped ++ [none]
          session := { c.session with handles := none } },
        [.log ⟨.info, .lifecycle, "Stopping..."⟩]⟩ := by
  simp [shutDown, enter, stop, onSession, Session.setHandles, entered]

theorem relaunch_apply (s : Served) (script : Script) (h : Handles) {c : Controller} (r : Resting c) :
    ∃ d, Back [.relaunch] [some h] c d ∧ d.session = {} ∧
      (relaunch s script h c).outcome = .ok (if d.shutdownRequested then some 0 else none) ∧
      (relaunch s script h c).state =
        (if d.shutdownRequested then { d.entered .shutdown with stopped := d.stopped ++ [none] } else d) ∧
      outline (relaunch s script h c).events =
        outline (Handles.release script.world h : Execution Fault Handles Unit).events := by
  obtain ⟨ok, back, events⟩ :=
    stop_apply (ε := Fault) s script h (c := c.entered .relaunch) ⟨r.transition, r.timer, r.queue⟩
  let e := (stop s script (some h) (c.entered .relaunch) : Execution Fault Controller Unit).state
  let d : Controller := { e with session := { e.session with activity := {} }, relaunches := e.relaunches + 1 }
  have books : Books [.relaunch] [some h] c d :=
    ⟨back.visited.trans (by simp [entered]), back.stopped, congrArg (· + 1) back.relaunches, back.cycles, back.started,
      back.counted⟩
  have resting : Resting d := ⟨back.resting.transition, back.resting.timer, back.resting.queue⟩
  have fresh : d.session = {} := by
    have gone : e.session.handles = none := back.handles
    simp only [d, gone]
  have unfolded : relaunch s script h c =
      let z : Run Fault Controller (Option Nat) :=
        if d.shutdownRequested then do
          shutDown s script none
          return some 0
        else return none
      ⟨(z d).outcome, (z d).state, .log ⟨.info, .lifecycle, "Re-launching server..."⟩ ::
        ((stop s script (some h) (c.entered .relaunch) : Execution Fault Controller Unit).events ++ (z d).events)⟩ := by
    rw [relaunch, enter_bind, Run.log_bind, Run.bind_of_ok ok]
    rfl
  refine ⟨d, ⟨books, resting, by rw [fresh], back.asked⟩, fresh, ?_⟩
  rw [unfolded]
  cases flag : d.shutdownRequested with
  | false => exact ⟨rfl, rfl, by simp [events]⟩
  | true =>
    simp only [if_true]
    rw [Run.bind_of_ok (a := ()) (by rw [shutDown_none_apply]), shutDown_none_apply, fresh]
    exact ⟨rfl, by rw [← fresh]; rfl, by simp [events]⟩

end Controller

end CastLaunch
