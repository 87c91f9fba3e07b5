import CastLaunch.Proofs.Lifecycle.Phases

/-!
One lap of a launch: a cycle with the controller that it begins with.  There are seven
ways for a lap to go.  Its start fails, for one of its resources or otherwise; or the
renderer refuses the subscription to its events; or a shutdown was requested before the
running period, which is then skipped; or the period leads to the shutdown; or it leads
to a relaunch, which a shutdown requested by then may overtake.  The way says how the
lap ends, which phases it enters, which collaborators it is given and gives back, and,
up to asides, what is in its trace.
-/

namespace CastLaunch

namespace Controller

inductive Way where
  | failed (f : StartFailure)
  | broken (e : Fault)
  | refused (h : Handles) (text : String)
  | skipped (h : Handles)
  | ended (h : Handles)
  | relaunched (h : Handles)
  | overtaken (h : Handles)

namespace Way

def start : Way → Except StartError Handles
  | failed f => .error (.failed f)
  | broken e => .error (.fault e)
  | refused h _ | skipped h | ended h | relaunched h | overtaken h => .ok h

def outcome : Way → Except Fault (Option Nat)
  | failed f => .ok (some f.stage.exitCode)
  | broken e => .error e
  | refused _ text => .error (.collaborator text)
  | skipped _ | ended _ | overtaken _ => .ok (some 0)
  | relaunched _ => .ok none

def phases : Way → List Phase
  | failed _ | broken _ => [.starting]
  | refused .. => [.starting, .running]
  | skipped _ | ended _ => [.starting, .running, .shutdown]
  | relaunched _ => [.starting, .running, .relaunch]
  | overtaken _ => [.starting, .running, .relaunch, .shutdown]

def stopped : Way → List (Option Handles)
  | failed _ | broken _ | refused .. => []
  | skipped h | ended h | relaunched h => [some h]
  | overtaken h => [some h, none]

def exit? : Way → Option Phase
  | ended _ => some .shutdown
  | relaunched _ | overtaken _ => some .relaunch
  | _ => none

/-- Whether a shutdown was requested before the running period, if the lap comes that far. -/
def late? : Way → Option Bool
  | failed _ | broken _ => none
  | skipped _ => some true
  | refused .. | ended _ | relaunched _ | overtaken _ => some false

/-- Whether the running period comes to an end of its own. -/
def isServed : Way → Bool
  | ended _ | relaunched _ | overtaken _ => true
  | _ => false

/-- Whether the lap ends as it does because nobody asked for a shutdown. -/
def isUnasked : Way → Bool
  | refused .. | relaunched _ => true
  | _ => false

def trace (w : World) : Way → List Entry
  | failed _ | broken _ => []
  | refused h _ => attachCalls h
  | skipped h => outline (Handles.release w h : Execution Fault Handles Unit).events
  | ended h | relaunched h | overtaken h =>
    attachCalls h ++ detachCalls w h ++ outline (Handles.release w h : Execution Fault Handles Unit).events

end Way

/-- The controller at the beginning of the running period. -/
def atRunning (s : Served) (script : Script) (c : Controller) : Controller :=
  (settle s.config.idleTimeout script.world script.starting (start s script c).state :
    Execution Fault Controller Unit).state

structure Leads (way : Way) (x : Execution Fault Controller (Option Nat)) : Prop where
  outcome : x.outcome = way.outcome
  unasked : way.isUnasked = true → x.state.shutdownRequested = false
  asked : ∀ next, way.exit? = some next → x.state.asked.head? = some next
  fresh : way.outcome = .ok none → Resting x.state ∧ x.state.session = {}

structure Meets (way : Way) (script : Script) : Prop where
  refuses : ∀ h text, way = .refused h text → Refuses script.world h text
  accepts : way.isServed = true → ∀ h, way.start = .ok h → ∀ text, ¬Refuses script.world h text
  quietly : script.running = [] → way.exit? ≠ some .relaunch

structure Goes (s : Served) (script : Script) (c : Controller) (way : Way) : Prop
    extends Leads way (cycle s script c), Meets way script where
  visited : (cycle s script c).state.visited = c.visited ++ way.phases
  stopped : (cycle s script c).state.stopped = c.stopped ++ way.stopped
  relaunches : (cycle s script c).state.relaunches = c.relaunches + way.phases.count .relaunch
  counted : Counted c → Counted (cycle s script c).state
  start : (s.start script.world c.session).outcome = way.start
  cycles : (cycle s script c).state.cycles = c.cycles + 1
  started : (cycle s script c).state.started = c.started ++ way.start.toOption.toList
  late : ∀ b, way.late? = some b → (atRunning s script c).shutdownRequested = b
  events : outline (cycle s script c).events =
    .cycle c.cycles :: outline (s.start script.world c.session).events ++ way.trace script.world

def proceed (s : Served) (script : Script) (h : Handles) : Run Fault Controller (Option Nat) := do
  settle s.config.idleTimeout script.world script.starting
  match ← serve s script h with
  | .relaunch => relaunch s script h
  | _ =>
    shutDown s script (some h)
    return some 0

theorem cycle_of_ok {s : Served} {script : Script} {c : Controller} {h : Handles}
    (ok : (start s script c).outcome = .ok (.ok h)) :
    cycle s script c =
      let x := proceed s script h (start s script c).state
      ⟨x.outcome, x.state, (start s script c).events ++ x.events⟩ := by
  rw [cycle, Run.bind_of_ok ok]
  rfl

structure Proceeds (s : Served) (script : Script) (h : Handles) (d : Controller) (way : Way) : Prop
    extends Leads way (proceed s script h d), Meets way script where
  books : Books way.phases.tail way.stopped d (proceed s script h d).state
  start : way.start = .ok h
  late : ∀ b, way.late? = some b →
    (settle s.config.idleTimeout script.world script.starting d : Execution Fault Controller Unit).state.shutdownRequested = b
  events : outline (proceed s script h d).events = way.trace script.world

theorem proceed_apply (s : Served) (script : Script) (h : Handles) (d : Controller) :
    let e := (settle s.config.idleTimeout script.world script.starting d : Execution Fault Controller Unit).state
    let y : Execution Fault Controller (Option Nat) := (do
      match ← serve s script h with
      | .relaunch => relaunch s script h
      | _ =>
        shutDown s script (some h)
        return some 0 : Run Fault Controller (Option Nat)) e
    (proceed s script h d).outcome = y.outcome ∧ (proceed s script h d).state = y.state ∧
      outline (proceed s script h d).events = outline y.events := by
  intro e y
  rw [proceed, (settle_ok _ _ _).bind_unit]
  exact ⟨rfl, rfl, by rw [outline_append, outline_settle]; rfl⟩

section

variable {s : Served} {script : Script} {h : Handles} {d : Controller}

theorem proceeds_skipped (r : Resting d)
    (flag : (settle s.config.idleTimeout script.world script.starting d :
      Execution Fault Controller Unit).state.shutdownRequested = true) : Proceeds s script h d (.skipped h) := by
  obtain ⟨resting, drifts⟩ := settle_of_resting (ε := Fault) s.config.idleTimeout script.world script.starting r
  obtain ⟨outcome, state, events⟩ := proceed_apply s script h d
  generalize he : (settle s.config.idleTimeout script.world script.starting d : Execution Fault _ _).state = e at *
  obtain ⟨ok, back, calls⟩ :=
    shutDown_apply (ε := Fault) s script h (c := e.entered .running) ⟨resting.transition, resting.timer, resting.queue⟩
  rw [Run.bind_of_ok (by rw [serve_of_shutdown flag]), serve_of_shutdown flag] at outcome state events
  dsimp only at outcome state events
  rw [Run.bind_of_ok ok] at outcome state events
  refine ⟨⟨outcome, fun h => (by cases h), fun _ h => (by cases h), fun h => (by cases h)⟩,
    ⟨fun _ _ h => (by cases h), fun h => (by cases h), fun _ h => (by cases h)⟩, ?_, rfl, ?_, ?_⟩
  · rw [state]
    exact drifts.books.trans ((books_running e).trans back.toBooks)
  · intro b hb
    cases hb
    rw [he]
    exact flag
  · rw [events, Run.pure_apply, List.append_nil, List.nil_append]
    exact calls

theorem proceeds_refused {text : String} (r : Resting d)
    (flag : (settle s.config.idleTimeout script.world script.starting d :
      Execution Fault Controller Unit).state.shutdownRequested = false) (refuses : Refuses script.world h text) :
    Proceeds s script h d (.refused h text) := by
  obtain ⟨-, drifts⟩ := settle_of_resting (ε := Fault) s.config.idleTimeout script.world script.starting r
  obtain ⟨outcome, state, events⟩ := proceed_apply s script h d
  generalize he : (settle s.config.idleTimeout script.world script.starting d : Execution Fault _ _).state = e at *
  rw [Run.bind_of_error (by rw [serve_of_refuses flag refuses]), serve_of_refuses flag refuses] at outcome state events
  have opened : Stays (e.entered .running) (openPeriod s.config.idleTimeout (e.entered .running)) := ⟨rfl, id⟩
  refine ⟨⟨outcome, fun _ => ?_, fun _ h => (by cases h), fun h => (by cases h)⟩,
    ⟨?_, fun h => (by cases h), fun _ h => (by cases h)⟩, ?_, rfl, ?_, ?_⟩
  · rw [state]
    exact flag
  · intro h' text' same
    cases same
    exact refuses
  · rw [state]
    exact drifts.books.trans ((books_running e).trans opened.books)
  · intro b hb
    cases hb
    rw [he]
    exact flag
  · rw [events, outline_attachCalls]
    rfl

theorem proceed_of_accepts (r : Resting d)
    (flag : (settle s.config.idleTimeout script.world script.starting d :
      Execution Fault Controller Unit).state.shutdownRequested = false)
    (accepts : ∀ text, ¬Refuses script.world h text) :
    ∃ next e, Left next e ∧ (script.running = [] → next = .shutdown) ∧ Books [.running] [] d e ∧
      let y : Execution Fault Controller (Option Nat) := (match next with
        | .relaunch => relaunch s script h
        | _ => do
          shutDown s script (some h)
          return some 0 : Run Fault Controller (Option Nat)) e
      (proceed s script h d).outcome = y.outcome ∧ (proceed s script h d).state = y.state ∧
        outline (proceed s script h d).events = attachCalls h ++ detachCalls script.world h ++ outline y.events := by
  obtain ⟨resting, drifts⟩ := settle_of_resting (ε := Fault) s.config.idleTimeout script.world script.starting r
  obtain ⟨outcome, state, events⟩ := proceed_apply s script h d
  generalize he : (settle s.config.idleTimeout script.world script.starting d : Execution Fault _ _).state = e at *
  obtain ⟨next, ok, left, quietly, stays, calls⟩ := serve_of_accepts resting flag accepts
  rw [Run.bind_of_ok ok] at outcome state events
  have books := drifts.books.trans ((books_running e).trans stays.books)
  refine ⟨next, _, left, quietly, books, outcome, state, ?_⟩
  rw [events, outline_append, calls]

theorem proceeds_of_accepts (r : Resting d)
    (flag : (settle s.config.idleTimeout script.world script.starting d :
      Execution Fault Controller Unit).state.shutdownRequested = false)
    (accepts : ∀ text, ¬Refuses script.world h text) : ∃ way, Proceeds s script h d way := by
  obtain ⟨next, e, left, quietly, served, outcome, state, events⟩ := proceed_of_accepts r flag accepts
  have meets : ∀ {way : Way}, (∀ h' text, way ≠ .refused h' text) → way.start = .ok h → way.exit? = some next →
      Meets way script := by
    intro way unrefused start exit
    refine ⟨fun h' text same => absurd same (unrefused h' text), fun _ h' start' => ?_, fun idle => ?_⟩
    · obtain rfl : h = h' := by simpa using start.symm.trans start'
      exact accepts
    · rw [exit, quietly idle]
      nofun
  have late : ∀ {way : Way}, way.late? ≠ some true → ∀ b, way.late? = some b →
      (settle s.config.idleTimeout script.world script.starting d :
        Execution Fault Controller Unit).state.shutdownRequested = b := by
    intro way untimely b hb
    cases b with
    | true => exact absurd hb untimely
    | false => exact flag
  have asked : ∀ {f : Controller}, f.asked = e.asked → f.asked.head? = some next := fun same => by rw [same, left.asked]
  rcases left.phase with rfl | rfl
  · obtain ⟨f, back, fresh, out, final, calls⟩ := relaunch_apply s script h left.resting
    rw [out] at outcome
    rw [final] at state
    dsimp only at events
    rw [calls] at events
    cases set : f.shutdownRequested with
    | false =>
      rw [set] at outcome state
      refine ⟨.relaunched h, ⟨outcome, fun _ => ?_, fun next same => ?_, fun _ => ?_⟩,
        meets (fun _ _ same => (by cases same)) rfl rfl, ?_, rfl, late (fun same => (by cases same)), events⟩
      · rw [state]
        exact set
      · cases same
        rw [state]
        exact asked back.asked
      · rw [state]
        exact ⟨back.resting, fresh⟩
      · rw [state]
        exact served.trans back.toBooks
    | true =>
      rw [set] at outcome state
      have shut : Books [.shutdown] [none] f { f.entered .shutdown with stopped := f.stopped ++ [none] } :=
        ⟨rfl, rfl, rfl, rfl, rfl, id⟩
      refine ⟨.overtaken h, ⟨outcome, fun h => (by cases h), fun next same => ?_, fun h => (by cases h)⟩,
        meets (fun _ _ same => (by cases same)) rfl rfl, ?_, rfl, late (fun same => (by cases same)), events⟩
      · cases same
        rw [state]
        exact asked back.asked
      · rw [state]
        exact served.trans (back.toBooks.trans shut)
  · obtain ⟨ok, back, calls⟩ := shutDown_apply (ε := Fault) s script h left.resting
    dsimp only at outcome state events
    rw [Run.bind_of_ok ok] at outcome state events
    dsimp only [Run.pure_apply] at outcome state events
    rw [outline_append, calls, outline_nil, List.append_nil] at events
    refine ⟨.ended h, ⟨outcome, fun h => (by cases h), fun next same => ?_, fun h => (by cases h)⟩,
      meets (fun _ _ same => (by cases same)) rfl rfl, ?_, rfl, late (fun same => (by cases same)), events⟩
    · cases same
      rw [state]
      exact asked back.asked
    · rw [state]
      exact served.trans back.toBooks

end

theorem proceeds (s : Served) (script : Script) (h : Handles) {d : Controller} (r : Resting d) :
    ∃ way, Proceeds s script h d way := by
  cases flag : (settle s.config.idleTimeout script.world script.starting d :
      Execution Fault Controller Unit).state.shutdownRequested with
  | true => exact ⟨_, proceeds_skipped r flag⟩
  | false =>
    by_cases refuses : ∃ text, Refuses script.world h text
    · obtain ⟨text, refuses⟩ := refuses
      exact ⟨_, proceeds_refused r flag refuses⟩
    · exact proceeds_of_accepts r flag fun text refused => refuses ⟨text, refused⟩

def Way.ofError : StartError → Way
  | .failed f => .failed f
  | .fault e => .broken e

theorem cycle_of_error {s : Served} {script : Script} {c : Controller} {e : StartError}
    (failed : (start s script c).outcome = startEnd (.error e)) :
    cycle s script c = ⟨(Way.ofError e).outcome, (start s script c).state, (start s script c).events⟩ := by
  cases e with
  | failed f =>
    rw [cycle, Run.bind_of_ok failed]
    exact congrArg _ (List.append_nil _)
  | fault e =>
    rw [cycle, Run.bind_of_error failed]
    rfl

theorem Way.phases_of_start {way : Way} : way.phases = .starting :: way.phases.tail := by cases way <;> rfl

theorem goes (s : Served) (script : Script) {c : Controller} (r : Resting c) : ∃ way, Goes s script c way := by
  obtain ⟨d, beside, outcome, state, events⟩ := start_apply s script r
  have visited : (start s script c).state.visited = c.visited ++ [.starting] := by
    simp [state, beside.drifts.visited, begun, entered]
  have stopped : (start s script c).state.stopped = c.stopped := by
    simp [state, beside.drifts.stopped, begun, entered]
  have relaunches : (start s script c).state.relaunches = c.relaunches := by
    simp [state, beside.drifts.relaunches, begun, entered]
  have cycles : (start s script c).state.cycles = c.cycles + 1 := by
    simp [state, beside.drifts.cycles, begun]
  have started : (start s script c).state.started =
      c.started ++ (s.start script.world c.session).outcome.toOption.toList := by
    simp [state, beside.drifts.started, begun, entered]
  have counted : Counted c → Counted (start s script c).state := by
    rw [state]
    exact beside.drifts.counted
  cases ho : (s.start script.world c.session).outcome with
  | ok h =>
    rw [ho] at outcome started
    have resting : Resting (start s script c).state := by
      rw [state]
      exact ⟨beside.resting.transition, beside.resting.timer, beside.resting.queue⟩
    obtain ⟨way, p⟩ := proceeds s script h resting
    have whole : cycle s script c = ⟨(proceed s script h (start s script c).state).outcome,
        (proceed s script h (start s script c).state).state,
        (start s script c).events ++ (proceed s script h (start s script c).state).events⟩ := cycle_of_ok outcome
    rw [← p.start] at started
    refine ⟨way, ⟨?_, ?_, ?_, ?_⟩, p.toMeets, ?_, ?_, ?_, ?_, ho.trans p.start.symm, ?_, ?_, p.late, ?_⟩ <;> rw [whole]
    · exact p.outcome
    · exact p.unasked
    · exact p.asked
    · exact p.fresh
    · exact p.books.visited.trans (by rw [visited, way.phases_of_start]; simp)
    · exact p.books.stopped.trans (by rw [stopped])
    · exact p.books.relaunches.trans (by rw [relaunches, way.phases_of_start]; simp)
    · exact fun before => p.books.counted (counted before)
    · exact p.books.cycles.trans cycles
    · exact p.books.started.trans started
    · rw [outline_append, events, p.events]
  | error e =>
    rw [ho] at outcome started
    have whole := cycle_of_error outcome
    have meets : Meets (Way.ofError e) script := by
      cases e <;> exact ⟨fun _ _ h => (by cases h), fun h => (by cases h), fun _ h => (by cases h)⟩
    have leads : Leads (Way.ofError e) (cycle s script c) := by
      rw [whole]
      cases e <;> exact ⟨rfl, fun h => (by cases h), fun _ h => (by cases h), fun h => (by cases h)⟩
    refine ⟨Way.ofError e, leads, meets, ?_, ?_, ?_, ?_, ?_, ?_, ?_, ?_, ?_⟩
    · rw [whole, visited]
      cases e <;> rfl
    · rw [whole, stopped]
      cases e <;> exact (List.append_nil _).symm
    · rw [whole, relaunches]
      cases e <;> rfl
    · rw [whole]
      exact counted
    · rw [ho]
      cases e <;> rfl
    · rw [whole, cycles]
    · rw [whole, started]
      cases e <;> rfl
    · cases e <;> exact fun _ h => (by cases h)
    · rw [whole, events]
      cases e <;> exact (List.append_nil _).symm

end Controller

end CastLaunch
