import CastLaunch.Proofs.Lifecycle.Laps

/-!
What requests come to.  No start comes behind a request to shut down, whenever it was
made; the launch ends with the lap that is under way.  In a running period that no such
request precedes, the first request decides what follows.  Requests for a relaunch that
are made while no period is running might as well not be made.
-/

namespace CastLaunch

def Event.calm (events : List Event) : List Event := events.filter fun e => !e.asksRelaunch

/-- The script without the requests for a relaunch that are made while no period is running. -/
def Script.calm (script : Script) : Script :=
  { script with
    amidStart := script.amidStart.map Event.calm
    starting := Event.calm script.starting
    stopping := Event.calm script.stopping
    amidStop := script.amidStop.map Event.calm }

namespace Controller

variable {ε α : Type}

def AtRest (c d : Controller) : Prop := c = d ∧ Resting c

theorem follows_itself {x : Run ε Controller α} (rests : ∀ c, Resting c → Resting (x c).state) :
    Run.Follows AtRest AtRest x x := by
  rintro c _ ⟨rfl, r⟩
  exact ⟨rfl, ⟨rfl, rests c r⟩, rfl⟩

theorem onSession_follows (x : Run ε Session α) : Run.Follows AtRest AtRest (onSession x) (onSession x) :=
  follows_itself fun _ r => ⟨r.transition, r.timer, r.queue⟩

theorem settle_calm (timeout : Nat) (w : World) (events : List Event) :
    Run.Follows AtRest AtRest (settle timeout w events : Run ε Controller Unit) (settle timeout w (Event.calm events)) := by
  rintro c _ ⟨rfl, r⟩
  exact settle_without_relaunch r

theorem startAmid_calm (s : Served) (script : Script) :
    Run.Follows AtRest AtRest
      (s.startAmid script.world (·.session) (fun t c => { c with session := t })
        (settle s.config.idleTimeout script.world) script.amidStart script.amidStop)
      (s.startAmid script.world (·.session) (fun t c => { c with session := t })
        (settle s.config.idleTimeout script.world) script.calm.amidStart script.calm.amidStop) := by
  refine Served.startAmid_follows (fun c d same => by rw [same.1]) (fun _ => onSession_follows _) ?_ ?_
  · exact Run.Follows.eachAmid_map (settle_calm _ _) (fun _ => onSession_follows _) _ _
  · exact Run.Follows.eachAmid_map (settle_calm _ _) (fun _ => onSession_follows _) _ _

theorem enter_follows (p : Phase) : Run.Follows AtRest AtRest (enter p : Run ε Controller Unit) (enter p) :=
  follows_itself fun _ r => ⟨r.transition, r.timer, r.queue⟩

theorem start_calm (s : Served) (script : Script) : Run.Follows AtRest AtRest (start s script) (start s script.calm) := by
  refine Run.Follows.andThen (enter_follows _) fun _ => ?_
  refine Run.Follows.andThen (follows_itself fun _ r => r) fun c => ?_
  refine Run.Follows.andThen (follows_itself fun _ r => r) fun _ => ?_
  refine Run.Follows.andThen (follows_itself fun _ r => ⟨r.transition, r.timer, r.queue⟩) fun _ => ?_
  refine Run.Follows.andThen (startAmid_calm s script).attempt fun outcome => ?_
  refine follows_itself fun d r => ?_
  match outcome with
  | .ok h => exact ⟨r.transition, r.timer, r.queue⟩
  | .error (.fault e) => exact r
  | .error (.failed f) =>
    by_cases first : c.relaunches ≠ 0
    · simpa [first] using r
    · simpa [first] using r

theorem release_calm (s : Served) (script : Script) (h : Handles) :
    Run.Follows AtRest AtRest (release s script h : Run ε Controller Unit) (release s script.calm h) := by
  refine Run.Follows.andThen (settle_calm _ _ _) fun _ => ?_
  refine Run.Follows.andThen (onSession_follows _) fun _ => ?_
  exact Run.Follows.eachAmid_map (settle_calm _ _) (fun _ => onSession_follows _) _ _

theorem stop_calm (s : Served) (script : Script) (h : Handles) :
    Run.Follows AtRest AtRest (stop s script (some h) : Run ε Controller Unit) (stop s script.calm (some h)) := by
  refine Run.Follows.andThen (follows_itself fun _ r => ⟨r.transition, r.timer, r.queue⟩) fun _ => ?_
  exact Run.Follows.andThen (release_calm s script h) fun _ => onSession_follows _

theorem shutDown_calm (s : Served) (script : Script) (h : Handles) :
    Run.Follows AtRest AtRest (shutDown s script (some h) : Run ε Controller Unit) (shutDown s script.calm (some h)) := by
  refine Run.Follows.andThen (enter_follows _) fun _ => ?_
  exact Run.Follows.andThen (Run.Follows.log _ _ _) fun _ => stop_calm s script h

theorem relaunch_calm (s : Served) (script : Script) (h : Handles) :
    Run.Follows AtRest AtRest (relaunch s script h) (relaunch s script.calm h) := by
  refine Run.Follows.andThen (enter_follows _) fun _ => ?_
  refine Run.Follows.andThen (Run.Follows.log _ _ _) fun _ => ?_
  refine Run.Follows.andThen (stop_calm s script h) fun _ => ?_
  refine Run.Follows.andThen (onSession_follows _) fun _ => ?_
  refine Run.Follows.andThen (follows_itself fun _ r => ⟨r.transition, r.timer, r.queue⟩) fun _ => ?_
  refine Run.Follows.andThen (follows_itself fun _ r => r) fun c => ?_
  refine follows_itself fun d r => ?_
  split
  · rw [Run.bind_of_ok (a := ()) (by rw [shutDown_none_apply]), shutDown_none_apply]
    exact ⟨r.transition, r.timer, r.queue⟩
  · exact r

theorem serve_rests {s : Served} {script : Script} {h : Handles} {c : Controller} {next : Phase} (r : Resting c)
    (ok : (serve s script h c).outcome = .ok next) : Resting (serve s script h c).state := by
  cases flag : c.shutdownRequested with
  | true =>
    rw [serve_of_shutdown flag]
    exact ⟨r.transition, r.timer, r.queue⟩
  | false =>
    by_cases refuses : ∃ text, Refuses script.world h text
    · obtain ⟨text, refuses⟩ := refuses
      rw [serve_of_refuses flag refuses] at ok
      cases ok
    · obtain ⟨_, _, left, _⟩ := serve_of_accepts r flag fun text refused => refuses ⟨text, refused⟩
      exact left.resting

theorem proceed_calm (s : Served) (script : Script) (h : Handles) {c d : Controller} (same : AtRest c d) :
    (proceed s script h c).Alike Eq (proceed s script.calm h d) := by
  have settled : (settle s.config.idleTimeout script.world script.starting c : Execution Fault Controller Unit).Alike
      AtRest (settle s.config.idleTimeout script.calm.world script.calm.starting d) := settle_calm _ _ _ c d same
  refine Run.alike_bind settled (fun _ _ => ?_) fun _ _ h => h.1
  obtain ⟨-, ⟨eq, resting⟩, -⟩ := settled
  generalize (settle s.config.idleTimeout script.calm.world script.calm.starting d : Execution Fault _ _).state = e at eq ⊢
  subst eq
  refine Run.alike_bind (x := serve s script h) (y := serve s script h) (.refl _) (fun next ok => ?_) fun _ _ h => h
  have rests := serve_rests resting ok
  have ends : ∀ {x y : Run Fault Controller (Option Nat)}, Run.Follows AtRest AtRest x y →
      ∀ e, Resting e → (x e).Alike Eq (y e) := fun follows e r =>
    ⟨(follows e e ⟨rfl, r⟩).1, (follows e e ⟨rfl, r⟩).2.1.1, (follows e e ⟨rfl, r⟩).2.2⟩
  have shuts : Run.Follows AtRest AtRest (do shutDown s script (some h); return some 0 : Run Fault Controller (Option Nat))
      (do shutDown s script.calm (some h); return some 0) :=
    Run.Follows.andThen (shutDown_calm s script h) fun _ => follows_itself fun _ r => r
  cases next with
  | relaunch => exact ends (relaunch_calm s script h) _ rests
  | starting | running | shutdown => exact ends shuts _ rests

theorem cycle_calm (s : Served) (script : Script) {c : Controller} (r : Resting c) :
    (cycle s script c).Alike Eq (cycle s script.calm c) := by
  have started := start_calm s script c c ⟨rfl, r⟩
  refine Run.alike_bind started (fun outcome _ => ?_) fun _ _ h => h.1
  cases outcome with
  | error code => exact ⟨rfl, started.2.1.1, rfl⟩
  | ok h => exact proceed_calm s script h started.2.1

theorem cyclesFrom_calm (s : Served) (quiet : World) (scripts : List Script) {c : Controller} (b : Begins c) :
    (cyclesFrom s quiet scripts c).Alike Eq (cyclesFrom s quiet (scripts.map Script.calm) c) := by
  induction scripts generalizing c with
  | nil => exact .refl _
  | cons script rest ih =>
    obtain ⟨outcome, state, events⟩ := cycle_calm s script b.resting
    rw [List.map_cons]
    by_cases more : (cycle s script c).outcome = .ok none
    · obtain ⟨same, after, behind⟩ := ih (begins_of_more b more)
      rw [cyclesFrom_of_more more, cyclesFrom_of_more (outcome.symm.trans more), ← state]
      exact ⟨same, after, by rw [outline_append, outline_append, events, behind]⟩
    · rw [cyclesFrom_of_over more, cyclesFrom_of_over fun none => more (outcome.trans none)]
      exact ⟨congrArg (Except.map (·.getD 0)) outcome, state, events⟩

theorem run_calm (s : Served) (quiet : World) (scripts : List Script) :
    (run s quiet scripts {}).Alike Eq (run s quiet (scripts.map Script.calm) {}) := by
  obtain ⟨outcome, state, events⟩ := cyclesFrom_calm s quiet scripts opened_begins
  rw [run_apply, run_apply]
  exact ⟨outcome, by rw [state], events⟩

/-- How a launch ends whose last lap was asked for a shutdown: with 0, or with the code of the resource that its start
failed for.  The third case goes beyond the rules for requests: a sink from outside that refuses its level breaks off
the start with an error of its own, which is charged to no resource and ends the launch as it is. -/
def EndsAsked (s : Served) (lap : Lap) (outcome : Except Fault Nat) : Prop :=
  match (lap.start s).outcome with
  | .ok _ => outcome = .ok 0
  | .error (.failed f) => outcome = .ok f.stage.exitCode
  | .error (.fault e) => outcome = .error e ∧ s.LevelRefused lap.script.world

theorem levelRefused_of_fault {s : Served} {lap : Lap} {e : Fault} (fault : (lap.start s).outcome = .error (.fault e)) :
    s.LevelRefused lap.script.world := by
  rw [Lap.start, Served.start_apply] at fault
  cases ho : (Run.each (Step.run lap.script.world s) s.plan {}).outcome with
  | ok u =>
    rw [ho] at fault
    cases fault
  | error e' =>
    rw [ho] at fault
    cases e' with
    | failed f => cases fault
    | fault e' => exact ((Served.fault_iff_levelRefused s _ e').mp ho).1

theorem lap_of_asked {s : Served} {lap : Lap} (b : Begins lap.before) (asked : 0 < (lap.run s).state.shutdowns) :
    (lap.run s).outcome ≠ .ok none ∧ EndsAsked s lap ((lap.run s).outcome.map (·.getD 0)) := by
  obtain ⟨way, g⟩ := goes s lap.script b.resting
  have flag : (lap.run s).state.shutdownRequested = true := (g.counted b.counted).mpr asked
  have untimely : way.isUnasked = true → False := fun unasked => by
    have unset : (lap.run s).state.shutdownRequested = false := g.unasked unasked
    rw [flag] at unset
    cases unset
  have start : (lap.start s).outcome = way.start := g.start
  have outcome : (lap.run s).outcome = way.outcome := g.outcome
  rw [EndsAsked, outcome, start]
  cases way with
  | refused h text | relaunched h => exact (untimely rfl).elim
  | failed f | skipped h | ended h | overtaken h => exact ⟨nofun, rfl⟩
  | broken e => exact ⟨nofun, rfl, levelRefused_of_fault start⟩

theorem Journey.last_of_asked {s : Served} {c : Controller} {ls : List Lap} {x : Execution Fault Controller Nat}
    (j : Journey s c ls x) : ∀ lap ∈ ls, 0 < (lap.run s).state.shutdowns →
      ls.getLast? = some lap ∧ EndsAsked s lap x.outcome := by
  induction j with
  | last lap begins ends =>
    intro l member asked
    obtain rfl : l = lap := by simpa using member
    exact ⟨rfl, (lap_of_asked begins asked).2⟩
  | next lap begins more behind ih =>
    intro l member asked
    rcases List.mem_cons.mp member with rfl | later
    · exact absurd more (lap_of_asked begins asked).1
    · obtain ⟨final, ends⟩ := ih l later asked
      exact ⟨by rw [List.getLast?_cons, final]; rfl, ends⟩

theorem counted_atRunning (s : Served) (script : Script) {c : Controller} (b : Begins c) :
    Counted (atRunning s script c) := by
  obtain ⟨d, beside, -, state, -⟩ := start_apply s script b.resting
  have begun : Counted c.begun := b.counted
  have started : Counted (start s script c).state := by
    rw [state]
    exact beside.drifts.counted begun
  exact (settle_stays ..).counted started

/-- The first request of a running period decides the phase behind it. -/
theorem first_decides {s : Served} {lap : Lap} {h : Handles} (b : Begins lap.before)
    (ok : (lap.start s).outcome = .ok h) (unasked : (atRunning s lap.script lap.before).shutdowns = 0)
    (accepts : ∀ text, ¬Refuses lap.script.world h text) :
    ∃ next more, IsExit next ∧ (lap.run s).state.asked.head? = some next ∧
      (lap.run s).state.visited = lap.before.visited ++ [.starting, .running, next] ++ more := by
  obtain ⟨way, g⟩ := goes s lap.script b.resting
  have start : way.start = .ok h := g.start.symm.trans ok
  have visited : (lap.run s).state.visited = lap.before.visited ++ way.phases := g.visited
  have asked : ∀ next, way.exit? = some next → (lap.run s).state.asked.head? = some next := g.asked
  cases way with
  | failed f | broken e => cases start
  | refused h' text =>
    cases start
    exact absurd (g.refuses h text rfl) (accepts text)
  | skipped h' =>
    have early := (counted_atRunning s lap.script b).mp (g.late true rfl)
    omega
  | ended h' => exact ⟨.shutdown, [], .inr rfl, asked _ rfl, by rw [visited, Way.phases, List.append_nil]⟩
  | relaunched h' => exact ⟨.relaunch, [], .inl rfl, asked _ rfl, by rw [visited, Way.phases, List.append_nil]⟩
  | overtaken h' => exact ⟨.relaunch, [.shutdown], .inl rfl, asked _ rfl, by rw [visited, Way.phases, List.append_assoc]; rfl⟩

/-- A shutdown wins, otherwise the first request decides, and requests for a relaunch count in a running period
only. -/
theorem requests_decide (s : Served) (quiet : World) (scripts : List Script) :
    let x := run s quiet scripts {}
    let ls := laps s quiet scripts opened
    x.events = ls.flatMap (fun lap => (lap.run s).events) ∧
      (∀ timeout w events c, (settle timeout w events c : Execution Fault Controller Unit).state.shutdowns =
        c.shutdowns + events.countP Event.asksShutdown) ∧
      (∀ lap ∈ ls, lap.before.shutdowns = 0) ∧
      (∀ lap ∈ ls, 0 < (lap.run s).state.shutdowns → ls.getLast? = some lap ∧ EndsAsked s lap x.outcome) ∧
      (∀ lap ∈ ls, ∀ h, (lap.start s).outcome = .ok h → (atRunning s lap.script lap.before).shutdowns = 0 →
        (∀ text, ¬Refuses lap.script.world h text) →
        ∃ next more, IsExit next ∧ (lap.run s).state.asked.head? = some next ∧
          (lap.run s).state.visited = lap.before.visited ++ [.starting, .running, next] ++ more) ∧
      ∀ others, others.map Script.calm = scripts.map Script.calm → (run s quiet others {}).Alike Eq x := by
  intro x ls
  have journey := cyclesFrom_journey s quiet scripts opened_begins
  have whole : x.outcome = (cyclesFrom s quiet scripts opened).outcome ∧
      x.events = (cyclesFrom s quiet scripts opened).events := by
    simp only [x, run_apply, and_self]
  refine ⟨whole.2.trans journey.events, fun timeout w events c => settle_shutdowns timeout w events c, ?_, ?_, ?_, ?_⟩
  · exact fun lap member => (journey.begins lap member).shutdowns
  · rw [whole.1]
    exact journey.last_of_asked
  · exact fun lap member h ok unasked accepts => first_decides (journey.begins lap member) ok unasked accepts
  · intro others same
    have calm := run_calm s quiet others
    rw [same] at calm
    exact calm.trans (run_calm s quiet scripts).symm

end Controller

end CastLaunch
