import CastLaunch.Proofs.Lifecycle.Settle

/-!
A running period.  It is pending until the first request; that one decides the way out
and queues up the wake of the controller, which ends the period within the same batch.
What is asked for later is noted and changes nothing.
-/

namespace CastLaunch

namespace Controller

variable {ε : Type}

def IsExit (p : Phase) : Prop := p = .relaunch ∨ p = .shutdown

structure Pending (c : Controller) : Prop where
  transition : c.transition = .pending
  asked : c.asked = []
  exit : c.exit? = none

/-- The first request has decided the way out. -/
structure Decided (next : Phase) (c : Controller) : Prop where
  transition : c.transition = .decided next
  asked : c.asked.head? = some next
  exit : c.exit? = none
  phase : IsExit next

/-- The period is over; the way out is what the first request asked for. -/
structure Left (next : Phase) (c : Controller) : Prop where
  resting : Resting c
  asked : c.asked.head? = some next
  exit : c.exit? = some next
  phase : IsExit next

/-- A period with its events under way: the wake of the controller waits exactly if the way out is decided. -/
inductive Open (c : Controller) : Prop where
  | pending (h : Pending c) (queue : Wake.controller ∉ c.queue)
  | decided (next : Phase) (h : Decided next c) (queue : Wake.controller ∈ c.queue)

/-- A period with its queue under way and the wakes `rest` still to be worked off. -/
inductive Turning (rest : List Wake) (c : Controller) : Prop where
  | pending (h : Pending c) (apart : Wake.controller ∉ rest) (queue : c.queue = [])
  | awaited (next : Phase) (h : Decided next c) (among : Wake.controller ∈ rest) (queue : c.queue = [])
  | queued (next : Phase) (h : Decided next c) (apart : Wake.controller ∉ rest) (queue : c.queue = [.controller])
  | left (next : Phase) (h : Left next c)

theorem Pending.request {next : Phase} {c : Controller} (h : Pending c) (phase : IsExit next) :
    Decided next (request next c) := by
  rw [request_of_pending h.transition]
  exact ⟨rfl, by simp [h.asked], h.exit, phase⟩

theorem Decided.request {p next : Phase} {c : Controller} (h : Decided p c) : Decided p (request next c) := by
  rw [request_of_decided h.transition]
  exact ⟨h.transition, by simp [List.head?_append, h.asked], h.exit, h.phase⟩

theorem Open.request {next : Phase} {c : Controller} (h : Open c) (phase : IsExit next) : Open (request next c) := by
  cases h with
  | pending h queue =>
    refine .decided next (h.request phase) ?_
    rw [request_of_pending h.transition]
    simp
  | decided p h queue =>
    refine .decided p h.request ?_
    rw [request_of_decided h.transition]
    exact queue

theorem Effect.open {c d : Controller} (h : Effect c d) (o : Open c) : Open d := by
  have keeps : ∀ {e : Controller}, e.transition = c.transition → e.asked = c.asked → e.exit? = c.exit? →
      (Wake.controller ∈ e.queue ↔ Wake.controller ∈ c.queue) → Open e := by
    intro e transition asked exit queue
    cases o with
    | pending h apart => exact .pending ⟨transition.trans h.transition, asked.trans h.asked, exit.trans h.exit⟩ (by rwa [queue])
    | decided next h among =>
      exact .decided next ⟨transition.trans h.transition, by rw [asked, h.asked], exit.trans h.exit, h.phase⟩ (by rwa [queue])
  cases h with
  | counts s h => exact keeps rfl rfl rfl Iff.rfl
  | asks => exact o.request (.inl rfl)
  | shuts => exact Open.request (keeps rfl rfl rfl Iff.rfl) (.inr rfl)
  | quits | ticks => exact keeps rfl rfl rfl (by simp)

theorem Turning.skip {wake : Wake} {rest : List Wake} {c : Controller} (t : Turning (wake :: rest) c)
    (other : wake ≠ .controller) : Turning rest c := by
  cases t with
  | pending h apart queue => exact .pending h (fun m => apart (List.mem_cons_of_mem _ m)) queue
  | awaited next h among queue =>
    exact .awaited next h ((List.mem_cons.mp among).resolve_left (Ne.symm other)) queue
  | queued next h apart queue => exact .queued next h (fun m => apart (List.mem_cons_of_mem _ m)) queue
  | left next h => exact .left next h

/-- A request of the queue decides the way out, or comes too late. -/
theorem Turning.request {next : Phase} {rest : List Wake} {c : Controller} (t : Turning rest c) (phase : IsExit next) :
    Turning rest (request next c) := by
  cases t with
  | pending h apart queue =>
    refine .queued next (h.request phase) apart ?_
    rw [request_of_pending h.transition]
    simp [queue]
  | awaited p h among queue =>
    refine .awaited p h.request among ?_
    rw [request_of_decided h.transition]
    exact queue
  | queued p h apart queue =>
    refine .queued p h.request apart ?_
    rw [request_of_decided h.transition]
    exact queue
  | left p h =>
    rw [request_of_closed h.resting.transition]
    exact .left p h

theorem Turning.timed {rest : List Wake} {c : Controller} (t : Turning rest c) (waking : c.timer = .waking) (s : Session)
    (timer : Timer) : Turning rest { c with session := s, timer } := by
  cases t with
  | pending h apart queue => exact .pending ⟨h.transition, h.asked, h.exit⟩ apart queue
  | awaited next h among queue => exact .awaited next ⟨h.transition, h.asked, h.exit, h.phase⟩ among queue
  | queued next h apart queue => exact .queued next ⟨h.transition, h.asked, h.exit, h.phase⟩ apart queue
  | left next h =>
    rw [h.resting.timer] at waking
    cases waking

theorem Progress.turning {wake : Wake} {rest : List Wake} {c d : Controller} (h : Progress c wake d)
    (t : Turning (wake :: rest) c) : Turning rest d := by
  cases h with
  | idles wake h h' =>
    by_cases own : wake = .controller
    · cases t with
      | pending h apart queue => exact absurd (by simp [own]) apart
      | awaited next h among queue => exact absurd h.transition (h' own next)
      | queued next h apart queue => exact absurd (by simp [own]) apart
      | left next h => exact .left next h
    · exact t.skip own
  | sleeps s h waking => exact (t.skip nofun).timed waking s .asleep
  | expires s h waking => exact ((t.skip nofun).timed waking s .absent).request (.inl rfl)
  | asks => exact (t.skip nofun).request (.inl rfl)
  | leaves next h =>
    cases t with
    | pending h' apart queue => exact absurd List.mem_cons_self apart
    | awaited p h' among queue =>
      obtain rfl : p = next := by simpa using h'.transition.symm.trans h
      exact .left p ⟨⟨rfl, rfl, queue⟩, h'.asked, rfl, h'.phase⟩
    | queued p h' apart queue => exact absurd List.mem_cons_self apart
    | left p h' =>
      rw [h'.resting.transition] at h
      cases h

theorem turning_each (timeout : Nat) (wakes : List Wake) {c : Controller} (t : Turning wakes c) :
    Turning [] (Run.each (work timeout) wakes c : Execution ε Controller Unit).state := by
  induction wakes generalizing c with
  | nil => exact t
  | cons wake rest ih =>
    rw [Run.each_cons, (work_ok timeout wake).bind_unit]
    exact ih ((work_progress timeout wake c).turning t)

theorem Open.workQueue {timeout : Nat} {c : Controller} (o : Open c) :
    Turning [] (workQueue timeout c : Execution ε Controller Unit).state := by
  rw [workQueue_apply]
  refine turning_each timeout c.queue ?_
  cases o with
  | pending h queue => exact .pending ⟨h.transition, h.asked, h.exit⟩ queue rfl
  | decided next h queue => exact .awaited next ⟨h.transition, h.asked, h.exit, h.phase⟩ queue rfl

inductive Settled (c : Controller) : Prop where
  | serving (h : Pending c) (queue : c.queue = [])
  | left (next : Phase) (h : Left next c)

/-- The second round finds the controller's wake at most. -/
theorem Turning.workQueue {timeout : Nat} {c : Controller} (t : Turning [] c) :
    Settled (workQueue timeout c : Execution ε Controller Unit).state := by
  rw [workQueue_apply]
  cases t with
  | pending h apart queue =>
    rw [queue]
    exact .serving ⟨h.transition, h.asked, h.exit⟩ rfl
  | awaited next h among queue => cases among
  | queued next h apart queue =>
    rw [queue]
    simp only [Run.each_cons, Run.each_nil, Run.bind_apply, work, Run.update_apply, h.transition, Run.pure_apply]
    exact .left next ⟨⟨rfl, rfl, rfl⟩, h.asked, rfl, h.phase⟩
  | left next h =>
    rw [h.resting.queue]
    exact .left next ⟨⟨h.resting.transition, h.resting.timer, rfl⟩, h.asked, h.exit, h.phase⟩

theorem open_fireAll (w : World) (events : List Event) {c : Controller} (o : Open c) :
    Open (Run.each (fireNoted w) events c : Execution ε Controller Unit).state := by
  induction events generalizing c with
  | nil => exact o
  | cons e rest ih =>
    rw [Run.each_cons, (fireNoted_ok w e).bind_unit]
    exact ih ((fire_effect w e c).open o)

theorem settle_settled (timeout : Nat) (w : World) (events : List Event) {c : Controller} (h : Pending c)
    (queue : c.queue = []) : Settled (settle timeout w events c : Execution ε Controller Unit).state := by
  rw [settle_state]
  exact (open_fireAll w events (.pending h (by simp [queue]))).workQueue.workQueue

theorem settle_shutdown (timeout : Nat) (w : World) {c : Controller} (h : Pending c) (queue : c.queue = []) :
    Left .shutdown (settle timeout w [.shutdownRequested] c : Execution ε Controller Unit).state := by
  rw [settle_state]
  have decided : (fireNoted w .shutdownRequested c : Execution ε Controller Unit).state =
      { c with
        shutdownRequested := true
        shutdowns := c.shutdowns + 1
        transition := .decided .shutdown
        queue := [.controller]
        asked := [.shutdown] } := by
    simp [fireNoted, fire, requestShutdown, request, h.transition, h.asked, queue]
  simp only [Run.each_cons, Run.each_nil, (fireNoted_ok w .shutdownRequested).bind_unit, decided, Run.pure_apply,
    workQueue_apply, work, Run.bind_apply, Run.update_apply]
  exact ⟨⟨rfl, rfl, rfl⟩, rfl, rfl, .inr rfl⟩

theorem serveBatches_apply (s : Served) (w : World) (batches : List (List Event)) {c : Controller} (h : Pending c)
    (queue : c.queue = []) :
    let x : Execution ε Controller Unit := serveBatches s w batches c
    x.outcome = .ok () ∧ (∃ next, Left next x.state ∧ (batches = [] → next = .shutdown)) ∧ Stays c x.state ∧
      outline x.events = [] := by
  induction batches generalizing c with
  | nil =>
    exact ⟨(settle_ok _ _ _).outcome_unit c, ⟨_, settle_shutdown _ w h queue, fun _ => rfl⟩, settle_stays ..,
      outline_settle ..⟩
  | cons events rest ih =>
    let d := (settle s.config.idleTimeout w events c : Execution ε Controller Unit).state
    let e : Controller := { d with snapshots := addSnapshot d.session.activity d.snapshots }
    have stays : Stays c e := (settle_stays s.config.idleTimeout w events c).trans ⟨rfl, id⟩
    have quiet := outline_settle (ε := ε) s.config.idleTimeout w events c
    have unfolded : (serveBatches s w (events :: rest) : Run ε Controller Unit) c =
        let y : Execution ε Controller Unit := (if e.exit?.isNone then serveBatches s w rest else pure ()) e
        ⟨y.outcome, y.state, (settle s.config.idleTimeout w events c : Execution ε Controller Unit).events ++ y.events⟩ := by
      rw [serveBatches, (settle_ok _ _ _).bind_unit]
      rfl
    rw [unfolded]
    dsimp only
    cases settle_settled (ε := ε) s.config.idleTimeout w events h queue with
    | serving h' queue' =>
      have unended : e.exit? = none := h'.exit
      obtain ⟨ok, ⟨next, left, -⟩, stays', quiet'⟩ := ih (c := e) ⟨h'.transition, h'.asked, h'.exit⟩ queue'
      rw [if_pos (by rw [unended]; rfl)]
      exact ⟨ok, ⟨next, left, nofun⟩, stays.trans stays', by rw [outline_append, quiet, quiet', List.nil_append]⟩
    | left next h' =>
      have ended : e.exit? = some next := h'.exit
      rw [if_neg (by simp [ended])]
      have left : Left next e :=
        ⟨⟨h'.resting.transition, h'.resting.timer, h'.resting.queue⟩, h'.asked, h'.exit, h'.phase⟩
      exact ⟨rfl, ⟨next, left, nofun⟩, stays, by rw [outline_append, quiet]; rfl⟩

def attachCalls (h : Handles) : List Entry := if h.video then [.call .attachEvents] else []

theorem outline_attachCalls (h : Handles) : outline (attachCalls h) = attachCalls h := by
  unfold attachCalls
  split <;> rfl

/-- The calls to unsubscribe: one if there was a subscription. -/
def detachCalls (w : World) (h : Handles) : List Entry :=
  if h.video = true ∧ w.reply .attachEvents = .done then [.call .detachEvents] else []

def Refuses (w : World) (h : Handles) (text : String) : Prop :=
  h.video = true ∧ w.reply .attachEvents = .failed text

theorem attach_of_refuses {w : World} {h : Handles} {text : String} (refuses : Refuses w h text) (c : Controller) :
    attach w h c = ⟨.error (.collaborator text), c, attachCalls h⟩ := by
  simp [attach, Run.call, attachCalls, refuses.1, refuses.2]

theorem attach_of_accepts {w : World} {h : Handles} (accepts : ∀ text, ¬Refuses w h text) (c : Controller) :
    attach w h c = ⟨.ok (decide (h.video = true ∧ w.reply .attachEvents = .done)), c, attachCalls h⟩ := by
  cases hv : h.video with
  | false => simp [attach, attachCalls, hv]
  | true =>
    have never : ∀ text, w.reply .attachEvents ≠ .failed text := fun text failed => accepts text ⟨hv, failed⟩
    cases hr : w.reply .attachEvents with
    | done | nothing => simp [attach, Run.call, attachCalls, hv, hr]
    | failed text => exact absurd hr (never text)

theorem detach_apply (w : World) (c : Controller) :
    let x : Execution ε Controller Unit := detach w c
    x.outcome = .ok () ∧ x.state = c ∧ outline x.events = [.call .detachEvents] := by
  intro x
  simp only [x, detach]
  rw [Run.bind_of_ok (a := (Run.perform w .detachEvents c).outcome) rfl]
  simp only [Run.attempt_apply, Run.perform_state, Run.perform_events]
  cases (Run.perform w .detachEvents c).outcome <;> exact ⟨rfl, rfl, rfl⟩

def entered (p : Phase) (c : Controller) : Controller := { c with phase := p, visited := c.visited ++ [p] }

theorem enter_bind {β : Type} (p : Phase) (f : Unit → Run ε Controller β) (c : Controller) :
    (enter p >>= f) c = f () (c.entered p) := rfl

theorem serve_of_shutdown {s : Served} {script : Script} {h : Handles} {c : Controller}
    (flag : c.shutdownRequested = true) : serve s script h c = ⟨.ok .shutdown, c.entered .running, []⟩ := by
  rw [serve, enter_bind, Run.read_bind, if_pos (by exact flag)]
  rfl

theorem serve_unfold {s : Served} {script : Script} {h : Handles} {c : Controller}
    (flag : c.shutdownRequested = false) :
    serve s script h c = (do
      let attached ← attach script.world h
      serveBatches s script.world script.running
      if attached then detach script.world
      return (← Run.read).exit?.getD .shutdown : Run Fault Controller Phase)
        (openPeriod s.config.idleTimeout (c.entered .running)) := by
  rw [serve, enter_bind, Run.read_bind, if_neg (by simp [entered, flag])]
  rfl

theorem serve_of_refuses {s : Served} {script : Script} {h : Handles} {c : Controller} {text : String}
    (flag : c.shutdownRequested = false) (refuses : Refuses script.world h text) :
    serve s script h c = ⟨.error (.collaborator text), openPeriod s.config.idleTimeout (c.entered .running),
      attachCalls h⟩ := by
  rw [serve_unfold flag, Run.bind_of_error (e := .collaborator text) (by rw [attach_of_refuses refuses]),
    attach_of_refuses refuses]

theorem leave_apply (w : World) (attached : Bool) {next : Phase} {c : Controller} (left : Left next c) :
    let x : Execution Fault Controller Phase :=
      (do if attached then detach w
          return (← Run.read).exit?.getD .shutdown : Run Fault Controller Phase) c
    x.outcome = .ok next ∧ x.state = c ∧ outline x.events = if attached then [.call .detachEvents] else [] := by
  intro x
  cases attached with
  | false => simp [x, left.exit]
  | true =>
    obtain ⟨ok, same, calls⟩ := detach_apply (ε := Fault) w c
    simp only [x, if_true]
    rw [Run.bind_of_ok ok, same]
    simp [left.exit, calls]

theorem serve_of_accepts {s : Served} {script : Script} {h : Handles} {c : Controller} (r : Resting c)
    (flag : c.shutdownRequested = false) (accepts : ∀ text, ¬Refuses script.world h text) :
    ∃ next, (serve s script h c).outcome = .ok next ∧ Left next (serve s script h c).state ∧
      (script.running = [] → next = .shutdown) ∧
      Stays (c.entered .running) (serve s script h c).state ∧
      outline (serve s script h c).events = attachCalls h ++ detachCalls script.world h := by
  let d := openPeriod s.config.idleTimeout (c.entered .running)
  have pending : Pending d := ⟨rfl, rfl, rfl⟩
  obtain ⟨ok, ⟨next, left, quietly⟩, stays, quiet⟩ :=
    serveBatches_apply (ε := Fault) s script.world script.running pending (by exact r.queue)
  have since : Stays (c.entered .running) d := ⟨rfl, id⟩
  rw [serve_unfold flag, Run.bind_of_ok (by rw [attach_of_accepts accepts]), attach_of_accepts accepts]
  dsimp only
  rw [Run.bind_of_ok ok]
  obtain ⟨exit, same, detached⟩ :=
    leave_apply script.world (decide (h.video = true ∧ script.world.reply .attachEvents = .done)) left
  refine ⟨next, exit, by rw [same]; exact left, quietly, by rw [same]; exact since.trans stays, ?_⟩
  rw [outline_append, outline_append, outline_attachCalls, quiet, detached]
  simp [detachCalls]

end Controller

end CastLaunch
