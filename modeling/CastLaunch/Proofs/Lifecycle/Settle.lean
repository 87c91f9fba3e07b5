import CastLaunch.Lifecycle.Run
import CastLaunch.Proofs.Cycle.Release

/-!
Events and what they queue up.  Whenever they come, they leave asides in the trace, and
of the controller they change the activity and what belongs to the way out.  A request
to shut down sticks.  While no cycle is running, nothing else happens: a request for a
relaunch is lost.
-/

namespace CastLaunch

namespace Event

def asksShutdown : Event → Bool
  | .shutdownRequested => true
  | .signal number => (signalNames.lookup number).isSome
  | _ => false

def asksRelaunch : Event → Bool
  | .relaunchRequested | .rendererQuit | .tick => true
  | _ => false

end Event

namespace Notice

theorem updateBackground_keeps (w : World) (delta : Int) :
    Run.Keeps Session.handles (·.isAside) (toVideo w (.updateBackground delta)) := by
  refine Run.Keeps.bind Run.Keeps.read fun s => ?_
  cases s.hasVideo with
  | false => exact Run.Keeps.pure ()
  | true => exact Run.Keeps.perform rfl

theorem connected_keeps (w : World) : Run.Keeps Session.handles (·.isAside) (deliver w .connected) := by
  refine Run.Keeps.bind (Run.Keeps.bind (Run.Keeps.update fun _ => rfl) fun _ =>
    Run.Keeps.bind Run.Keeps.read fun _ => Run.Keeps.pure _) fun count => ?_
  exact Run.Keeps.bind (Run.Keeps.emit rfl) fun _ => updateBackground_keeps w 1

theorem disconnected_keeps (w : World) : Run.Keeps Session.handles (·.isAside) (deliver w .disconnected) := by
  refine Run.Keeps.bind (updateBackground_keeps w (-1)) fun _ => Run.Keeps.bind ?_ fun count => Run.Keeps.emit rfl
  refine Run.Keeps.bind Run.Keeps.read fun s => ?_
  split
  · exact Run.Keeps.bind (Run.Keeps.emit rfl) fun _ => Run.Keeps.pure _
  · exact Run.Keeps.bind (Run.Keeps.update fun _ => rfl) fun _ => Run.Keeps.pure _

end Notice

namespace Controller

variable {ε : Type}

theorem request_of_closed {next : Phase} {c : Controller} (h : c.transition = .closed) : request next c = c := by
  rw [request, h]

theorem request_of_pending {next : Phase} {c : Controller} (h : c.transition = .pending) :
    request next c =
      { c with transition := .decided next, queue := c.queue ++ [.controller], asked := c.asked ++ [next] } := by
  rw [request, h]

theorem request_of_decided {next p : Phase} {c : Controller} (h : c.transition = .decided p) :
    request next c = { c with asked := c.asked ++ [next] } := by
  rw [request, h]

inductive Effect (c : Controller) : Controller → Prop where
  | counts (s : Session) (h : s.handles = c.session.handles) : Effect c { c with session := s }
  | asks : Effect c (request .relaunch c)
  | shuts : Effect c (requestShutdown c)
  | quits : Effect c { c with queue := c.queue ++ [.relaunch] }
  | ticks (h : c.timer = .asleep) : Effect c { c with timer := .waking, queue := c.queue ++ [.timer] }

theorem rendererQuit_state (c : Controller) :
    (rendererQuit c).state = if c.loop = .accepting then { c with queue := c.queue ++ [.relaunch] } else c := by
  rw [rendererQuit, Run.bind_of_ok (a := c) rfl]
  obtain ⟨l, hl⟩ : ∃ l, c.loop = l := ⟨_, rfl⟩
  cases l <;> simp [hl]

theorem fire_effect (w : World) (e : Event) (c : Controller) : Effect c (fire w e c).state := by
  have nothing : Effect c c := .counts c.session rfl
  cases e with
  | connected => exact .counts _ (Notice.connected_keeps w c.session).1
  | disconnected => exact .counts _ (Notice.disconnected_keeps w c.session).1
  | relaunchRequested => exact .asks
  | shutdownRequested => exact .shuts
  | rendererQuit =>
    rw [fire, rendererQuit_state]
    split
    · exact .quits
    · exact nothing
  | signal number =>
    rw [fire, receiveSignal]
    cases signalNames.lookup number with
    | none => exact nothing
    | some name => exact .shuts
  | tick =>
    rw [fire, Run.update_apply]
    cases ht : c.timer with
    | asleep => exact .ticks ht
    | absent | waking => simpa [ht] using nothing

inductive Progress (c : Controller) : Wake → Controller → Prop where
  | idles (wake : Wake) (h : wake = .timer → c.timer ≠ .waking)
      (h' : wake = .controller → ∀ next, c.transition ≠ .decided next) : Progress c wake c
  | sleeps (s : Session) (h : s.handles = c.session.handles) (waking : c.timer = .waking) :
      Progress c .timer { c with session := s, timer := .asleep }
  | expires (s : Session) (h : s.handles = c.session.handles) (waking : c.timer = .waking) :
      Progress c .timer (request .relaunch { c with session := s, timer := .absent })
  | asks : Progress c .relaunch (request .relaunch c)
  | leaves (next : Phase) (h : c.transition = .decided next) :
      Progress c .controller { c with transition := .closed, timer := .absent, exit? := some next }

def ticked (c : Controller) : Session := { c.session with activity := c.session.activity.tick }

theorem wakeTimer_apply (timeout : Nat) (c : Controller) :
    (wakeTimer timeout : Run ε Controller Unit) c =
      if c.timer = .waking then
        if c.session.activity.tickExpires timeout then
          ⟨.ok (), request .relaunch { c with session := c.ticked, timer := .absent },
            [.log ⟨.info, .lifecycle, "No connections for " ++ Text.natText timeout ++ " seconds: relaunch server"⟩]⟩
        else ⟨.ok (), { c with session := c.ticked, timer := .asleep }, []⟩
      else ⟨.ok (), c, []⟩ := by
  rw [wakeTimer, Run.bind_of_ok (a := c) rfl]
  by_cases waking : c.timer = .waking
  · cases expired : c.session.activity.tickExpires timeout <;>
      simp [waking, expired, onSession, Session.tick, ticked]
  · simp [waking]

theorem work_progress (timeout : Nat) (wake : Wake) (c : Controller) :
    Progress c wake (work timeout wake c : Execution ε Controller Unit).state := by
  cases wake with
  | timer =>
    rw [work, wakeTimer_apply]
    by_cases waking : c.timer = .waking
    · rw [if_pos waking]
      split
      · exact .expires _ rfl waking
      · exact .sleeps _ rfl waking
    · rw [if_neg waking]
      exact .idles _ (fun _ => waking) nofun
  | relaunch => exact .asks
  | controller =>
    rw [work, Run.update_apply]
    cases ht : c.transition with
    | decided next => simpa [ht] using Progress.leaves next ht
    | closed | pending => simpa [ht] using Progress.idles (c := c) .controller nofun (by simp [ht])

theorem work_ok (timeout : Nat) (wake : Wake) : Run.Succeeds (work timeout wake : Run ε Controller Unit) := by
  cases wake with
  | timer =>
    intro c
    rw [work, wakeTimer_apply]
    split
    · split <;> exact ⟨(), rfl⟩
    · exact ⟨(), rfl⟩
  | relaunch | controller => exact Run.Succeeds.update _

theorem work_leaves (timeout : Nat) (wake : Wake) :
    Run.Leaves (·.isAside) (work timeout wake : Run ε Controller Unit) := by
  cases wake with
  | timer =>
    intro c
    rw [work, wakeTimer_apply]
    refine ⟨rfl, ?_⟩
    split
    · split <;> simp [Entry.isAside]
    · simp
  | relaunch | controller => exact Run.Keeps.update fun _ => rfl

theorem fire_leaves (w : World) (e : Event) : Run.Leaves (·.isAside) (fire w e) := by
  cases e with
  | connected => exact fun c => ⟨rfl, (Notice.connected_keeps w c.session).2⟩
  | disconnected => exact fun c => ⟨rfl, (Notice.disconnected_keeps w c.session).2⟩
  | relaunchRequested | shutdownRequested | tick => exact Run.Keeps.update fun _ => rfl
  | rendererQuit =>
    refine Run.Keeps.bind Run.Keeps.read fun c => ?_
    cases c.loop with
    | absent | closed => exact Run.Keeps.pure _
    | accepting => exact Run.Keeps.bind (Run.Keeps.emit rfl) fun _ => Run.Keeps.update fun _ => rfl
    | refusing =>
      exact Run.Keeps.bind (Run.Keeps.emit rfl) fun _ =>
        Run.Keeps.bind (Run.Keeps.emit rfl) fun _ => Run.Keeps.emit rfl
  | signal number =>
    rw [fire, receiveSignal]
    cases signalNames.lookup number with
    | none => exact Run.Keeps.fail _
    | some name => exact Run.Keeps.bind (Run.Keeps.emit rfl) fun _ => Run.Keeps.update fun _ => rfl

def raisedBy : Except Fault Unit → List Entry
  | .ok () => []
  | .error e => [.raised e]

def fireNoted (w : World) (e : Event) : Run ε Controller Unit := fun c =>
  ⟨.ok (), (fire w e c).state, (fire w e c).events ++ raisedBy (fire w e c).outcome⟩

theorem fireAll_eq (w : World) : (fireAll w : List Event → Run ε Controller Unit) = Run.each (fireNoted w) := by
  rw [fireAll]
  congr 1
  funext e c
  rw [Run.bind_of_ok (a := (fire w e c).outcome) rfl, fireNoted, Run.attempt_apply]
  cases (fire w e c).outcome <;> rfl

theorem fireNoted_ok (w : World) (e : Event) : Run.Succeeds (fireNoted w e : Run ε Controller Unit) :=
  fun _ => ⟨(), rfl⟩

theorem fireNoted_leaves (w : World) (e : Event) : Run.Leaves (·.isAside) (fireNoted w e : Run ε Controller Unit) := by
  intro c
  refine ⟨rfl, fun entry h => ?_⟩
  rcases List.mem_append.mp h with own | note
  · exact (fire_leaves w e c).2 entry own
  · cases ho : (fire w e c).outcome <;> simp [raisedBy, ho] at note
    simp [note, Entry.isAside]

theorem workQueue_apply (timeout : Nat) (c : Controller) :
    (workQueue timeout : Run ε Controller Unit) c =
      Run.each (work timeout) c.queue { c with queue := [] } := by
  rw [workQueue, Run.bind_of_ok (a := c) rfl, Run.read_apply, Run.bind_of_ok (a := ()) rfl, Run.update_apply]
  rfl

theorem workQueue_ok (timeout : Nat) : Run.Succeeds (workQueue timeout : Run ε Controller Unit) := by
  intro c
  rw [workQueue_apply]
  exact Run.Succeeds.each (work_ok timeout) _ _

theorem settle_ok (timeout : Nat) (w : World) (events : List Event) :
    Run.Succeeds (settle timeout w events : Run ε Controller Unit) := by
  rw [settle, fireAll_eq]
  exact Run.Succeeds.bind (Run.Succeeds.each (fireNoted_ok w) _) fun _ =>
    Run.Succeeds.bind (workQueue_ok timeout) fun _ => workQueue_ok timeout

theorem settle_leaves (timeout : Nat) (w : World) (events : List Event) :
    Run.Leaves (·.isAside) (settle timeout w events : Run ε Controller Unit) := by
  have queue : Run.Leaves (·.isAside) (workQueue timeout : Run ε Controller Unit) := fun c =>
    ⟨rfl, by rw [workQueue_apply]; exact (Run.Keeps.each (work_leaves timeout) c.queue _).2⟩
  rw [settle, fireAll_eq]
  exact Run.Keeps.bind (Run.Keeps.each (fireNoted_leaves w) _) fun _ => Run.Keeps.bind queue fun _ => queue

theorem outline_settle (timeout : Nat) (w : World) (events : List Event) (c : Controller) :
    outline (settle timeout w events c : Execution ε Controller Unit).events = [] :=
  outline_eq_nil (settle_leaves timeout w events c).2

theorem settle_state (timeout : Nat) (w : World) (events : List Event) (c : Controller) :
    let x : Execution ε Controller Unit := Run.each (fireNoted w) events c
    let y : Execution ε Controller Unit := workQueue timeout x.state
    (settle timeout w events c : Execution ε Controller Unit).state =
      (workQueue timeout y.state : Execution ε Controller Unit).state := by
  intro x y
  rw [settle, fireAll_eq, (Run.Succeeds.each (fireNoted_ok w) _).bind_unit, (workQueue_ok timeout).bind_unit]

theorem settle_related {P : Controller → Controller → Prop} (refl : ∀ c, P c c)
    (trans : ∀ c d e, P c d → P d e → P c e) (fires : ∀ c d, Effect c d → P c d)
    (works : ∀ wake c d, Progress c wake d → P c d) (clears : ∀ c : Controller, P c { c with queue := [] })
    (timeout : Nat) (w : World) (events : List Event) (c : Controller) :
    P c (settle timeout w events c : Execution ε Controller Unit).state := by
  have queue : ∀ d, P d (workQueue timeout d : Execution ε Controller Unit).state := by
    intro d
    rw [workQueue_apply]
    exact trans _ _ _ (clears d) (Run.each_related refl trans (fun wake e => works wake e _ (work_progress ..)) _ _)
  have batch : ∀ d, P d (Run.each (fireNoted w) events d : Execution ε Controller Unit).state :=
    Run.each_related refl trans (f := fireNoted (ε := ε) w) (fun e d => fires d _ (fire_effect w e d)) events
  rw [settle_state]
  exact trans _ _ _ (batch c) (trans _ _ _ (queue _) (queue _))

/-- The controller without what events and wakes change. -/
def standing (c : Controller) : Controller :=
  { c with
    shutdownRequested := false
    shutdowns := 0
    transition := .closed
    exit? := none
    timer := .absent
    queue := []
    session := { c.session with activity := {} }
    asked := []
    snapshots := [] }

theorem standing_request (next : Phase) (c : Controller) : (request next c).standing = c.standing := by
  unfold request
  cases c.transition <;> rfl

theorem standing_requestShutdown (c : Controller) : c.requestShutdown.standing = c.standing :=
  standing_request ..

/-- The flag is set exactly if a shutdown was requested. -/
def Counted (c : Controller) : Prop := c.shutdownRequested = true ↔ 0 < c.shutdowns

theorem shutdowns_request (next : Phase) (c : Controller) : (request next c).shutdowns = c.shutdowns := by
  unfold request
  cases c.transition <;> rfl

theorem Counted.request {next : Phase} {c : Controller} (h : Counted c) : Counted (request next c) := by
  unfold Controller.request
  cases c.transition <;> exact h

theorem counted_requestShutdown (c : Controller) : Counted c.requestShutdown :=
  Counted.request ⟨fun _ => Nat.succ_pos _, fun _ => rfl⟩

/-- What reports and requests leave as it is. -/
structure Stays (c d : Controller) : Prop where
  standing : d.standing = c.standing
  counted : Counted c → Counted d

namespace Stays

variable {c d e : Controller}

theorem refl (c : Controller) : Stays c c := ⟨rfl, id⟩

theorem trans (h : Stays c d) (k : Stays d e) : Stays c e :=
  ⟨k.standing.trans h.standing, fun counted => k.counted (h.counted counted)⟩

theorem visited (h : Stays c d) : d.visited = c.visited :=
  (congrArg Controller.visited h.standing : d.standing.visited = c.standing.visited)

theorem relaunches (h : Stays c d) : d.relaunches = c.relaunches :=
  (congrArg Controller.relaunches h.standing : d.standing.relaunches = c.standing.relaunches)

theorem cycles (h : Stays c d) : d.cycles = c.cycles :=
  (congrArg Controller.cycles h.standing : d.standing.cycles = c.standing.cycles)

theorem started (h : Stays c d) : d.started = c.started :=
  (congrArg Controller.started h.standing : d.standing.started = c.standing.started)

theorem stopped (h : Stays c d) : d.stopped = c.stopped :=
  (congrArg Controller.stopped h.standing : d.standing.stopped = c.standing.stopped)

theorem handles (h : Stays c d) : d.session.handles = c.session.handles :=
  (congrArg (·.session.handles) h.standing : d.standing.session.handles = c.standing.session.handles)

end Stays

theorem Effect.stays {c d : Controller} (h : Effect c d) : Stays c d := by
  cases h with
  | counts s h => exact ⟨by simp [standing, h], id⟩
  | asks => exact ⟨standing_request .., Counted.request⟩
  | shuts => exact ⟨standing_requestShutdown c, fun _ => counted_requestShutdown c⟩
  | quits | ticks => exact ⟨rfl, id⟩

theorem Progress.stays {wake : Wake} {c d : Controller} (h : Progress c wake d) : Stays c d := by
  cases h with
  | idles => exact Stays.refl c
  | sleeps s h waking => exact ⟨by simp [standing, h], id⟩
  | expires s h waking =>
    refine ⟨?_, fun counted => Counted.request counted⟩
    rw [standing_request]
    simp [standing, h]
  | asks => exact ⟨standing_request .., Counted.request⟩
  | leaves next h => exact ⟨rfl, id⟩

theorem settle_stays (timeout : Nat) (w : World) (events : List Event) (c : Controller) :
    Stays c (settle timeout w events c : Execution ε Controller Unit).state :=
  settle_related Stays.refl (fun _ _ _ => Stays.trans) (fun _ _ => Effect.stays) (fun _ _ _ => Progress.stays)
    (fun _ => ⟨rfl, id⟩) timeout w events c

theorem fire_shutdowns (w : World) (e : Event) (c : Controller) :
    (fire w e c).state.shutdowns = c.shutdowns + if e.asksShutdown then 1 else 0 := by
  cases e with
  | connected | disconnected => rfl
  | relaunchRequested => exact shutdowns_request ..
  | shutdownRequested => exact shutdowns_request ..
  | rendererQuit =>
    rw [fire, rendererQuit_state]
    split <;> rfl
  | signal number =>
    rw [fire, receiveSignal, Event.asksShutdown]
    cases signalNames.lookup number with
    | none => rfl
    | some name => exact shutdowns_request ..
  | tick =>
    rw [fire, Run.update_apply]
    cases c.timer <;> rfl

theorem Progress.shutdowns {wake : Wake} {c d : Controller} (h : Progress c wake d) : d.shutdowns = c.shutdowns := by
  cases h with
  | expires s h waking => exact shutdowns_request ..
  | asks => exact shutdowns_request ..
  | idles | sleeps | leaves => rfl

theorem workQueue_shutdowns (timeout : Nat) (c : Controller) :
    (workQueue timeout c : Execution ε Controller Unit).state.shutdowns = c.shutdowns := by
  rw [workQueue_apply]
  exact Run.each_related (P := fun d e : Controller => e.shutdowns = d.shutdowns) (fun _ => rfl)
    (fun _ _ _ h k => Eq.trans k h) (fun wake d => (work_progress (ε := ε) timeout wake d).shutdowns) c.queue _

/-- Every request of a batch to shut down counts, whatever the controller is about. -/
theorem settle_shutdowns (timeout : Nat) (w : World) (events : List Event) (c : Controller) :
    (settle timeout w events c : Execution ε Controller Unit).state.shutdowns =
      c.shutdowns + events.countP Event.asksShutdown := by
  have batch : (Run.each (fireNoted w) events c : Execution ε Controller Unit).state.shutdowns =
      c.shutdowns + events.countP Event.asksShutdown := by
    induction events generalizing c with
    | nil => rfl
    | cons e rest ih =>
      have first : (fireNoted w e c : Execution ε Controller Unit).state.shutdowns = _ := fire_shutdowns w e c
      rw [Run.each_cons, (fireNoted_ok w e).bind_unit, ih, first, List.countP_cons]
      omega
  rw [settle_state, workQueue_shutdowns, workQueue_shutdowns]
  exact batch

/-- No cycle is running, and all that waits are requests for a relaunch, which will be lost. -/
structure Quiet (c : Controller) : Prop where
  transition : c.transition = .closed
  timer : c.timer = .absent
  queue : ∀ wake ∈ c.queue, wake = .relaunch

structure Resting (c : Controller) : Prop where
  transition : c.transition = .closed
  timer : c.timer = .absent
  queue : c.queue = []

theorem Resting.quiet {c : Controller} (h : Resting c) : Quiet c :=
  ⟨h.transition, h.timer, by simp [h.queue]⟩

/-- The controllers differ in the activity, the collaborators and a request to shut down at most. -/
structure Drifts (c d : Controller) : Prop where
  rest : d = { c with shutdownRequested := d.shutdownRequested, shutdowns := d.shutdowns, session := d.session }
  counted : Counted c → Counted d

namespace Drifts

variable {c d e : Controller}

theorem refl (c : Controller) : Drifts c c := ⟨rfl, id⟩

theorem trans (h : Drifts c d) (k : Drifts d e) : Drifts c e := by
  refine ⟨?_, fun counted => k.counted (h.counted counted)⟩
  rw [k.rest, h.rest]

end Drifts

/-- While no cycle is running, events and wakes change the activity, ask for a shutdown or queue up. -/
def Unmoved (c d : Controller) : Prop :=
  Quiet c → Quiet d ∧
    d = { c with
      shutdownRequested := d.shutdownRequested
      shutdowns := d.shutdowns
      session := d.session
      queue := d.queue }

theorem Effect.unmoved {c d : Controller} (h : Effect c d) : Unmoved c d := by
  intro quiet
  cases h with
  | counts s h => exact ⟨⟨quiet.transition, quiet.timer, quiet.queue⟩, rfl⟩
  | asks =>
    rw [request_of_closed quiet.transition]
    exact ⟨quiet, rfl⟩
  | shuts =>
    rw [requestShutdown, request_of_closed (by exact quiet.transition)]
    exact ⟨⟨quiet.transition, quiet.timer, quiet.queue⟩, rfl⟩
  | quits =>
    refine ⟨⟨quiet.transition, quiet.timer, fun wake h => ?_⟩, rfl⟩
    rcases List.mem_append.mp h with before | new
    · exact quiet.queue wake before
    · exact List.mem_singleton.mp new
  | ticks h =>
    rw [quiet.timer] at h
    cases h

theorem work_quiet {timeout : Nat} {c : Controller} (closed : c.transition = .closed) :
    ∀ wakes : List Wake, (∀ wake ∈ wakes, wake = .relaunch) →
      (Run.each (work timeout) wakes c : Execution ε Controller Unit) = ⟨.ok (), c, []⟩
  | [], _ => rfl
  | wake :: rest, h => by
    obtain rfl := h wake List.mem_cons_self
    have first : (work timeout .relaunch c : Execution ε Controller Unit) = ⟨.ok (), c, []⟩ := by
      rw [work, Run.update_apply, request_of_closed closed]
    rw [Run.each_cons, Run.bind_of_ok (a := ()) (by rw [first]), first,
      work_quiet closed rest fun wake member => h wake (List.mem_cons_of_mem _ member)]
    rfl

theorem workQueue_quiet {timeout : Nat} {c : Controller} (h : Quiet c) :
    (workQueue timeout c : Execution ε Controller Unit) = ⟨.ok (), { c with queue := [] }, []⟩ := by
  rw [workQueue_apply, work_quiet (by exact h.transition) c.queue h.queue]

theorem unmoved_refl (c : Controller) : Unmoved c c := fun quiet => ⟨quiet, rfl⟩

theorem unmoved_trans (c d e : Controller) (h : Unmoved c d) (k : Unmoved d e) : Unmoved c e := by
  intro quiet
  obtain ⟨quiet', rest⟩ := h quiet
  obtain ⟨quiet'', rest'⟩ := k quiet'
  refine ⟨quiet'', ?_⟩
  rw [rest', rest]

theorem settle_of_quiet (timeout : Nat) (w : World) (events : List Event) {c : Controller} (h : Quiet c) :
    let x : Execution ε Controller Unit := Run.each (fireNoted w) events c
    Unmoved c x.state ∧
      (settle timeout w events c : Execution ε Controller Unit) = ⟨.ok (), { x.state with queue := [] }, x.events⟩ := by
  intro x
  have unmoved : Unmoved c x.state :=
    Run.each_related unmoved_refl unmoved_trans (f := fireNoted (ε := ε) w) (fun e d => (fire_effect w e d).unmoved) events c
  refine ⟨unmoved, ?_⟩
  have quiet := (unmoved h).1
  have cleared : Quiet { x.state with queue := [] } := ⟨quiet.transition, quiet.timer, nofun⟩
  rw [settle, fireAll_eq, (Run.Succeeds.each (fireNoted_ok w) _).bind_unit, (workQueue_ok timeout).bind_unit,
    workQueue_quiet quiet, workQueue_quiet cleared]
  simp only [List.append_nil]
  rfl

theorem settle_of_resting (timeout : Nat) (w : World) (events : List Event) {c : Controller} (h : Resting c) :
    Resting (settle timeout w events c : Execution ε Controller Unit).state ∧
      Drifts c (settle timeout w events c : Execution ε Controller Unit).state := by
  have counted := (settle_stays timeout w events c : Stays c (settle timeout w events c : Execution ε _ _).state).counted
  obtain ⟨unmoved, whole⟩ := settle_of_quiet (ε := ε) timeout w events h.quiet
  obtain ⟨quiet, rest⟩ := unmoved h.quiet
  rw [whole] at counted ⊢
  refine ⟨⟨quiet.transition, quiet.timer, rfl⟩, ?_, counted⟩
  dsimp only
  rw [rest, h.queue]

def drained (c : Controller) : Controller := { c with queue := [] }

theorem Effect.quiet {c d : Controller} (h : Effect c d) (quiet : Quiet c) : Quiet d := (h.unmoved quiet).1

/-- What waits makes no difference to an event. -/
theorem drained_fire (w : World) (e : Event) {c : Controller} (h : Quiet c) :
    (fire w e c).state.drained = (fire w e c.drained).state.drained := by
  have lost : ∀ next, request next c = c := fun _ => request_of_closed h.transition
  have lost' : ∀ next, request next c.drained = c.drained := fun _ => request_of_closed h.transition
  cases e with
  | connected | disconnected => rfl
  | relaunchRequested => rw [fire, Run.update_apply, Run.update_apply, lost, lost']; rfl
  | shutdownRequested =>
    rw [fire, Run.update_apply, Run.update_apply, requestShutdown, requestShutdown,
      request_of_closed (by exact h.transition), request_of_closed (by exact h.transition)]
    rfl
  | rendererQuit =>
    rw [fire, rendererQuit_state, rendererQuit_state]
    cases hl : c.loop <;> simp [drained, hl]
  | signal number =>
    rw [fire, receiveSignal]
    cases signalNames.lookup number with
    | none => rfl
    | some name =>
      dsimp only
      rw [Run.bind_of_ok (a := ()) rfl, Run.bind_of_ok (a := ()) rfl, Run.update_apply, Run.update_apply,
        requestShutdown, requestShutdown, request_of_closed (by exact h.transition),
        request_of_closed (by exact h.transition)]
      rfl
  | tick => simp [fire, drained, h.timer]

theorem drained_fire_of_asksRelaunch (w : World) {e : Event} {c : Controller} (h : Quiet c)
    (asks : e.asksRelaunch = true) : (fire w e c).state.drained = c.drained := by
  cases e with
  | connected | disconnected | shutdownRequested | signal number => cases asks
  | relaunchRequested => rw [fire, Run.update_apply, request_of_closed h.transition]
  | rendererQuit =>
    rw [fire, rendererQuit_state]
    split <;> rfl
  | tick => simp [fire, h.timer]

theorem drained_fireAll (w : World) (events : List Event) {c d : Controller} (hc : Quiet c) (hd : Quiet d)
    (same : c.drained = d.drained) :
    (Run.each (fireNoted w) events c : Execution ε Controller Unit).state.drained =
      (Run.each (fireNoted w) (events.filter fun e => !e.asksRelaunch) d : Execution ε Controller Unit).state.drained := by
  induction events generalizing c d with
  | nil => exact same
  | cons e rest ih =>
    have hc' := (fire_effect w e c).quiet hc
    rw [Run.each_cons, (fireNoted_ok w e).bind_unit]
    cases asks : e.asksRelaunch with
    | true =>
      rw [List.filter_cons_of_neg (by simp [asks])]
      exact ih hc' hd ((drained_fire_of_asksRelaunch w hc asks).trans same)
    | false =>
      rw [List.filter_cons_of_pos (by simp [asks]), Run.each_cons, (fireNoted_ok w e).bind_unit]
      refine ih hc' ((fire_effect w e d).quiet hd) ?_
      show (fire w e c).state.drained = (fire w e d).state.drained
      rw [drained_fire w e hc, drained_fire w e hd, same]

/-- While no cycle is running, requests for a relaunch might as well not come. -/
theorem settle_without_relaunch {timeout : Nat} {w : World} {events : List Event} {c : Controller} (h : Resting c) :
    (settle timeout w events c : Execution ε Controller Unit).Alike (fun d e => d = e ∧ Resting d)
      (settle timeout w (events.filter fun e => !e.asksRelaunch) c) := by
  refine ⟨?_, ⟨?_, (settle_of_resting _ _ _ h).1⟩, by rw [outline_settle, outline_settle]⟩
  · rw [(settle_ok _ _ _).outcome_unit, (settle_ok _ _ _).outcome_unit]
  · rw [(settle_of_quiet _ _ _ h.quiet).2, (settle_of_quiet _ _ _ h.quiet).2]
    exact drained_fireAll w events h.quiet h.quiet rfl

end Controller

end CastLaunch
