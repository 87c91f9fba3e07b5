import CastLaunch.Launch
import CastLaunch.Proofs.Lifecycle.Latest
import CastLaunch.Proofs.Lifecycle.Requests
import CastLaunch.Proofs.Lifecycle.Stops

/-!
The exit status of a launch.  A launch that does not come to its cycles leaves records
at most and exits with 1, or with 0 when help was asked for.  One that does exits as its
last lap ends: with the code of the resource that failed to start, with 0 behind a
shutdown, or with 1 when the renderer refuses the subscription to its events.
-/

namespace CastLaunch

namespace Controller

/-- The start of a lap, with what happens around its steps. -/
def Lap.startAmid (s : Served) (lap : Lap) : Execution StartError Controller Handles :=
  s.startAmid lap.script.world (·.session) (fun t c => { c with session := t })
    (settle s.config.idleTimeout lap.script.world) lap.script.amidStart lap.script.amidStop lap.before.begun

/-- How the cycles of a launch end, by their last lap. -/
inductive Ends (s : Served) (lap : Lap) (x : Execution Fault Controller Nat) : Prop where
  | failed (f : StartFailure) (start : (lap.startAmid s).outcome = .error (.failed f))
      (outcome : x.outcome = .ok f.stage.exitCode) (phase : x.state.phase = .starting)
  | refused (h : Handles) (text : String) (start : (lap.startAmid s).outcome = .ok h) (refused : lap.Refused s h text)
      (outcome : x.outcome = .error (.collaborator text)) (phase : x.state.phase = .running)
  | shut (h : Handles) (start : (lap.startAmid s).outcome = .ok h) (outcome : x.outcome = .ok 0)
      (phase : x.state.phase = .shutdown)

end Controller

namespace Launch

open CommandLine

/-- What the cycles behind a command line serve, if the launch comes to them. -/
def servedBehind? (h : Host) (a : Arguments) : Option Served := do
  let s ← (configure h a).toOption
  let _ ← (beginLog h s).toOption
  let factories ← (FactorySet.resolve h.catalog s.collaborators s.launch).toOption
  let p ← (Provision.choose s.launch.randomIdentifier h.addressFiles h.random).toOption
  return servedOf s factories p

def served? (h : Host) (argv : List String) : Option Served :=
  match Arguments.parse argv with
  | .ok a => if a.help then none else servedBehind? h a
  | .error _ => none

def asksHelp (argv : List String) : Bool :=
  match Arguments.parse argv with
  | .ok a => a.help
  | .error _ => false

/-- The last lap of a launch, and what it serves. -/
structure LastLap (h : Host) (argv : List String) (s : Served) (lap : Controller.Lap) : Prop where
  served : served? h argv = some s
  last : (Controller.laps s h.quiet h.scripts Controller.opened).getLast? = some lap

def AreRecords (events : List Entry) : Prop := ∀ e ∈ events, ∃ r, e = .log r

theorem AreRecords.append {a b : List Entry} (ha : AreRecords a) (hb : AreRecords b) : AreRecords (a ++ b) :=
  fun e he => (List.mem_append.mp he).elim (ha e) (hb e)

/-- The launch ends before its cycles and exits with the code. -/
structure EndsEarly (o : Outcome) (served? : Option Served) (code : Int) : Prop where
  unserved : served? = none
  controller : o.controller = none
  events : AreRecords o.events
  exit : o.exit = code

def exitCode : Except Fault Nat → Int
  | .ok code => code
  | .error _ => 1

/-- The launch comes to its cycles and exits as they end. -/
structure EndsAs (o : Outcome) (s : Served) (x : Execution Fault Controller Nat) (served? : Option Served) : Prop where
  served : served? = some s
  builtIn : s.factories.sink = .builtIn
  controller : o.controller = some x.state
  events : ∃ before, AreRecords before ∧ o.events = before ++ x.events
  exit : o.exit = exitCode x.outcome

theorem asksHelp_iff {argv : List String} :
    asksHelp argv = true ↔ ∃ a, Arguments.parse argv = .ok a ∧ a.help = true := by
  unfold asksHelp
  cases Arguments.parse argv <;> simp

theorem AreRecords.call_not_mem {events : List Entry} (h : AreRecords events) (c : Call) : .call c ∉ events := by
  intro member
  obtain ⟨r, same⟩ := h _ member
  cases same

section

variable {h : Host} {argv : List String} {o : Outcome} {s : Served} {lap : Controller.Lap}

theorem LastLap.unique {s' : Served} {lap' : Controller.Lap} (l : LastLap h argv s lap) (l' : LastLap h argv s' lap') :
    s' = s ∧ lap' = lap := by
  obtain rfl : s' = s := Option.some.inj (l'.served.symm.trans l.served)
  exact ⟨rfl, Option.some.inj (l'.last.symm.trans l.last)⟩

theorem EndsEarly.not_lastLap {code : Int} (e : EndsEarly o (served? h argv) code) : ¬LastLap h argv s lap := by
  intro l
  have none := e.unserved
  rw [l.served] at none
  cases none

/-- What the exit status tells about a launch and its laps. -/
structure ExitTells (h : Host) (argv : List String) (o : Outcome) : Prop where
  bounds : 0 ≤ o.exit ∧ o.exit ≤ 6
  /-- Zero: help was asked for, or the controller came to the shutdown. -/
  zero : o.exit = 0 ↔ (∃ a, Arguments.parse argv = .ok a ∧ a.help = true) ∨
    ∃ c, o.controller = some c ∧ c.phase = .shutdown
  /-- More than one: the last start failed for the resource that has this code. -/
  failure : ∀ k : Nat, 2 ≤ k → (o.exit = k ↔ ∃ s lap f, LastLap h argv s lap ∧
    (lap.startAmid s).outcome = .error (.failed f) ∧ f.stage.exitCode = k)
  /-- One: nothing was called, or a renderer refused the subscription to its events. -/
  one : o.exit = 1 → (∀ c, .call c ∉ o.events) ∨ ∃ s lap hs text, LastLap h argv s lap ∧ lap.Refused s hs text
  controller : o.controller = (served? h argv).map fun s => (Controller.run s h.quiet h.scripts {}).state
  events : ∃ before, AreRecords before ∧ o.events = before ++ (served? h argv).elim [] fun s =>
    (Controller.laps s h.quiet h.scripts Controller.opened).flatMap fun lap => (lap.run s).events

theorem EndsEarly.tells (e : EndsEarly o (served? h argv) (bif asksHelp argv then 0 else 1)) : ExitTells h argv o := by
  have code : o.exit = 0 ∧ asksHelp argv = true ∨ o.exit = 1 ∧ asksHelp argv = false := by
    rw [e.exit]
    cases asksHelp argv <;> simp
  refine ⟨by omega, ?_, fun k two => ⟨fun same => by omega, ?_⟩, fun _ => .inl e.events.call_not_mem, ?_, ?_⟩
  · rw [← asksHelp_iff, e.controller]
    rcases code with ⟨exit, asks⟩ | ⟨exit, asks⟩ <;> simp [exit, asks]
  · rintro ⟨s, lap, f, last, -⟩
    exact absurd last e.not_lastLap
  · rw [e.controller, e.unserved]
    rfl
  · exact ⟨o.events, e.events, by rw [e.unserved]; exact (List.append_nil _).symm⟩

theorem EndsAs.tells (e : EndsAs o s (Controller.run s h.quiet h.scripts {}) (served? h argv))
    (unasked : asksHelp argv = false) (l : LastLap h argv s lap)
    (ends : Controller.Ends s lap (Controller.run s h.quiet h.scripts {})) : ExitTells h argv o := by
  have shut : (∃ a, Arguments.parse argv = .ok a ∧ a.help = true) ∨ (∃ c, o.controller = some c ∧ c.phase = .shutdown) ↔
      (Controller.run s h.quiet h.scripts {}).state.phase = .shutdown := by
    rw [← asksHelp_iff, unasked, e.controller]
    simp
  have failed : ∀ k, (∃ s lap f, LastLap h argv s lap ∧ (lap.startAmid s).outcome = .error (.failed f) ∧
      f.stage.exitCode = k) ↔ ∃ f, (lap.startAmid s).outcome = .error (.failed f) ∧ f.stage.exitCode = k := by
    intro k
    constructor
    · rintro ⟨s', lap', f, l', start, code⟩
      obtain ⟨rfl, rfl⟩ := l.unique l'
      exact ⟨f, start, code⟩
    · rintro ⟨f, start, code⟩
      exact ⟨s, lap, f, l, start, code⟩
  have controller : o.controller = (served? h argv).map fun s => (Controller.run s h.quiet h.scripts {}).state := by
    rw [e.controller, e.served]
    rfl
  have events : ∃ before, AreRecords before ∧ o.events = before ++ (served? h argv).elim [] fun s =>
      (Controller.laps s h.quiet h.scripts Controller.opened).flatMap fun lap => (lap.run s).events := by
    obtain ⟨before, records, whole⟩ := e.events
    refine ⟨before, records, ?_⟩
    rw [whole, e.served, Controller.run_apply]
    exact congrArg _ (Controller.cyclesFrom_journey s h.quiet h.scripts Controller.opened_begins).events
  cases ends with
  | failed f start outcome phase =>
    have exit : o.exit = f.stage.exitCode := e.exit.trans (congrArg exitCode outcome)
    have bounds := f.stage.exitCode_bounds
    refine ⟨by omega, ?_, fun k two => ?_, fun one => by omega, controller, events⟩
    · rw [shut, phase, exit]
      exact ⟨fun zero => by omega, nofun⟩
    · rw [failed, start, exit]
      refine ⟨fun same => ⟨f, rfl, by omega⟩, ?_⟩
      rintro ⟨f', own, code⟩
      cases own
      omega
  | refused hs text start refused outcome phase =>
    have exit : o.exit = 1 := e.exit.trans (congrArg exitCode outcome)
    refine ⟨by omega, ?_, fun k two => ?_, fun _ => .inr ⟨s, lap, hs, text, l, refused⟩, controller, events⟩
    · rw [shut, phase, exit]
      exact ⟨nofun, nofun⟩
    · rw [failed, start]
      exact ⟨fun same => by omega, fun ⟨_, start, _⟩ => nomatch start⟩
  | shut hs start outcome phase =>
    have exit : o.exit = 0 := e.exit.trans (congrArg exitCode outcome)
    refine ⟨by omega, ?_, fun k two => ?_, fun one => by omega, controller, events⟩
    · rw [shut, phase]
      exact ⟨fun _ => rfl, fun _ => exit⟩
    · rw [failed, start]
      exact ⟨fun same => by omega, fun ⟨_, start, _⟩ => nomatch start⟩

end

end Launch

end CastLaunch
