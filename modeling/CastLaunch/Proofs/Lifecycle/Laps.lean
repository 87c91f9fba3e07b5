import CastLaunch.Proofs.Lifecycle.Lap

/-!
The laps of a launch.  A lap that ends without an exit code is followed by another one;
the last lap gives the end of the launch.  Whatever comes from outside, each lap begins
with a fresh session, at rest, and before any request to shut down.
-/

namespace CastLaunch

namespace Controller

structure Lap where
  script : Script
  before : Controller

namespace Lap

def run (s : Served) (lap : Lap) : Execution Fault Controller (Option Nat) := cycle s lap.script lap.before

def start (s : Served) (lap : Lap) : Execution StartError Session Handles :=
  s.start lap.script.world lap.before.session

end Lap

/-- The laps of a launch that begins with the controller. -/
def laps (s : Served) (quiet : World) : List Script → Controller → List Lap
  | [], c => [⟨{ world := quiet }, c⟩]
  | script :: rest, c =>
    ⟨script, c⟩ ::
      match (cycle s script c).outcome with
      | .ok none => laps s quiet rest (cycle s script c).state
      | _ => []

structure Begins (c : Controller) : Prop where
  resting : Resting c
  session : c.session = {}
  unasked : c.shutdownRequested = false
  counted : Counted c

theorem Begins.shutdowns {c : Controller} (b : Begins c) : c.shutdowns = 0 := by
  have unset := b.counted
  rw [Counted, b.unasked] at unset
  simpa using unset

inductive Journey (s : Served) : Controller → List Lap → Execution Fault Controller Nat → Prop where
  | last (lap : Lap) (begins : Begins lap.before) (ends : (lap.run s).outcome ≠ .ok none) :
      Journey s lap.before [lap]
        ⟨(lap.run s).outcome.map (·.getD 0), (lap.run s).state, (lap.run s).events⟩
  | next (lap : Lap) {rest : List Lap} {x : Execution Fault Controller Nat} (begins : Begins lap.before)
      (more : (lap.run s).outcome = .ok none) (behind : Journey s (lap.run s).state rest x) :
      Journey s lap.before (lap :: rest) ⟨x.outcome, x.state, (lap.run s).events ++ x.events⟩

theorem begins_of_more {s : Served} {script : Script} {c : Controller} (b : Begins c)
    (more : (cycle s script c).outcome = .ok none) : Begins (cycle s script c).state := by
  obtain ⟨way, g⟩ := goes s script b.resting
  have relaunched := g.outcome.symm.trans more
  obtain ⟨resting, fresh⟩ := g.fresh relaunched
  refine ⟨resting, fresh, g.unasked ?_, g.counted b.counted⟩
  cases way <;> first | rfl | cases relaunched

/-- A lap in which nothing happens is the last one. -/
theorem over_of_quiet (s : Served) {script : Script} {c : Controller} (r : Resting c) (quiet : script.running = []) :
    (cycle s script c).outcome ≠ .ok none := by
  obtain ⟨way, g⟩ := goes s script r
  intro more
  have relaunched := g.outcome.symm.trans more
  cases way <;> first | exact g.quietly quiet rfl | cases relaunched

theorem laps_of_over {s : Served} {quiet : World} {script : Script} {rest : List Script} {c : Controller}
    (ends : (cycle s script c).outcome ≠ .ok none) : laps s quiet (script :: rest) c = [⟨script, c⟩] := by
  rw [laps]
  split
  · rename_i more
    exact absurd more ends
  · rfl

theorem laps_of_more {s : Served} {quiet : World} {script : Script} {rest : List Script} {c : Controller}
    (more : (cycle s script c).outcome = .ok none) :
    laps s quiet (script :: rest) c = ⟨script, c⟩ :: laps s quiet rest (cycle s script c).state := by
  rw [laps, more]

theorem cyclesFrom_of_over {s : Served} {quiet : World} {script : Script} {rest : List Script} {c : Controller}
    (ends : (cycle s script c).outcome ≠ .ok none) :
    cyclesFrom s quiet (script :: rest) c =
      ⟨(cycle s script c).outcome.map (·.getD 0), (cycle s script c).state, (cycle s script c).events⟩ := by
  rw [cyclesFrom]
  cases ho : (cycle s script c).outcome with
  | error e => rw [Run.bind_of_error ho]; rfl
  | ok code? =>
    cases code? with
    | none => exact absurd ho ends
    | some code => rw [Run.bind_of_ok ho]; simp [Except.map]

theorem cyclesFrom_of_more {s : Served} {quiet : World} {script : Script} {rest : List Script} {c : Controller}
    (more : (cycle s script c).outcome = .ok none) :
    cyclesFrom s quiet (script :: rest) c =
      let x := cyclesFrom s quiet rest (cycle s script c).state
      ⟨x.outcome, x.state, (cycle s script c).events ++ x.events⟩ := by
  rw [cyclesFrom, Run.bind_of_ok more]

theorem cyclesFrom_nil (s : Served) (quiet : World) (c : Controller) :
    cyclesFrom s quiet [] c =
      ⟨(cycle s { world := quiet } c).outcome.map (·.getD 0), (cycle s { world := quiet } c).state,
        (cycle s { world := quiet } c).events⟩ := by
  rw [cyclesFrom]
  cases ho : (cycle s { world := quiet } c).outcome with
  | error e => rw [Run.bind_of_error ho]; rfl
  | ok code => rw [Run.bind_of_ok ho]; simp [Except.map]

theorem cyclesFrom_journey (s : Served) (quiet : World) (scripts : List Script) {c : Controller} (b : Begins c) :
    Journey s c (laps s quiet scripts c) (cyclesFrom s quiet scripts c) := by
  induction scripts generalizing c with
  | nil =>
    rw [cyclesFrom_nil]
    exact .last ⟨{ world := quiet }, c⟩ b (over_of_quiet s b.resting rfl)
  | cons script rest ih =>
    by_cases more : (cycle s script c).outcome = .ok none
    · rw [cyclesFrom_of_more more, laps_of_more more]
      exact .next ⟨script, c⟩ b more (ih (begins_of_more b more))
    · rw [cyclesFrom_of_over more, laps_of_over more]
      exact .last ⟨script, c⟩ b more

namespace Journey

variable {s : Served} {c : Controller} {ls : List Lap} {x : Execution Fault Controller Nat}

theorem begins (h : Journey s c ls x) : ∀ lap ∈ ls, Begins lap.before := by
  induction h with
  | last lap begins ends => simpa using begins
  | next lap begins more behind ih => simpa using ⟨begins, ih⟩

theorem events (h : Journey s c ls x) : x.events = ls.flatMap fun lap => (lap.run s).events := by
  induction h with
  | last lap begins ends => simp
  | next lap begins more behind ih => simp [ih]

theorem ends (h : Journey s c ls x) :
    ∃ last, ls.getLast? = some last ∧ x.outcome = (last.run s).outcome.map (·.getD 0) ∧ x.state = (last.run s).state ∧
      (last.run s).outcome ≠ .ok none := by
  induction h with
  | last lap begins ends => exact ⟨lap, rfl, rfl, rfl, ends⟩
  | next lap begins more behind ih =>
    obtain ⟨last, final, outcome, state, ends⟩ := ih
    exact ⟨last, by rw [List.getLast?_cons, final]; rfl, outcome, state, ends⟩

end Journey

/-- The controller of a launch that begins. -/
def opened : Controller := { loop := .accepting }

theorem opened_begins : Begins opened := ⟨⟨rfl, rfl, rfl⟩, rfl, rfl, by simp [Counted, opened]⟩

theorem run_apply (s : Served) (quiet : World) (scripts : List Script) :
    run s quiet scripts {} =
      ⟨(cyclesFrom s quiet scripts opened).outcome,
        { (cyclesFrom s quiet scripts opened).state with loop := .absent, timer := .absent, queue := [] },
        (cyclesFrom s quiet scripts opened).events⟩ := by
  let x := cyclesFrom s quiet scripts opened
  have attempted : (Run.attempt (cyclesFrom s quiet scripts) { loop := .accepting } :
      Execution Fault Controller (Except Fault Nat)) =
      ⟨.ok x.outcome, x.state, x.events⟩ := rfl
  change _ = Execution.mk x.outcome { x.state with loop := .absent, timer := .absent, queue := [] } x.events
  rw [run, Run.update_bind, Run.bind_of_ok (a := x.outcome) rfl, Run.update_bind, attempted]
  cases x.outcome with
  | ok code => simp
  | error e => simp

end Controller

end CastLaunch
