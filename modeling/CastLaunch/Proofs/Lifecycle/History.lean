import CastLaunch.Proofs.Lifecycle.Afresh
import Mathlib.Data.List.Induction

/-!
The phases of a launch.  They are rounds of starting, running and relaunch with an ending
behind them: the phases of a cycle that nothing follows, or the shutdown that overtakes the
last round.  The rounds are as many as the relaunches, each start is in its place, and the
ending tells how the launch ends.  What a controller remembers is what a queue holds that
takes every phase in its turn and gives up the oldest one when it is full.
-/

namespace CastLaunch

section

variable {α : Type}

/-- The queue with the item behind the others; the oldest item gives way when there is no room. -/
def remember (room : Nat) (queue : List α) (a : α) : List α := (queue ++ [a]).drop (queue.length + 1 - room)

theorem foldl_remember (room : Nat) (items : List α) :
    items.foldl (remember room) [] = items.drop (items.length - room) := by
  induction items using List.reverseRecOn with
  | nil => exact List.drop_nil.symm
  | append_singleton items a ih =>
    have kept : items.drop (items.length - room) ++ [a] = (items ++ [a]).drop (items.length - room) :=
      (List.drop_append_of_le_length (Nat.sub_le ..)).symm
    rw [List.foldl_append, ih, List.foldl_cons, List.foldl_nil, remember, kept, List.drop_drop, List.length_drop,
      List.length_append, List.length_singleton]
    congr 1
    omega

end

namespace Controller

theorem history_eq_foldl (c : Controller) : c.history = c.visited.foldl (remember Limits.historySize) [] :=
  (foldl_remember ..).symm

theorem history_suffix (c : Controller) : c.history <:+ c.visited := List.drop_suffix ..

/-- The phases of so many cycles with a relaunch behind each. -/
def rounds (n : Nat) : List Phase := (List.replicate n [.starting, .running, .relaunch]).flatten

theorem rounds_succ (n : Nat) : rounds (n + 1) = rounds n ++ [.starting, .running, .relaunch] := by
  rw [rounds, List.replicate_succ', List.flatten_append]
  rfl

theorem count_starting_rounds (n : Nat) : (rounds n).count .starting = n := by
  induction n with
  | zero => rfl
  | succ n ih =>
    rw [rounds_succ, List.count_append, ih]
    rfl

/-- What can come behind so many rounds at the end of a launch. -/
inductive Ending : Nat → List Phase → Prop where
  | stopped (n : Nat) : Ending n [.starting, .running, .shutdown]
  /-- The shutdown of a launch that was about to start again. -/
  | overtaken (n : Nat) : Ending (n + 1) [.shutdown]
  | unstarted (n : Nat) : Ending n [.starting]
  | broken (n : Nat) : Ending n [.starting, .running]

theorem Way.phases_of_more {way : Way} (more : way.outcome = .ok none) :
    way.phases = [.starting, .running, .relaunch] := by
  cases way with
  | relaunched h => rfl
  | failed f | broken e | refused h text | skipped h | ended h | overtaken h => cases more

/-- The phases of a last lap are an ending; if its relaunch is overtaken, they make up one round more. -/
theorem Way.ending {way : Way} (halts : way.outcome ≠ .ok none) (n : Nat) :
    ∃ ending, rounds n ++ way.phases = rounds (n + way.phases.count .relaunch) ++ ending ∧
      Ending (n + way.phases.count .relaunch) ending := by
  cases way with
  | relaunched h => exact absurd rfl halts
  | failed f | broken e => exact ⟨_, rfl, .unstarted n⟩
  | refused h text => exact ⟨_, rfl, .broken n⟩
  | skipped h | ended h => exact ⟨_, rfl, .stopped n⟩
  | overtaken h =>
    refine ⟨[.shutdown], ?_, .overtaken n⟩
    have round : (Way.overtaken h).phases.count .relaunch = 1 := rfl
    rw [round, rounds_succ, List.append_assoc]
    rfl

theorem Way.count_starting (way : Way) : way.phases.count .starting = 1 := by cases way <;> rfl

/-- Each lap of a launch begins behind the rounds of the laps before it. -/
theorem Journey.rounds {s : Served} {c : Controller} {ls : List Lap} {x : Execution Fault Controller Nat}
    (j : Journey s c ls x) {i : Nat} {lap : Lap} (there : ls[i]? = some lap) :
    lap.before.visited = c.visited ++ rounds i ∧ lap.before.relaunches = c.relaunches + i := by
  induction j generalizing i with
  | last only begins ends =>
    obtain ⟨rfl, rfl⟩ : i = 0 ∧ only = lap := by simpa [List.getElem?_singleton] using there
    exact ⟨(List.append_nil _).symm, rfl⟩
  | next first begins more behind ih =>
    cases i with
    | zero =>
      obtain rfl : first = lap := by simpa using there
      exact ⟨(List.append_nil _).symm, rfl⟩
    | succ i =>
      obtain ⟨way, g⟩ := goes s first.script begins.resting
      have phases := way.phases_of_more (g.outcome.symm.trans more)
      have visited : (first.run s).state.visited = first.before.visited ++ way.phases := g.visited
      have relaunches : (first.run s).state.relaunches = first.before.relaunches + way.phases.count .relaunch :=
        g.relaunches
      obtain ⟨later, count⟩ := ih there
      rw [later, count, visited, relaunches, phases, List.append_assoc]
      refine ⟨?_, by simp; omega⟩
      rw [Controller.rounds, Controller.rounds, List.replicate_succ, List.flatten_cons]

/-- A launch of so many laps ends as its last lap goes its way. -/
structure Concludes (s : Served) (ls : List Lap) (x : Execution Fault Controller Nat) (last : Lap) (way : Way) : Prop where
  final : ls.getLast? = some last
  goes : Goes s last.script last.before way
  halts : way.outcome ≠ .ok none
  outcome : x.outcome = way.outcome.map (·.getD 0)
  visited : x.state.visited = rounds (ls.length - 1) ++ way.phases
  relaunches : x.state.relaunches = ls.length - 1 + way.phases.count .relaunch
  starts : ls.length = x.state.visited.count .starting

theorem run_concludes (s : Served) (quiet : World) (scripts : List Script) :
    ∃ last way, Concludes s (laps s quiet scripts opened) (run s quiet scripts {}) last way := by
  have journey := cyclesFrom_journey s quiet scripts opened_begins
  obtain ⟨last, final, outcome, state, halts⟩ := journey.ends
  obtain ⟨way, g⟩ := goes s last.script (journey.begins last (List.mem_of_getLast? final)).resting
  obtain ⟨before, count⟩ := journey.rounds (List.getLast?_eq_getElem? ▸ final)
  have nonempty := List.length_pos_iff.mpr journey.ne_nil
  have ends : (last.run s).outcome = way.outcome := g.outcome
  have entered : (last.run s).state.visited = last.before.visited ++ way.phases := g.visited
  have more : (last.run s).state.relaunches = last.before.relaunches + way.phases.count .relaunch := g.relaunches
  rw [before] at entered
  rw [count] at more
  refine ⟨last, way, final, g, fun more => halts (ends.trans more), ?_, ?_, ?_, ?_⟩ <;>
    simp only [run_apply, state]
  · rw [outcome, ends]
  · exact entered
  · exact more.trans (congrArg (· + _) (Nat.zero_add _))
  · have none : opened.visited.count .starting = 0 := rfl
    rw [entered, List.count_append, List.count_append, count_starting_rounds, way.count_starting, none]
    omega

namespace Concludes

variable {s : Served} {ls : List Lap} {x : Execution Fault Controller Nat} {last : Lap} {way : Way}

theorem latest (h : Concludes s ls x last way) : x.state.visited.getLast? = way.phases.getLast? := by
  rw [h.visited, List.getLast?_append]
  cases way <;> rfl

theorem zero_iff (h : Concludes s ls x last way) : x.outcome = .ok 0 ↔ x.state.visited.getLast? = some .shutdown := by
  rw [h.outcome, h.latest]
  cases way with
  | relaunched hs => exact absurd rfl h.halts
  | failed f =>
    have bounds := f.stage.exitCode_bounds
    simp [Way.outcome, Way.phases, Except.map]
    omega
  | broken e | refused hs text | skipped hs | ended hs | overtaken hs => simp [Way.outcome, Way.phases, Except.map]

theorem failed_of_code (h : Concludes s ls x last way) {code : Nat} (exits : x.outcome = .ok code) (other : code ≠ 0) :
    x.state.visited.getLast? = some .starting ∧
      ∃ f, (last.start s).outcome = .error (.failed f) ∧ f.stage.exitCode = code := by
  have start : (last.start s).outcome = way.start := h.goes.start
  rw [h.latest, start]
  cases way with
  | relaunched hs => exact absurd rfl h.halts
  | failed f => exact ⟨rfl, f, rfl, Except.ok.inj (h.outcome.symm.trans exits)⟩
  | broken e | refused hs text => cases h.outcome.symm.trans exits
  | skipped hs | ended hs | overtaken hs => exact absurd (Except.ok.inj (h.outcome.symm.trans exits)).symm other

theorem refused_of_running (h : Concludes s ls x last way) (running : x.state.visited.getLast? = some .running) :
    ∃ hs text, last.Refused s hs text ∧ x.outcome = .error (.collaborator text) := by
  rw [h.latest] at running
  cases way with
  | refused hs text => exact ⟨hs, text, (refused_iff h.goes).mpr rfl, h.outcome⟩
  | failed f | broken e | skipped hs | ended hs | relaunched hs | overtaken hs => cases running

theorem error_of_starting (h : Concludes s ls x last way) (starting : x.state.visited.getLast? = some .starting) :
    ∃ e, (last.start s).outcome = .error e := by
  have start : (last.start s).outcome = way.start := h.goes.start
  rw [h.latest] at starting
  rw [start]
  cases way with
  | failed f | broken e => exact ⟨_, rfl⟩
  | refused hs text | skipped hs | ended hs | relaunched hs | overtaken hs => cases starting

end Concludes

/-- The phases of a launch tell how it went. -/
theorem phases_tell (s : Served) (quiet : World) (scripts : List Script) :
    let x := run s quiet scripts {}
    let w := x.state.visited
    ∃ n ending last, (laps s quiet scripts opened).getLast? = some last ∧
      w = rounds n ++ ending ∧ Ending n ending ∧ x.state.relaunches = n ∧
      (x.outcome = .ok 0 ↔ w.getLast? = some .shutdown) ∧
      (∀ code, x.outcome = .ok code → code ≠ 0 → w.getLast? = some .starting ∧
        ∃ f, (last.start s).outcome = .error (.failed f) ∧ f.stage.exitCode = code) ∧
      (w.getLast? = some .starting → ∃ e, (last.start s).outcome = .error e) ∧
      (w.getLast? = some .running → ∃ h text, last.Refused s h text ∧ x.outcome = .error (.collaborator text)) ∧
      numbers x.events = List.range (w.count .starting) ∧
      x.state.history <:+ w ∧ x.state.history.length = min 64 w.length ∧
      x.state.history = w.foldl (remember 64) [] := by
  intro x w
  obtain ⟨last, way, h⟩ := run_concludes s quiet scripts
  obtain ⟨ending, split, shape⟩ := way.ending h.halts ((laps s quiet scripts opened).length - 1)
  refine ⟨_, ending, last, h.final, h.visited.trans split, shape, h.relaunches, h.zero_iff, fun _ => h.failed_of_code,
    h.error_of_starting, h.refused_of_running, ?_, history_suffix _, (history_length _).trans (Nat.min_comm ..),
    history_eq_foldl _⟩
  have numbered := (cyclesFrom_journey s quiet scripts opened_begins).numbers
  have events : x.events = (cyclesFrom s quiet scripts opened).events := by simp only [x, run_apply]
  rw [events, numbered, List.range_eq_range', h.starts]
  rfl

end Controller

end CastLaunch
