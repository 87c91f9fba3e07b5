import CastLaunch.Proofs.Lifecycle.Stops

/-!
One cycle behind the other.  Each cycle begins with a fresh session.  A cycle that is
followed by another one has by then given up its subscription, if it had one, and made
all its releases, whatever failed on the way and whatever was reported in between.
-/

namespace CastLaunch

def Entry.begins? : Entry → Option Nat
  | .cycle number => some number
  | _ => none

/-- The cycles that begin in a trace. -/
def numbers (events : List Entry) : List Nat := events.filterMap Entry.begins?

@[simp] theorem numbers_append (a b : List Entry) : numbers (a ++ b) = numbers a ++ numbers b :=
  List.filterMap_append

theorem numbers_eq_nil {events : List Entry} (h : ∀ e ∈ events, e.begins? = none) : numbers events = [] := by
  simpa [numbers, List.filterMap_eq_nil_iff] using h

theorem numbers_outline (events : List Entry) : numbers (outline events) = numbers events := by
  refine filterMap_outline (fun e aside => ?_) events
  cases e with
  | cycle n => cases aside
  | log r | raised f | call c => rfl

theorem begins?_of_isOfStart {e : Entry} (h : e.isOfStart = true) : e.begins? = none := by
  cases e with
  | cycle n => cases h
  | log r | raised f | call c => rfl

theorem begins?_of_isOfStop {e : Entry} (h : e.isOfStop = true) : e.begins? = none := by
  cases e with
  | cycle n => cases h
  | log r | raised f | call c => rfl

theorem numbers_release {ε : Type} (w : World) (h : Handles) :
    numbers ((Handles.release w : Run ε Handles Unit) h).events = [] :=
  numbers_eq_nil fun e member => begins?_of_isOfStop ((Handles.release_leaves w h).2 e member)

theorem numbers_steps (s : Served) (w : World) (steps : List Step) (h : Handles) :
    numbers (Run.each (Step.run w s) steps h).events = [] :=
  numbers_eq_nil fun e member => begins?_of_isOfStart ((Run.Keeps.each (Step.run_leaves w s) steps h).2 e member)

theorem numbers_start (s : Served) (w : World) (t : Session) : numbers (s.start w t).events = [] := by
  have steps := numbers_steps s w s.plan {}
  have releases := numbers_release (ε := StartError) w (s.reached w)
  rw [Handles.release_apply] at releases
  rw [Served.start_apply]
  cases ho : (Run.each (Step.run w s) s.plan {}).outcome with
  | ok u => exact steps
  | error e =>
    cases e with
    | fault e => exact steps
    | failed f =>
      rw [numbers_append, steps]
      exact releases

namespace Controller

theorem numbers_trace (w : World) (way : Way) : numbers (way.trace w) = [] := by
  have attaches : ∀ h, numbers (attachCalls h) = [] := by
    intro h
    unfold attachCalls
    split <;> rfl
  have detaches : ∀ h, numbers (detachCalls w h) = [] := by
    intro h
    unfold detachCalls
    split <;> rfl
  have releases : ∀ h, numbers (outline (Handles.release w h : Execution Fault Handles Unit).events) = [] := by
    intro h
    rw [numbers_outline, numbers_release]
  cases way with
  | failed f | broken e => rfl
  | refused h text => exact attaches h
  | skipped h => exact releases h
  | ended h | relaunched h | overtaken h =>
    rw [Way.trace, numbers_append, numbers_append, attaches, detaches, releases]
    rfl

variable {s : Served} {lap : Lap}

/-- A lap begins one cycle, and that one first; the start of the cycle comes next. -/
theorem lap_begins (r : Resting lap.before) :
    ∃ rest, outline (lap.run s).events = .cycle lap.before.cycles :: outline (lap.start s).events ++ rest ∧
      numbers (outline (lap.start s).events ++ rest) = [] := by
  obtain ⟨way, g⟩ := goes s lap.script r
  refine ⟨way.trace lap.script.world, g.events, ?_⟩
  rw [numbers_append, numbers_outline, Lap.start, numbers_start, numbers_trace]
  rfl

theorem numbers_lap (r : Resting lap.before) : numbers (lap.run s).events = [lap.before.cycles] := by
  obtain ⟨rest, events, others⟩ := lap_begins (s := s) r
  have first : numbers (.cycle lap.before.cycles :: outline (lap.start s).events ++ rest) =
      lap.before.cycles :: numbers (outline (lap.start s).events ++ rest) := rfl
  rw [← numbers_outline, events, first, others]

theorem Journey.numbers {c : Controller} {ls : List Lap} {x : Execution Fault Controller Nat} (j : Journey s c ls x) :
    numbers x.events = List.range' c.cycles ls.length := by
  induction j with
  | last lap begins ends => exact numbers_lap begins.resting
  | next lap begins more behind ih =>
    obtain ⟨way, g⟩ := goes s lap.script begins.resting
    have cycles : (lap.run s).state.cycles = lap.before.cycles + 1 := g.cycles
    rw [numbers_append, numbers_lap begins.resting, ih, cycles]
    rfl

/-- The lap has had collaborators, one of each kind that its factories gave, and has brought each of them to its
end, behind the end of its subscription. -/
structure Lap.TornDown (s : Served) (lap : Lap) (h : Handles) : Prop where
  start : (lap.start s).outcome = .ok h
  created : ∀ k, h.has k = true ↔ k ∈ s.created lap.script.world
  events : outline (lap.run s).events = .cycle lap.before.cycles :: outline (lap.start s).events ++
    (attachCalls h ++ detachCalls lap.script.world h ++
      outline ((Release.trail lap.script.world Release.order h).flatMap Release.account))
  detached : (lap.run s).events.count (.call .detachEvents) = (detachCalls lap.script.world h).length
  released : (Release.trail lap.script.world Release.order h).map (·.1) = Release.order.filter (·.applies h)
  ended : (ended (lap.run s).events).Perm ((s.created lap.script.world).filter fun k => k.endsByCall (s.originOf k))

theorem count_attachCalls (h : Handles) : (attachCalls h).count (.call .detachEvents) = 0 := by
  unfold attachCalls
  split <;> rfl

theorem count_detachCalls (w : World) (h : Handles) :
    (detachCalls w h).count (.call .detachEvents) = (detachCalls w h).length := by
  unfold detachCalls
  split <;> rfl

theorem count_start {h : Handles} (ok : (lap.start s).outcome = .ok h) :
    (lap.start s).events.count (.call .detachEvents) = 0 := by
  have steps := (Run.Keeps.each (Step.run_leaves lap.script.world s) s.plan {}).2
  rw [Lap.start, (Served.start_of_ok ok).2]
  refine List.count_eq_zero.mpr fun member => ?_
  have own := steps _ member
  cases own

theorem count_release (w : World) (h : Handles) :
    (Handles.release w h : Execution Fault Handles Unit).events.count (.call .detachEvents) = 0 := by
  refine List.count_eq_zero.mpr fun member => ?_
  have own := (Handles.release_leaves w h).2 _ member
  cases own

theorem tornDown_of_more (r : Resting lap.before) (more : (lap.run s).outcome = .ok none) :
    ∃ h, lap.TornDown s h := by
  obtain ⟨way, g⟩ := goes s lap.script r
  have relaunched : way.outcome = .ok none := g.outcome.symm.trans more
  cases way with
  | failed f | broken e | refused h text | skipped h | ended h | overtaken h => cases relaunched
  | relaunched h =>
    have start : (lap.start s).outcome = .ok h := g.start
    obtain ⟨same, events⟩ := Served.start_of_ok start
    have trace : outline (lap.run s).events = .cycle lap.before.cycles :: outline (lap.start s).events ++
        (attachCalls h ++ detachCalls lap.script.world h ++
          outline (Handles.release lap.script.world h : Execution Fault Handles Unit).events) := g.events
    refine ⟨h, start, ?_, ?_, ?_, Release.names_trail _ Release.order_apart h, ?_⟩
    · rw [same]
      exact s.has_reached lap.script.world
    · rw [trace, Handles.release_apply]
    · have first : (.cycle lap.before.cycles :: outline (lap.start s).events).count (.call .detachEvents) = 0 := by
        rw [List.count_cons_of_ne (by simp), count_outline rfl, count_start start]
      rw [← count_outline rfl, trace, List.count_append, List.count_append, List.count_append, first, count_attachCalls,
        count_detachCalls, count_outline rfl, count_release]
      omega
    · have quiet : ended (.cycle lap.before.cycles :: outline (lap.start s).events) = [] :=
        (ended_outline _).trans (ended_start start)
      have unsubscribed : ended (detachCalls lap.script.world h) = [] := by
        unfold detachCalls
        split <;> rfl
      rw [← ended_outline, trace, ended_append, quiet, ended_append, ended_append, ended_attachCalls, unsubscribed,
        ended_outline, Handles.release_apply, same]
      exact s.ended_rollback_perm lap.script.world

theorem Journey.ne_nil {c : Controller} {ls : List Lap} {x : Execution Fault Controller Nat} (j : Journey s c ls x) :
    ls ≠ [] := by
  cases j with
  | last lap begins ends => exact List.cons_ne_nil _ _
  | next lap begins more behind => exact List.cons_ne_nil _ _

theorem Journey.more {c : Controller} {ls : List Lap} {x : Execution Fault Controller Nat} (j : Journey s c ls x) :
    ∀ lap ∈ ls.dropLast, (lap.run s).outcome = .ok none := by
  induction j with
  | last lap begins ends => exact fun _ member => nomatch member
  | next lap begins more behind ih =>
    rw [List.dropLast_cons_of_ne_nil behind.ne_nil]
    intro l member
    rcases List.mem_cons.mp member with rfl | later
    · exact more
    · exact ih l later

/-- Cycles follow one another; each begins afresh, and behind the earlier one's teardown. -/
theorem cycles_begin_afresh (s : Served) (quiet : World) (scripts : List Script) :
    let x := run s quiet scripts {}
    let ls := laps s quiet scripts opened
    x.events = ls.flatMap (fun lap => (lap.run s).events) ∧ numbers x.events = List.range ls.length ∧
      (∀ lap ∈ ls, lap.before.session = { activity := ⟨0, true, 0⟩, handles := none } ∧
        ∃ rest, outline (lap.run s).events = .cycle lap.before.cycles :: outline (lap.start s).events ++ rest ∧
          numbers (outline (lap.start s).events ++ rest) = []) ∧
      ∀ lap ∈ ls.dropLast, ∃ h, lap.TornDown s h := by
  intro x ls
  have journey := cyclesFrom_journey s quiet scripts opened_begins
  have events : x.events = (cyclesFrom s quiet scripts opened).events := by
    simp only [x, run_apply]
  rw [events]
  refine ⟨journey.events, ?_, fun lap member => ?_, fun lap member => ?_⟩
  · rw [journey.numbers, List.range_eq_range']
    rfl
  · have begins := journey.begins lap member
    exact ⟨begins.session, lap_begins begins.resting⟩
  · exact tornDown_of_more (journey.begins lap ((List.dropLast_sublist ls).subset member)).resting (journey.more lap member)

end Controller

end CastLaunch
