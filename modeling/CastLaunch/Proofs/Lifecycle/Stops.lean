import CastLaunch.Proofs.Lifecycle.Laps

/-!
Starts and stops.  A launch gives back the collaborators of every start that gave it any,
once each and in the order of the starts, however it ends.  There is one way past that:
a renderer that refuses the subscription to its events ends the launch before the stop.
-/

namespace CastLaunch

namespace Controller

/-- The lap has its collaborators, nobody asked for a shutdown, and the renderer refuses the subscription to
its events. -/
structure Lap.Refused (s : Served) (lap : Lap) (h : Handles) (text : String) : Prop where
  start : (lap.start s).outcome = .ok h
  unasked : (atRunning s lap.script lap.before).shutdownRequested = false
  refuses : Refuses lap.script.world h text

variable {s : Served} {lap : Lap} {way : Way} {h : Handles} {text : String}

theorem refused_iff (g : Goes s lap.script lap.before way) : lap.Refused s h text ↔ way = .refused h text := by
  constructor
  · intro r
    have start : way.start = .ok h := g.start.symm.trans r.start
    have late : way.late? ≠ some true := fun late => by
      have asked := g.late true late
      rw [r.unasked] at asked
      cases asked
    cases way with
    | failed f | broken e => cases start
    | skipped h' => exact absurd rfl late
    | ended h' | relaunched h' | overtaken h' => exact absurd r.refuses (g.accepts rfl h start text)
    | refused h' text' =>
      cases start
      have same := (g.refuses h text' rfl).2.symm.trans r.refuses.2
      cases same
      rfl
  · rintro rfl
    exact ⟨g.start, g.late false rfl, g.refuses h text rfl⟩

theorem Way.given_back (unrefused : ∀ h text, way ≠ .refused h text) :
    way.stopped.filterMap id = way.start.toOption.toList := by
  cases way with
  | refused h text => exact absurd rfl (unrefused h text)
  | _ => rfl

theorem stopped_of_not_refused (r : Resting lap.before)
    (even : lap.before.stopped.filterMap id = lap.before.started) (unrefused : ∀ h text, ¬lap.Refused s h text) :
    (lap.run s).state.stopped.filterMap id = (lap.run s).state.started := by
  obtain ⟨way, g⟩ := goes s lap.script r
  have back := Way.given_back fun h text same => unrefused h text ((refused_iff g).mpr same)
  rw [Lap.run, g.stopped, g.started, List.filterMap_append, even, back]

theorem stopped_of_refused (r : Resting lap.before) (even : lap.before.stopped.filterMap id = lap.before.started)
    (refused : lap.Refused s h text) :
    (lap.run s).state.started = (lap.run s).state.stopped.filterMap id ++ [h] ∧
      (lap.run s).outcome = .error (.collaborator text) := by
  obtain ⟨way, g⟩ := goes s lap.script r
  obtain rfl := (refused_iff g).mp refused
  rw [Lap.run, g.stopped, g.started, List.filterMap_append, even]
  exact ⟨by simp [Way.stopped, Way.start, Except.toOption], g.outcome⟩

namespace Journey

variable {c : Controller} {ls : List Lap} {x : Execution Fault Controller Nat}

/-- From a controller that has given back what it was given, a launch comes to one that has, up to a refusal. -/
theorem stopped (j : Journey s c ls x) (even : c.stopped.filterMap id = c.started) :
    ((∀ lap ∈ ls, ∀ h text, ¬lap.Refused s h text) → x.state.stopped.filterMap id = x.state.started) ∧
      ∀ lap ∈ ls, ∀ h text, lap.Refused s h text →
        x.state.started = x.state.stopped.filterMap id ++ [h] ∧ x.outcome = .error (.collaborator text) := by
  induction j with
  | last lap begins ends =>
    refine ⟨fun unrefused => stopped_of_not_refused begins.resting even (unrefused lap (by simp)), ?_⟩
    intro l member h text refused
    obtain rfl : l = lap := by simpa using member
    obtain ⟨left, outcome⟩ := stopped_of_refused begins.resting even refused
    exact ⟨left, by rw [outcome]; rfl⟩
  | next lap begins more behind ih =>
    have unrefused : ∀ h text, ¬lap.Refused s h text := fun h text refused => by
      rw [(stopped_of_refused begins.resting even refused).2] at more
      cases more
    obtain ⟨whole, left⟩ := ih (stopped_of_not_refused begins.resting even unrefused)
    refine ⟨fun none => whole fun l member => none l (List.mem_cons_of_mem _ member), ?_⟩
    intro l member h text refused
    rcases List.mem_cons.mp member with rfl | behind
    · exact absurd refused (unrefused h text)
    · exact left l behind h text refused

theorem started (j : Journey s c ls x) :
    x.state.started = c.started ++ ls.filterMap fun lap => (lap.start s).outcome.toOption := by
  have single : ∀ lap : Lap, Begins lap.before →
      (lap.run s).state.started = lap.before.started ++ (lap.start s).outcome.toOption.toList := by
    intro lap begins
    obtain ⟨way, g⟩ := goes s lap.script begins.resting
    rw [Lap.run, g.started, Lap.start, g.start]
  induction j with
  | last lap begins ends =>
    rw [single lap begins]
    cases ho : (lap.start s).outcome.toOption <;> simp [ho]
  | next lap begins more behind ih =>
    rw [ih, single lap begins]
    cases ho : (lap.start s).outcome.toOption <;> simp [ho]

end Journey

theorem ended_start {h : Handles} (ok : (lap.start s).outcome = .ok h) : ended (lap.start s).events = [] := by
  rw [Lap.start, (Served.start_of_ok ok).2]
  exact Step.ended_each_run ..

theorem ended_attachCalls (h : Handles) : ended (attachCalls h) = [] := by
  unfold attachCalls
  split <;> rfl

theorem ended_of_refused (r : Resting lap.before) (refused : lap.Refused s h text) : ended (lap.run s).events = [] := by
  obtain ⟨way, g⟩ := goes s lap.script r
  obtain rfl := (refused_iff g).mp refused
  have start := ended_start refused.start
  rw [Lap.start] at start
  rw [← ended_outline, Lap.run, g.events, ended_append, Way.trace, ended_attachCalls]
  simpa [ended, Entry.ends?, ended_outline] using (ended_outline _).trans start

theorem released_of_not_refused (r : Resting lap.before) (ok : (lap.start s).outcome = .ok h)
    (unrefused : ∀ text, ¬lap.Refused s h text) :
    ∃ before, outline (lap.run s).events =
      before ++ outline (Handles.release lap.script.world h : Execution Fault Handles Unit).events := by
  obtain ⟨way, g⟩ := goes s lap.script r
  have start : way.start = .ok h := g.start.symm.trans ok
  rw [Lap.run, g.events]
  cases way with
  | failed f | broken e => cases start
  | refused h' text =>
    cases start
    exact absurd ((refused_iff g).mpr rfl) (unrefused text)
  | skipped h' =>
    cases start
    exact ⟨_, rfl⟩
  | ended h' | relaunched h' | overtaken h' =>
    cases start
    exact ⟨_, (List.append_assoc ..).symm⟩

/-- Every start that gives collaborators has its stop, but for one failure. -/
theorem stopped_eq_started_iff (s : Served) (quiet : World) (scripts : List Script) :
    let x := run s quiet scripts {}
    let ls := laps s quiet scripts opened
    x.events = ls.flatMap (fun lap => (lap.run s).events) ∧
      x.state.started = ls.filterMap (fun lap => (lap.start s).outcome.toOption) ∧
      (x.state.stopped.filterMap id = x.state.started ↔ ∀ lap ∈ ls, ∀ h text, ¬lap.Refused s h text) ∧
      (∀ lap ∈ ls, ∀ h, (lap.start s).outcome = .ok h → (∀ text, ¬lap.Refused s h text) →
        ∃ before, outline (lap.run s).events =
          before ++ outline (Handles.release lap.script.world h : Execution Fault Handles Unit).events) ∧
      ∀ lap ∈ ls, ∀ h text, lap.Refused s h text → x.state.started = x.state.stopped.filterMap id ++ [h] ∧
        x.outcome = .error (.collaborator text) ∧ ended (lap.run s).events = [] := by
  intro x ls
  have journey := cyclesFrom_journey s quiet scripts opened_begins
  obtain ⟨whole, left⟩ := journey.stopped (by rfl)
  have started := journey.started
  simp only [x, run_apply]
  refine ⟨journey.events, started, ⟨fun even lap member h text refused => ?_, whole⟩, ?_, ?_⟩
  · have lengths := congrArg List.length (even.trans (left lap member h text refused).1)
    simp at lengths
  · exact fun lap member h ok unrefused => released_of_not_refused (journey.begins lap member).resting ok unrefused
  · intro lap member h text refused
    obtain ⟨more, outcome⟩ := left lap member h text refused
    exact ⟨more, outcome, ended_of_refused (journey.begins lap member).resting refused⟩

end Controller

end CastLaunch
