import CastLaunch.Proofs.Lifecycle.Laps

/-!
The phase of a controller is the latest one that it entered.  Every part of a lap
maintains this: entering a phase notes it, and nothing else touches either of the two.
-/

namespace CastLaunch

namespace Run

variable {ε ε' σ α β : Type}

/-- The run leads from states with the property to such states, however it ends. -/
def Maintains (I : σ → Prop) (x : Run ε σ α) : Prop := ∀ s, I s → I (x s).state

namespace Maintains

variable {I : σ → Prop}

theorem pure (a : α) : Maintains I (Pure.pure a : Run ε σ α) := fun _ h => h

theorem fail (e : ε) : Maintains I (Run.fail e : Run ε σ α) := fun _ h => h

theorem read : Maintains I (Run.read : Run ε σ σ) := fun _ h => h

theorem log (severity : Severity) (channel : Channel) (message : String) :
    Maintains I (Run.log severity channel message : Run ε σ Unit) := fun _ h => h

theorem attempt {x : Run ε σ α} (h : Maintains I x) : Maintains I (Run.attempt x : Run ε' σ (Except ε α)) := h

theorem bind {x : Run ε σ α} {f : α → Run ε σ β} (hx : Maintains I x) (hf : ∀ a, Maintains I (f a)) :
    Maintains I (x >>= f) := by
  intro s h
  cases ho : (x s).outcome with
  | error e => rw [bind_of_error ho]; exact hx s h
  | ok a => rw [bind_of_ok ho]; exact hf a _ (hx s h)

theorem each {f : α → Run ε σ Unit} (hf : ∀ a, Maintains I (f a)) (items : List α) :
    Maintains I (Run.each f items) := by
  induction items with
  | nil => exact pure ()
  | cons a r ih => exact bind (hf a) fun _ => ih

theorem eachAmid {pause : β → Run ε σ Unit} {f : α → Run ε σ Unit} (hp : ∀ b, Maintains I (pause b))
    (hf : ∀ a, Maintains I (f a)) (pauses : List β) (items : List α) :
    Maintains I (Run.eachAmid pause f pauses items) := by
  induction pauses generalizing items with
  | nil => rw [eachAmid_nil]; exact each hf items
  | cons b bs ih =>
    cases items with
    | nil => exact hp b
    | cons a r => exact bind (hp b) fun _ => bind (hf a) fun _ => ih r

end Maintains

end Run

namespace Controller

variable {ε : Type}

/-- The phase is the latest one entered, if one was entered at all. -/
def Latest (c : Controller) : Prop := ∀ p, c.visited.getLast? = some p → c.phase = p

/-- What changes neither of the two. -/
theorem Latest.of_same {c d : Controller} (phase : d.phase = c.phase) (visited : d.visited = c.visited)
    (h : Latest c) : Latest d := by
  rw [Latest, phase, visited]
  exact h

theorem latest_update {f : Controller → Controller} (phase : ∀ c, (f c).phase = c.phase)
    (visited : ∀ c, (f c).visited = c.visited) : Run.Maintains Latest (Run.update f : Run ε Controller Unit) :=
  fun c h => h.of_same (phase c) (visited c)

theorem latest_enter (p : Phase) : Run.Maintains Latest (enter p : Run ε Controller Unit) := by
  intro c _ q final
  rw [enter, Run.update_apply, List.getLast?_concat] at final
  exact Option.some.inj final

theorem latest_onSession {α : Type} (x : Run ε Session α) : Run.Maintains Latest (onSession x) :=
  fun _ h => h.of_same rfl rfl

theorem latest_settle (timeout : Nat) (w : World) (events : List Event) :
    Run.Maintains Latest (settle timeout w events : Run ε Controller Unit) := by
  intro c h
  have stays := settle_stays (ε := ε) timeout w events c
  have phase := congrArg Controller.phase stays.standing
  exact h.of_same phase stays.visited

theorem latest_start (s : Served) (script : Script) : Run.Maintains Latest (start s script) := by
  have started : Run.Maintains Latest (s.startAmid script.world (·.session) (fun t c => { c with session := t })
      (settle s.config.idleTimeout script.world) script.amidStart script.amidStop) := by
    refine .bind (latest_onSession _) fun _ => .bind (.attempt ?_) fun outcome => ?_
    · exact .eachAmid (fun _ => latest_settle _ _ _) (fun _ => latest_onSession _) _ _
    · cases outcome with
      | ok u => exact .bind .read fun _ => .pure _
      | error e =>
        cases e with
        | fault e => exact .fail _
        | failed f =>
          refine .bind (.log _ _ _) fun _ => .bind ?_ fun _ => .bind (latest_onSession _) fun _ => .fail _
          exact .eachAmid (fun _ => latest_settle _ _ _) (fun _ => latest_onSession _) _ _
  refine .bind (latest_enter _) fun _ => .bind .read fun c => .bind (fun _ h => h) fun _ =>
    .bind (latest_update (fun _ => rfl) fun _ => rfl) fun _ => .bind started.attempt fun outcome => ?_
  cases outcome with
  | ok h => exact .bind (latest_update (fun _ => rfl) fun _ => rfl) fun _ => .pure _
  | error e =>
    cases e with
    | fault e => exact .fail _
    | failed f =>
      dsimp only
      split
      · exact .bind (.log _ _ _) fun _ => .pure _
      · exact .pure _

theorem latest_serveBatches (s : Served) (w : World) (batches : List (List Event)) :
    Run.Maintains Latest (serveBatches s w batches : Run ε Controller Unit) := by
  induction batches with
  | nil => exact latest_settle _ _ _
  | cons events rest ih =>
    refine .bind (latest_settle _ _ _) fun _ => .bind (latest_update (fun _ => rfl) fun _ => rfl) fun _ =>
      .bind .read fun c => ?_
    split
    · exact ih
    · exact .pure _

theorem latest_serve (s : Served) (script : Script) (h : Handles) : Run.Maintains Latest (serve s script h) := by
  have attached : Run.Maintains Latest (attach script.world h) := by
    unfold attach
    split
    · have kept : Run.Keeps id (fun _ => True) (Run.call script.world .attachEvents : Run Fault Controller Bool) :=
        Run.Keeps.call trivial
      intro c latest
      have same : (Run.call script.world .attachEvents c).state = c := (kept c).1
      rwa [same]
    · exact .pure _
  have detached : Run.Maintains Latest (detach script.world : Run Fault Controller Unit) :=
    fun c latest => by rwa [(detach_apply script.world c).2.1]
  refine .bind (latest_enter _) fun _ => .bind .read fun c => ?_
  split
  · exact .pure _
  · refine .bind (latest_update (fun _ => rfl) fun _ => rfl) fun _ => .bind attached fun subscribed =>
      .bind (latest_serveBatches _ _ _) fun _ => ?_
    split
    · exact .bind detached fun _ => .bind .read fun _ => .pure _
    · exact .bind .read fun _ => .pure _

theorem latest_stop (s : Served) (script : Script) (handles : Option Handles) :
    Run.Maintains Latest (stop s script handles : Run ε Controller Unit) := by
  refine .bind (latest_update (fun _ => rfl) fun _ => rfl) fun _ => ?_
  cases handles with
  | none => exact latest_onSession _
  | some h =>
    have released : Run.Maintains Latest (release s script h : Run ε Controller Unit) :=
      .bind (latest_settle _ _ _) fun _ => .bind (latest_onSession _) fun _ =>
        .eachAmid (fun _ => latest_settle _ _ _) (fun _ => latest_onSession _) _ _
    exact released.bind fun _ => latest_onSession _

theorem latest_shutDown (s : Served) (script : Script) (handles : Option Handles) :
    Run.Maintains Latest (shutDown s script handles : Run ε Controller Unit) :=
  .bind (latest_enter _) fun _ => .bind (.log _ _ _) fun _ => latest_stop _ _ _

theorem latest_relaunch (s : Served) (script : Script) (h : Handles) : Run.Maintains Latest (relaunch s script h) := by
  refine .bind (latest_enter _) fun _ => .bind (.log _ _ _) fun _ => .bind (latest_stop _ _ _) fun _ =>
    .bind (latest_onSession _) fun _ => .bind (latest_update (fun _ => rfl) fun _ => rfl) fun _ =>
      .bind .read fun c => ?_
  split
  · exact .bind (latest_shutDown _ _ _) fun _ => .pure _
  · exact .pure _

theorem latest_cycle (s : Served) (script : Script) : Run.Maintains Latest (cycle s script) := by
  refine .bind (latest_start _ _) fun started => ?_
  cases started with
  | error code => exact .pure _
  | ok h =>
    refine .bind (latest_settle _ _ _) fun _ => .bind (latest_serve _ _ _) fun next => ?_
    cases next with
    | relaunch => exact latest_relaunch _ _ _
    | starting | running | shutdown => exact .bind (latest_shutDown _ _ _) fun _ => .pure _

/-- A lap ends in the last one of the phases that it enters. -/
theorem Goes.phase {s : Served} {script : Script} {c : Controller} {way : Way} (g : Goes s script c way)
    (latest : Latest c) {p : Phase} (final : way.phases.getLast? = some p) : (cycle s script c).state.phase = p := by
  refine latest_cycle s script c latest p ?_
  rw [g.visited, List.getLast?_append, final]
  rfl

theorem Journey.latest {s : Served} {c : Controller} {ls : List Lap} {x : Execution Fault Controller Nat}
    (j : Journey s c ls x) (latest : Latest c) : ∀ lap ∈ ls, Latest lap.before := by
  induction j with
  | last lap begins ends => simpa using latest
  | next lap begins more behind ih =>
    simpa using ⟨latest, ih (latest_cycle s lap.script lap.before latest)⟩

end Controller

end CastLaunch
