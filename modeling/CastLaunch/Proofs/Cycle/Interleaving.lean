import CastLaunch.Proofs.Cycle.Rollback
import CastLaunch.Proofs.Session.Routing

/-!
A start and a stop while the engine reports.  Each step and each release comes in two halves: its
calls, and what it leaves once they have returned.  Reports may come before, between and behind
them.  Without reports the halves make up the start and the stop.
-/

namespace CastLaunch

namespace Run

variable {ε σ α : Type}

/-- The calls of a run, without what it leaves. -/
def calls (x : Run ε σ Unit) : Run ε σ Unit := fun s => ⟨.ok (), s, (x s).events⟩

/-- What a run leaves, without its calls. -/
def effect (x : Run ε σ Unit) : Run ε σ Unit := fun s => ⟨(x s).outcome, (x s).state, []⟩

theorem calls_bind_effect (x : Run ε σ Unit) (f : Unit → Run ε σ α) :
    (calls x >>= fun _ => effect x >>= f) = (x >>= f) := by
  funext s
  have halves : (calls x >>= fun _ => effect x >>= f) s = ⟨((effect x >>= f) s).outcome, ((effect x >>= f) s).state,
      (x s).events ++ ((effect x >>= f) s).events⟩ := rfl
  rw [halves]
  cases outcome : (x s).outcome with
  | error e =>
    rw [bind_of_error (x := effect x) outcome, bind_of_error outcome]
    simp [effect]
  | ok u =>
    rw [bind_of_ok (x := effect x) outcome, bind_of_ok outcome]
    simp [effect]

/-- The items that a run over items comes to, each with the state that it finds. -/
def visits (f : α → Run ε σ Unit) : List α → σ → List (α × σ)
  | [], _ => []
  | a :: rest, s => (a, s) :: match (f a s).outcome with
    | .ok () => visits f rest (f a s).state
    | .error _ => []

variable {f : α → Run ε σ Unit}

theorem visits_cons_of_ok {a : α} {rest : List α} {s : σ} (ok : (f a s).outcome = .ok ()) :
    visits f (a :: rest) s = (a, s) :: visits f rest (f a s).state := by
  rw [visits, ok]

theorem visits_cons_of_error {a : α} {rest : List α} {s : σ} {e : ε} (failed : (f a s).outcome = .error e) :
    visits f (a :: rest) s = [(a, s)] := by
  rw [visits, failed]

theorem each_events (f : α → Run ε σ Unit) (items : List α) (s : σ) :
    (each f items s).events = (visits f items s).flatMap fun v => (f v.1 v.2).events := by
  induction items generalizing s with
  | nil => rfl
  | cons a rest ih =>
    rw [each_cons]
    cases outcome : (f a s).outcome with
    | error e => rw [bind_of_error outcome, visits_cons_of_error outcome]; simp
    | ok u => rw [bind_of_ok outcome, visits_cons_of_ok outcome, List.flatMap_cons, ih]

theorem visits_prefix (f : α → Run ε σ Unit) (items : List α) (s : σ) : (visits f items s).map (·.1) <+: items := by
  induction items generalizing s with
  | nil => exact List.prefix_rfl
  | cons a rest ih =>
    cases outcome : (f a s).outcome with
    | error e => rw [visits_cons_of_error outcome]; simp
    | ok u => rw [visits_cons_of_ok outcome]; simpa using ih _

/-- What each visit keeps is so at every visit and at the end. -/
theorem visits_invariant {P : List (α × σ) → σ → Prop} {items : List α} {s : σ} (begins : P [] s)
    (step : ∀ past a t, a ∈ items → P past t → P (past ++ [(a, t)]) (f a t).state) :
    (∀ past v later, visits f items s = past ++ v :: later → P past v.2) ∧
      P (visits f items s) (each f items s).state := by
  induction items generalizing s P with
  | nil => exact ⟨fun past v later split => by simp [visits] at split, begins⟩
  | cons a rest ih =>
    have here : P [(a, s)] (f a s).state := step [] a s List.mem_cons_self begins
    cases outcome : (f a s).outcome with
    | error e =>
      rw [visits_cons_of_error outcome, each_cons, bind_of_error outcome]
      refine ⟨fun past v later split => ?_, here⟩
      cases past with
      | nil => cases split; exact begins
      | cons u past => simp at split
    | ok u =>
      obtain ⟨later, final⟩ := ih (P := fun past t => P ((a, s) :: past) t) here
        fun past b t member => step ((a, s) :: past) b t (List.mem_cons_of_mem _ member)
      rw [visits_cons_of_ok outcome, each_cons, bind_of_ok outcome]
      refine ⟨fun past v rest split => ?_, final⟩
      cases past with
      | nil => cases split; exact begins
      | cons u past =>
        rw [List.cons_append, List.cons.injEq] at split
        obtain ⟨rfl, split⟩ := split
        exact later past v _ split

/-- What the visits give, as far as they get through, is given in the order of the items. -/
theorem given_prefix {β : Type} (g : α → Option β) (items : List α) (s : σ) :
    ((visits f items s).filterMap fun v => if (f v.1 v.2).outcome.isOk then g v.1 else none) <+: items.filterMap g := by
  induction items generalizing s with
  | nil => exact List.prefix_rfl
  | cons a rest ih =>
    cases outcome : (f a s).outcome with
    | error e => rw [visits_cons_of_error outcome]; simp [outcome, Except.isOk, Except.toBool]
    | ok u =>
      rw [visits_cons_of_ok outcome]
      cases given : g a with
      | none => simpa [outcome, given, Except.isOk, Except.toBool] using ih _
      | some b => simpa [outcome, given, Except.isOk, Except.toBool] using ih _

end Run

/-- A part of a cycle that calls a collaborator. -/
inductive Part where
  | step (a : Step)
  | release (r : Release)
  deriving DecidableEq, Repr

def Part.run (s : Served) (w : World) : Part → Run StartError Session Unit
  | step a => Session.onHandles (Step.run w s a)
  | release r => Session.onHandles (Release.run w r)

inductive Happening where
  /-- The engine reports; the world is how collaborators receive it. -/
  | report (notice : Notice) (w : World)
  /-- The calls of a part. -/
  | enter (p : Part)
  /-- What a part leaves when its calls have returned. -/
  | leave (p : Part)

namespace Happening

def run (s : Served) (w : World) : Happening → Run StartError Session Unit
  | report notice v => do
    let _ ← Run.attempt (notice.deliver v)
  | enter p => Run.calls (p.run s w)
  | leave p => Run.effect (p.run s w)

def isOwn : Happening → Bool
  | report .. => false
  | _ => true

def halves (parts : List Part) : List Happening := parts.flatMap fun p => [enter p, leave p]

theorem filter_halves (parts : List Part) : (halves parts).filter isOwn = halves parts := by
  refine List.filter_eq_self.mpr fun a member => ?_
  obtain ⟨p, -, half⟩ := List.mem_flatMap.mp member
  simp only [List.mem_cons, List.not_mem_nil, or_false] at half
  rcases half with rfl | rfl <;> rfl

theorem each_halves (s : Served) (w : World) (parts : List Part) :
    Run.each (run s w) (halves parts) = Run.each (Part.run s w) parts := by
  induction parts with
  | nil => rfl
  | cons p rest ih =>
    have apart : Run.each (run s w) (halves (p :: rest)) =
        (Run.calls (p.run s w) >>= fun _ => Run.effect (p.run s w) >>= fun _ => Run.each (run s w) (halves rest)) := rfl
    rw [apart, ih, Run.calls_bind_effect]
    rfl

/-- The collaborator that is there from this moment on, if it was given. -/
def gives? : Happening → Option Stage
  | leave (.step a) => a.makes?
  | _ => none

def makes? (s : Served) (w : World) (v : Happening × Session) : Option Stage :=
  if (v.1.run s w v.2).outcome.isOk then v.1.gives? else none

/-- The collaborator whose end is being called for. -/
def ends? : Happening → Option Stage
  | enter (.release r) => if r.isLast then some r.stage else none
  | _ => none

/-- The collaborator whose end has been called for. -/
def ended? : Happening → Option Stage
  | leave (.release r) => if r.isLast then some r.stage else none
  | _ => none

/-- What is received where this happens. -/
def due (v : Happening × Session) : List Entry :=
  match v.1 with
  | report notice _ => notice.due v.2.held
  | _ => []

/-- The call that ends the engine has returned, or has failed. -/
def Silenced (past : List (Happening × Session)) : Prop :=
  ∃ found, (leave (.release .engine), found) ∈ past ∧ found.held.has .engine = true

end Happening

namespace Served

/-- The reports of an engine between the parts of a start, of the releases of a start that fails, and of a stop. -/
structure Interleaving (s : Served) where
  opening : List Happening
  rollback : List Happening
  stop : List Happening
  opens : opening.filter Happening.isOwn = Happening.halves (s.plan.map .step)
  rollsBack : rollback.filter Happening.isOwn = Happening.halves (Release.order.map .release)
  stops : stop.filter Happening.isOwn = Happening.halves (Release.order.map .release)

namespace Interleaving

variable {s : Served}

/-- What follows the steps of the start: a stop, or the releases of a start that fails. -/
def close (x : s.Interleaving) (w w' : World) : Except StartError Unit → Run StartError Session Unit
  | .ok () => Run.each (Happening.run s w') x.stop
  | .error (.failed f) => do
    Run.log .error .cycle f.message
    Run.each (Happening.run s w) x.rollback
    Session.setHandles none
    Run.fail (.failed f)
  | .error (.fault e) => Run.fail (.fault e)

/-- A start and, if it gets through, a stop. -/
def run (x : s.Interleaving) (w w' : World) : Run StartError Session Unit := do
  Session.setHandles (some {})
  x.close w w' (← Run.attempt (Run.each (Happening.run s w) x.opening))

/-- How the steps of the start come to their end. -/
def opened (x : s.Interleaving) (w : World) (t : Session) : Execution StartError Session Unit :=
  Run.each (Happening.run s w) x.opening { t with handles := some {} }

/-- All that happens, each with the session that it finds. -/
def visits (x : s.Interleaving) (w w' : World) (t : Session) : List (Happening × Session) :=
  Run.visits (Happening.run s w) x.opening { t with handles := some {} } ++
    match (x.opened w t).outcome with
    | .ok () => Run.visits (Happening.run s w') x.stop (x.opened w t).state
    | .error (.failed _) => Run.visits (Happening.run s w) x.rollback (x.opened w t).state
    | .error (.fault _) => []

/-- A start and a stop without any report. -/
def alone (s : Served) : s.Interleaving where
  opening := Happening.halves (s.plan.map .step)
  rollback := Happening.halves (Release.order.map .release)
  stop := Happening.halves (Release.order.map .release)
  opens := Happening.filter_halves _
  rollsBack := Happening.filter_halves _
  stops := Happening.filter_halves _

theorem each_steps (s : Served) (w : World) (steps : List Step) (t : Session) :
    let x := Run.each (Step.run w s) steps {}
    Run.each (Happening.run s w) (Happening.halves (steps.map .step)) { t with handles := some {} } =
      ⟨x.outcome, { t with handles := some x.state }, x.events⟩ := by
  have parts : Run.each (Part.run s w) (steps.map .step) =
      Run.each (fun a => Session.onHandles (Step.run w s a)) steps := by
    induction steps with
    | nil => rfl
    | cons a rest ih => rw [List.map_cons, Run.each_cons, ih]; rfl
  rw [Happening.each_halves, parts]
  exact Session.each_onHandles _ _ rfl

theorem each_releases (s : Served) (w : World) (releases : List Release) (h : Handles) (t : Session) :
    Run.each (Happening.run s w) (Happening.halves (releases.map .release)) { t with handles := some h } =
      ⟨.ok (), { t with handles := some (Release.leaves w releases h) },
        (Release.trail w releases h).flatMap Release.account⟩ := by
  have parts : Run.each (Part.run s w) (releases.map .release) =
      Run.each (fun r => Session.onHandles (Release.run w r)) releases := by
    induction releases with
    | nil => rfl
    | cons a rest ih => rw [List.map_cons, Run.each_cons, ih]; rfl
  rw [Happening.each_halves, parts, Session.each_onHandles _ _ rfl, Release.each_run_apply]

theorem run_apply (x : s.Interleaving) (w w' : World) (t : Session) :
    let opened := x.opened w t
    let closed := x.close w w' opened.outcome opened.state
    x.run w w' t = ⟨closed.outcome, closed.state, opened.events ++ closed.events⟩ := rfl

/-- Without reports it is the start and the stop of the cycle. -/
theorem run_alone (s : Served) (w w' : World) (t : Session) :
    (alone s).run w w' t = (s.start w >>= fun _ => Session.onHandles (Handles.release w')) t := by
  have opened : (alone s).opened w t = ⟨(Run.each (Step.run w s) s.plan {}).outcome,
      { t with handles := some (s.reached w) }, (Run.each (Step.run w s) s.plan {}).events⟩ := each_steps s w s.plan t
  have start := s.start_apply w t
  rw [run_apply, opened]
  cases outcome : (Run.each (Step.run w s) s.plan {}).outcome with
  | ok u =>
    simp only [outcome] at start ⊢
    have stopped : (alone s).close w w' (.ok u) { t with handles := some (s.reached w) } =
        ⟨.ok (), { t with handles := some (Release.leaves w' Release.order (s.reached w)) },
          (Release.trail w' Release.order (s.reached w)).flatMap Release.account⟩ := each_releases ..
    rw [stopped, Run.bind_of_ok (a := s.reached w) (by rw [start]; rfl), start]
    simp [Session.onHandles, Handles.release_apply, reached]
  | error e =>
    cases e with
    | fault e =>
      simp only [outcome] at start ⊢
      rw [Run.bind_of_error (e := .fault e) (by rw [start]), start]
      simp [close, reached]
    | failed f =>
      simp only [outcome] at start ⊢
      have released := each_releases s w Release.order (s.reached w) t
      rw [Run.bind_of_error (e := .failed f) (by rw [start]), start, close, Run.log_bind]
      rw [Run.bind_of_ok (a := ()) (by rw [alone, released]), alone, released]
      simp [Session.setHandles, reached, failureRecord]

end Interleaving

end Served

end CastLaunch
