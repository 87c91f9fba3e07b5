import CastLaunch.Proofs.Cycle.Interleaving

/-!
Whom reports reach while a cycle starts and stops.  A collaborator is published when it is made
and taken back only after the call that ends it.  But the engine is made before the others and
ended before them, so a report of a living engine finds those collaborators, and only those, that
were made in this cycle and are not being ended.
-/

namespace CastLaunch

namespace Happening

variable {s : Served} {w : World}

theorem received_part (s : Served) (w : World) (p : Part) (t : Session) : received (p.run s w t).events = [] := by
  have own : ∀ e ∈ (p.run s w t).events, e.isOfStart = true ∨ e.isOfStop = true := by
    cases p with
    | step a => exact fun e member => .inl ((Step.run_leaves w s a t.held).2 e member)
    | release r => exact fun e member => .inr ((Release.run_leaves (ε := StartError) w r t.held).2 e member)
  refine received_eq_nil fun e member => ?_
  have own := own e member
  cases e with
  | call c => cases c <;> first | rfl | simp [Entry.isOfStart, Call.isOfStart, Entry.isOfStop, Call.isOfStop] at own
  | log r => simpa [Entry.isReceived, Entry.isOfStart, Entry.isOfStop] using own
  | cycle n | raised f => rfl

theorem report_apply (notice : Notice) (v : World) (t : Session) :
    run s w (report notice v) t = ⟨.ok (), (notice.deliver v t).state, (notice.deliver v t).events⟩ := by
  simp [run]

theorem received_happening (s : Served) (w : World) (v : Happening × Session) :
    received (v.1.run s w v.2).events = due v := by
  obtain ⟨a, found⟩ := v
  cases a with
  | report notice v => rw [report_apply]; exact Notice.received_deliver v notice found
  | enter p => exact received_part s w p found
  | leave p => rfl

theorem received_each (s : Served) (w : World) (items : List Happening) (t : Session) :
    received (Run.each (run s w) items t).events = (Run.visits (run s w) items t).flatMap due := by
  rw [Run.each_events, received, List.filter_flatMap]
  exact congrArg (fun f => List.flatMap f _) (funext (received_happening s w))

end Happening

namespace Served.Interleaving

variable {s : Served}

theorem events_close (x : s.Interleaving) (w w' : World) (f : StartFailure) (u : Session) :
    (x.close w w' (.error (.failed f)) u).events =
      .log (failureRecord f) :: (Run.each (Happening.run s w) x.rollback u).events := by
  rw [close, Run.log_bind]
  cases ends : (Run.each (Happening.run s w) x.rollback u).outcome with
  | ok a => rw [Run.bind_of_ok ends]; exact congrArg (List.cons _) (List.append_nil _)
  | error e => rw [Run.bind_of_error ends]; rfl

/-- What is received in the course of a cycle is due to the reports, in their order. -/
theorem received_run (x : s.Interleaving) (w w' : World) (t : Session) :
    received (x.run w w' t).events = (x.visits w w' t).flatMap Happening.due := by
  rw [run_apply, visits, List.flatMap_append]
  dsimp only
  rw [received_append, opened, Happening.received_each]
  congr 1
  cases (Run.each (Happening.run s w) x.opening { t with handles := some {} }).outcome with
  | ok u => exact Happening.received_each ..
  | error e =>
    cases e with
    | fault e => rfl
    | failed f =>
      rw [events_close]
      exact Happening.received_each s w x.rollback _

end Served.Interleaving

theorem Release.has_run {ε : Type} (w : World) (r : Release) (h : Handles) (k : Stage) :
    ((r.run w : Run ε Handles Unit) h).state.has k = true ↔ h.has k = true ∧ ¬(r.isLast = true ∧ k = r.stage) := by
  cases there : r.applies h with
  | true =>
    rw [run_of_applies there, Handles.has, origin?_released]
    split <;> simp_all [Handles.has]
  | false =>
    rw [run_of_not_applies there]
    refine ⟨fun has => ⟨has, fun own => ?_⟩, And.left⟩
    rw [applies_eq_has, ← own.2, has] at there
    cases there

theorem Step.has_run (w : World) (s : Served) (step : Step) (h : Handles) (k : Stage) :
    (step.run w s h).state.has k = true ↔
      h.has k = true ∨ ((step.run w s h).outcome.isOk = true ∧ step.makes? = some k) := by
  rw [Handles.has, origin?_run]
  split <;> simp_all [Handles.has]

namespace Happening

variable {s : Served} {w : World}

theorem held_report (notice : Notice) (v : World) (t : Session) :
    (run s w (report notice v) t).state.held = t.held := by
  rw [report_apply, Session.held, Notice.handles_deliver, Session.held]

theorem mem_of_filter_own {items : List Happening} {parts : List Part} (own : items.filter isOwn = halves parts)
    {a : Happening} (member : a ∈ items) :
    (∃ notice v, a = report notice v) ∨ ∃ p ∈ parts, a = enter p ∨ a = leave p := by
  cases a with
  | report notice v => exact .inl ⟨notice, v, rfl⟩
  | enter p | leave p =>
    have half : _ ∈ items.filter isOwn := List.mem_filter.mpr ⟨member, rfl⟩
    rw [own] at half
    obtain ⟨q, there, half⟩ := List.mem_flatMap.mp half
    exact .inr ⟨q, there, by simpa using half⟩

theorem held_leave_step (a : Step) (t : Session) (k : Stage) :
    (run s w (leave (.step a)) t).state.held.has k = true ↔
      t.held.has k = true ∨ makes? s w (leave (.step a), t) = some k := by
  refine (Step.has_run w s a t.held k).trans (or_congr_right ?_)
  have outcome : (run s w (leave (.step a)) t).outcome = (a.run w s t.held).outcome := rfl
  rw [makes?, outcome, gives?]
  cases (a.run w s t.held).outcome.isOk <;> simp

theorem held_leave_release (r : Release) (t : Session) (k : Stage) :
    (run s w (leave (.release r)) t).state.held.has k = true ↔
      t.held.has k = true ∧ (leave (.release r)).ended? ≠ some k := by
  refine (Release.has_run w r t.held k).trans (and_congr_right' (not_congr ?_))
  rw [ended?]
  cases r.isLast <;> simp [eq_comm]

/-- While a start goes on, those are there that were made. -/
theorem held_opening {items : List Happening} {steps : List Step} (own : items.filter isOwn = halves (steps.map .step))
    {t : Session} (fresh : ∀ k, t.held.has k = false) :
    let Made := fun (past : List (Happening × Session)) (u : Session) =>
      ∀ k, u.held.has k = true ↔ k ∈ past.filterMap (makes? s w)
    (∀ past v later, Run.visits (run s w) items t = past ++ v :: later → Made past v.2) ∧
      Made (Run.visits (run s w) items t) (Run.each (run s w) items t).state := by
  intro Made
  refine Run.visits_invariant (P := Made) (fun k => by simp [fresh]) fun past a u member made k => ?_
  rw [List.filterMap_append, List.mem_append, ← made k]
  rcases mem_of_filter_own own member with ⟨notice, v, rfl⟩ | ⟨p, part, rfl | rfl⟩
  · rw [held_report]; simp [makes?, gives?]
  · simp [run, Run.calls, makes?, gives?, Except.isOk, Except.toBool]
  · obtain ⟨a, -, rfl⟩ := List.mem_map.mp part
    rw [held_leave_step]
    simp

/-- While releases go on, those are there that were there and whose end has not been called for. -/
theorem held_closing {items : List Happening} {releases : List Release}
    (own : items.filter isOwn = halves (releases.map .release)) (t : Session) :
    let Left := fun (past : List (Happening × Session)) (u : Session) =>
      ∀ k, u.held.has k = true ↔ t.held.has k = true ∧ k ∉ past.filterMap fun v => v.1.ended?
    (∀ past v later, Run.visits (run s w) items t = past ++ v :: later → Left past v.2) := by
  intro Left
  refine (Run.visits_invariant (P := Left) (fun k => by simp) fun past a u member left k => ?_).1
  rw [List.filterMap_append, List.mem_append, not_or, ← and_assoc, ← left k]
  rcases mem_of_filter_own own member with ⟨notice, v, rfl⟩ | ⟨p, part, rfl | rfl⟩
  · rw [held_report]; simp [ended?]
  · simp [run, Run.calls, ended?]
  · obtain ⟨r, -, rfl⟩ := List.mem_map.mp part
    rw [held_leave_release]
    simp

theorem filterMap_own {β : Type} {f : Happening → Option β} (spares : ∀ notice v, f (report notice v) = none)
    (items : List Happening) : (items.filter isOwn).filterMap f = items.filterMap f := by
  rw [List.filterMap_filter]
  congr 1
  funext a
  cases a with
  | report notice v => exact (spares notice v).symm
  | enter p | leave p => rfl

theorem given_steps (steps : List Step) :
    (halves (steps.map .step)).filterMap gives? = steps.filterMap Step.makes? := by
  induction steps with
  | nil => rfl
  | cons a rest ih =>
    have apart : halves ((a :: rest).map .step) = enter (.step a) :: leave (.step a) :: halves (rest.map .step) := rfl
    rw [apart, List.filterMap_cons_none rfl, List.filterMap_cons, ih, List.filterMap_cons]
    rfl

/-- Those that were made were made in the order of the steps. -/
theorem made_prefix {items : List Happening} {steps : List Step} (own : items.filter isOwn = halves (steps.map .step))
    (t : Session) : (Run.visits (run s w) items t).filterMap (makes? s w) <+: steps.filterMap Step.makes? := by
  have given : items.filterMap gives? = steps.filterMap Step.makes? := by
    rw [← filterMap_own (fun _ _ => rfl), own, given_steps]
  rw [← given]
  exact Run.given_prefix gives? items t

/-- Before the engine has been ended nobody else is being ended. -/
theorem ends_of_not_mem {items past : List Happening} (own : items.filter isOwn = halves (Release.order.map .release))
    (early : past <+: items) (running : leave (.release .engine) ∉ past) :
    (∀ k ∈ past.filterMap ends?, k = .engine) ∧ past.filterMap ended? = [] := by
  have first : past.filter isOwn <+: enter (.release .engine) :: leave (.release .engine) ::
      halves (Release.order.tail.map .release) := by
    have first := early.filter isOwn
    rw [own] at first
    exact first
  have running : leave (.release .engine) ∉ past.filter isOwn := fun member => running (List.mem_filter.mp member).1
  rw [← filterMap_own (f := ends?) (fun _ _ => rfl), ← filterMap_own (f := ended?) (fun _ _ => rfl)]
  cases begun : past.filter isOwn with
  | nil => simp
  | cons a rest =>
    rw [begun] at first running
    obtain ⟨rfl, next⟩ := List.cons_prefix_cons.mp first
    cases rest with
    | nil => simp [ends?, ended?, Release.isLast, Release.stage]
    | cons b rest =>
      obtain ⟨rfl, -⟩ := List.cons_prefix_cons.mp next
      simp at running

variable {items : List Happening} {steps : List Step} {releases : List Release}
  {past later : List (Happening × Session)} {v : Happening × Session}

theorem initial_of_split {t : Session} (split : Run.visits (run s w) items t = past ++ v :: later) :
    past.map (·.1) <+: items := by
  have whole := Run.visits_prefix (run s w) items t
  rw [split, List.map_append] at whole
  exact (List.prefix_append _ _).trans whole

theorem makes?_of_release (own : items.filter isOwn = halves (releases.map .release)) (early : past.map (·.1) <+: items)
    (w' : World) : past.filterMap (makes? s w') = [] := by
  refine List.filterMap_eq_nil_iff.mpr fun v member => ?_
  have gives : v.1.gives? = none := by
    rcases mem_of_filter_own own (early.subset (List.mem_map_of_mem member)) with
      ⟨notice, u, same⟩ | ⟨p, part, same | same⟩
    · rw [same]; rfl
    · rw [same]; rfl
    · obtain ⟨r, -, rfl⟩ := List.mem_map.mp part
      rw [same]; rfl
  rw [makes?, gives]
  split <;> rfl

theorem ends?_of_step (own : items.filter isOwn = halves (steps.map .step)) (early : past.map (·.1) <+: items) :
    past.filterMap (fun v => v.1.ends?) = [] := by
  refine List.filterMap_eq_nil_iff.mpr fun v member => ?_
  rcases mem_of_filter_own own (early.subset (List.mem_map_of_mem member)) with
    ⟨notice, u, same⟩ | ⟨p, part, same | same⟩
  · rw [same]; rfl
  · obtain ⟨a, -, rfl⟩ := List.mem_map.mp part
    rw [same]; rfl
  · rw [same]; rfl

/-- While releases go on, an engine that reports finds those that were made and are not being ended. -/
theorem held_of_speaking (own : items.filter isOwn = halves (Release.order.map .release)) {t : Session}
    {made : List Stage} (there : ∀ k, t.held.has k = true ↔ k ∈ made) (first : ∀ k ∈ made, .engine ∈ made)
    (split : Run.visits (run s w) items t = past ++ v :: later) (speaks : ¬Silenced past) {k : Stage}
    (other : k ≠ .engine) : v.2.held.has k = true ↔ k ∈ made ∧ k ∉ past.filterMap fun v => v.1.ends? := by
  have left := held_closing (s := s) (w := w) own t
  have flat : ∀ (f : Happening → Option Stage) (p : List (Happening × Session)),
      p.filterMap (fun v => f v.1) = (p.map (·.1)).filterMap f := fun f p => (List.filterMap_map ..).symm
  rw [left past v later split k, there]
  by_cases running : leave (.release .engine) ∈ past.map (·.1)
  · -- The engine's end has been called for without an engine, so nothing was made.
    obtain ⟨before, after, same, early⟩ := List.eq_append_cons_of_mem running
    obtain ⟨p, q, rfl, rfl, behind⟩ := List.map_eq_append_iff.mp same
    obtain ⟨u, q, rfl, call, rfl⟩ := List.map_eq_cons_iff.mp behind
    have untilCall : Run.visits (run s w) items t = p ++ u :: (q ++ v :: later) := by rw [split]; simp
    have here := left p u (q ++ v :: later) untilCall .engine
    have ended := (ends_of_not_mem own (initial_of_split untilCall) early).2
    rw [flat ended?, ended, there] at here
    have absent : ¬u.2.held.has .engine = true := fun has => speaks ⟨u.2, by rw [← call]; simp, has⟩
    have nobody : k ∉ made := fun member => absent (here.mpr ⟨first k member, by simp⟩)
    simp [nobody]
  · obtain ⟨ends, ended⟩ := ends_of_not_mem own (initial_of_split split) running
    rw [flat ended?, flat ends?, ended]
    refine and_congr_right' (iff_of_true (by simp) fun member => other (ends k member))

end Happening

namespace Served.Interleaving

variable {s : Served}

theorem eq_append_cases {α : Type} {a b past later : List α} {v : α} (split : a ++ b = past ++ v :: later) :
    (∃ rest, a = past ++ v :: rest) ∨ ∃ own, past = a ++ own ∧ b = own ++ v :: later := by
  rcases List.append_eq_append_iff.mp split with ⟨own, rfl, rfl⟩ | ⟨own, rfl, same⟩
  · exact .inr ⟨own, rfl, rfl⟩
  · cases own with
    | nil => exact .inr ⟨[], by simp, by simpa using same.symm⟩
    | cons u own =>
      rw [List.cons_append, List.cons.injEq] at same
      exact .inl ⟨own, by rw [same.1]⟩

theorem engine_made {made : List Stage} (order : made <+: s.plan.filterMap Step.makes?) {k : Stage}
    (member : k ∈ made) : .engine ∈ made := by
  cases made with
  | nil => cases member
  | cons j rest =>
    rw [s.makes_plan] at order
    obtain ⟨rfl, -⟩ := List.cons_prefix_cons.mp order
    exact List.mem_cons_self

/-- Those that the opening has made are there behind it, whatever follows. -/
theorem held_opened (x : s.Interleaving) (w : World) (t : Session) :
    let visits := Run.visits (Happening.run s w) x.opening { t with handles := some {} }
    (∀ past v later, visits = past ++ v :: later →
      ∀ k, v.2.held.has k = true ↔ k ∈ past.filterMap (Happening.makes? s w)) ∧
    (∀ k, (x.opened w t).state.held.has k = true ↔ k ∈ visits.filterMap (Happening.makes? s w)) :=
  Happening.held_opening x.opens fun k => by cases k <;> rfl

theorem held_closed (x : s.Interleaving) (w v : World) (t : Session) {items : List Happening}
    (own : items.filter Happening.isOwn = Happening.halves (Release.order.map .release))
    {past later : List (Happening × Session)} {u : Happening × Session}
    (split : Run.visits (Happening.run s v) items (x.opened w t).state = past ++ u :: later)
    (speaks : ¬Happening.Silenced past) {k : Stage} (other : k ≠ .engine) :
    let opening := Run.visits (Happening.run s w) x.opening { t with handles := some {} }
    u.2.held.has k = true ↔ k ∈ (opening ++ past).filterMap (Happening.makes? s w) ∧
      k ∉ (opening ++ past).filterMap fun v => v.1.ends? := by
  intro opening
  have made := Happening.made_prefix (s := s) (w := w) x.opens { t with handles := some {} }
  rw [List.filterMap_append, List.filterMap_append,
    Happening.makes?_of_release own (Happening.initial_of_split split) w,
    Happening.ends?_of_step x.opens (Run.visits_prefix ..), List.append_nil, List.nil_append]
  exact Happening.held_of_speaking own (x.held_opened w t).2 (fun _ member => engine_made made member) split speaks
    other

/-- What is received in the course of a cycle is due to the reports, in their order.  As long as the engine may
report, a report finds its receiver exactly when that was made in this cycle and is not being ended. -/
theorem reports_reach_living (x : s.Interleaving) (w w' : World) (t : Session) :
    received (x.run w w' t).events = (x.visits w w' t).flatMap Happening.due ∧
      ∀ past notice v found later k, x.visits w w' t = past ++ (.report notice v, found) :: later →
        notice.receiver? = some k → ¬Happening.Silenced past →
          (found.held.has k = true ↔
            k ∈ past.filterMap (Happening.makes? s w) ∧ k ∉ past.filterMap fun v => v.1.ends?) := by
  refine ⟨x.received_run w w' t, fun past notice v found later k split receives speaks => ?_⟩
  have other : k ≠ .engine := by
    rintro rfl
    cases notice <;> cases receives
  rcases eq_append_cases split with ⟨rest, opening⟩ | ⟨own, rfl, closing⟩
  · rw [(x.held_opened w t).1 past _ rest opening k,
      Happening.ends?_of_step x.opens (Happening.initial_of_split opening)]
    simp
  · have speaks : ¬Happening.Silenced own := fun ⟨found, member, has⟩ =>
      speaks ⟨found, List.mem_append_right _ member, has⟩
    cases outcome : (x.opened w t).outcome with
    | ok a =>
      rw [outcome] at closing
      exact x.held_closed w w' t x.stops closing speaks other
    | error e =>
      rw [outcome] at closing
      cases e with
      | failed f => exact x.held_closed w w t x.rollsBack closing speaks other
      | fault e => simp at closing

end Served.Interleaving

end CastLaunch
