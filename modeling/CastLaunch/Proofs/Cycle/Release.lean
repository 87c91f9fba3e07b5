import CastLaunch.Cycle.Failure
import CastLaunch.Cycle.Stop
import CastLaunch.Proofs.Execution

/-!
What a stop releases.  Its trail lists the releases that are made, each with how it
went.  Whatever fails on the way, the trail names the collaborators that are there,
each once, and the events of the stop are the account of its trail.
-/

namespace CastLaunch

def Call.isOfStop : Call → Bool
  | .destroyEngine | .closeSink | .destroyVideo | .destroyAudio | .destroyRegistrar | .unregisterService _
  | .withdrawRecord .. | .closeResponder => true
  | _ => false

def Entry.isOfStop : Entry → Bool
  | .log r => r.channel != .collaborator
  | .call c => c.isOfStop
  | _ => false

/-- The collaborator that the call brings to its end. -/
def Call.ends? : Call → Option Stage
  | .destroyEngine => some .engine
  | .closeSink => some .sink
  | .destroyVideo => some .video
  | .destroyAudio => some .audio
  | .destroyRegistrar | .closeResponder => some .discovery
  | _ => none

def Entry.ends? : Entry → Option Stage
  | .call c => c.ends?
  | _ => none

/-- The collaborators that the calls of a trace bring to their end. -/
def ended (events : List Entry) : List Stage := events.filterMap Entry.ends?

@[simp] theorem ended_nil : ended [] = [] := rfl

@[simp] theorem ended_append (a b : List Entry) : ended (a ++ b) = ended a ++ ended b :=
  List.filterMap_append

theorem ended_eq_nil {events : List Entry} (h : ∀ e ∈ events, e.ends? = none) : ended events = [] := by
  simpa [ended, List.filterMap_eq_nil_iff] using h

theorem ended_outline (events : List Entry) : ended (outline events) = ended events := by
  refine filterMap_outline (fun e aside => ?_) events
  cases e with
  | call c => cases c <;> first | rfl | cases aside
  | log r | raised f | cycle n => rfl

def Registrar.origin : Registrar → Origin
  | external => .external
  | builtIn _ => .builtIn

/-- Engines and renderers always come from outside. -/
def Origin.ofPresent (there : Bool) : Option Origin := if there then some .external else none

@[simp] theorem Origin.isSome_ofPresent (there : Bool) : (ofPresent there).isSome = there := by
  cases there <;> rfl

@[simp] theorem Origin.ofPresent_false : ofPresent false = none := rfl

def Handles.origin? (h : Handles) : Stage → Option Origin
  | .engine => Origin.ofPresent h.engine
  | .sink => h.sink.map (·.origin)
  | .video => Origin.ofPresent h.video
  | .audio => Origin.ofPresent h.audio
  | .discovery => h.registrar.map (·.origin)

def Handles.has (h : Handles) (k : Stage) : Bool := (h.origin? k).isSome

/-- Whether a call brings the collaborator to its end.  The built-in sink is closed without one. -/
def Stage.endsByCall (o : Origin) : Stage → Bool
  | .sink => o == .external
  | _ => true

def Handles.endsByCall (h : Handles) (k : Stage) : Bool := (h.origin? k).any fun o => k.endsByCall o

namespace Run

variable {σ : Type}

theorem perform_state (w : World) (c : Call) (s : σ) : (perform w c s).state = s := by
  rw [perform_apply]
  cases w.reply c <;> rfl

theorem perform_events (w : World) (c : Call) (s : σ) : (perform w c s).events = [.call c] := by
  rw [perform_apply]
  cases w.reply c <;> rfl

end Run

namespace Advertiser

theorem unregister_leaves {kind : Entry → Prop} (withdraws : ∀ name port, kind (.call (.withdrawRecord name port)))
    (logs : ∀ severity message, kind (.log ⟨severity, .discovery, message⟩)) (w : World) (k : Service) :
    Run.Leaves kind (unregister w k) := by
  refine Run.Keeps.bind Run.Keeps.read fun a => ?_
  cases a.records.lookup k with
  | none => exact Run.Keeps.pure ()
  | some r =>
    exact Run.Keeps.bind (Run.Keeps.update fun _ => rfl) fun _ =>
      Run.Keeps.bind (Run.Keeps.perform (withdraws ..)) fun _ => Run.Keeps.emit (logs _ _)

theorem unregisterQuietly_leaves {kind : Entry → Prop}
    (withdraws : ∀ name port, kind (.call (.withdrawRecord name port)))
    (logs : ∀ severity message, kind (.log ⟨severity, .discovery, message⟩)) (w : World) (k : Service) :
    Run.Leaves kind (unregisterQuietly w k) := by
  refine Run.Keeps.bind (unregister_leaves withdraws logs w k).attempt fun outcome => ?_
  cases outcome with
  | ok u => exact Run.Keeps.pure ()
  | error e => exact Run.Keeps.emit (logs _ _)

theorem ended_unregister (w : World) (k : Service) (a : Advertiser) : ended (unregister w k a).events = [] :=
  ended_eq_nil (unregister_leaves (fun _ _ => rfl) (fun _ _ => rfl) w k a).2

theorem unregisterQuietly_ok (w : World) (k : Service) : Run.Succeeds (unregisterQuietly w k) := by
  refine Run.Succeeds.bind (Run.Succeeds.attempt _) fun outcome => ?_
  cases outcome with
  | ok u => exact Run.Succeeds.pure ()
  | error e => exact Run.Succeeds.emit _

theorem ended_destroy (w : World) (a : Advertiser) : ended (destroy w a).events = [.discovery] := by
  have withdrawn : ended (Run.each (unregisterQuietly w) (a.records.map (·.1)) a).events = [] :=
    ended_eq_nil (Run.Keeps.each (unregisterQuietly_leaves (fun _ _ => rfl) (fun _ _ => rfl) w) _ a).2
  unfold destroy
  rw [Run.bind_of_ok (a := a) rfl, (Run.Succeeds.each (unregisterQuietly_ok w) _).bind_unit, Run.perform_events]
  simp only [Run.read_apply, List.nil_append, ended_append, withdrawn]
  rfl

theorem destroy_leaves {kind : Entry → Prop} (withdraws : ∀ name port, kind (.call (.withdrawRecord name port)))
    (logs : ∀ severity message, kind (.log ⟨severity, .discovery, message⟩)) (closes : kind (.call .closeResponder))
    (w : World) : Run.Leaves kind (destroy w) :=
  Run.Keeps.bind Run.Keeps.read fun _ =>
    Run.Keeps.bind (Run.Keeps.each (unregisterQuietly_leaves withdraws logs w) _) fun _ => Run.Keeps.perform closes

end Advertiser

namespace Sink

theorem announce_of_builtIn {w : World} {c : Call} {s : Sink} (h : s.origin = .builtIn) :
    announce w c s = ⟨.ok (), s, []⟩ := by
  rw [announce, Run.bind_of_ok (a := s) rfl]
  simp only [Run.read_apply, h, Run.pure_apply, List.append_nil]

theorem announce_of_external {w : World} {c : Call} {s : Sink} (h : s.origin = .external) :
    announce w c s = Run.perform w c s := by
  rw [announce, Run.bind_of_ok (a := s) rfl]
  simp only [Run.read_apply, h, List.nil_append]

theorem announce_leaves {w : World} {c : Call} {kind : Entry → Prop} (h : kind (.call c)) :
    Run.Leaves kind (announce w c) := by
  refine Run.Keeps.bind Run.Keeps.read fun s => ?_
  cases s.origin with
  | builtIn => exact Run.Keeps.pure ()
  | external => exact Run.Keeps.perform h

theorem announce_state (w : World) (c : Call) (s : Sink) : (announce w c s).state = s := by
  cases h : s.origin with
  | builtIn => rw [announce_of_builtIn h]
  | external => rw [announce_of_external h, Run.perform_state]

theorem announce_update_apply (w : World) (c : Call) (f : Sink → Sink) (s : Sink) :
    (announce w c >>= fun _ => Run.update f) s =
      ⟨(announce w c s).outcome, if (announce w c s).outcome.isOk then f s else s, (announce w c s).events⟩ := by
  cases ho : (announce w c s).outcome with
  | error e =>
    rw [Run.bind_of_error ho, announce_state]
    rfl
  | ok u =>
    rw [Run.bind_of_ok ho]
    simp only [Run.update_apply, announce_state, List.append_nil]
    rfl

theorem origin_close (w : World) (s : Sink) : (close w s).state.origin = s.origin := by
  rw [close, announce_update_apply]
  dsimp only
  split <;> rfl

theorem origin_setLevel (w : World) (level : Int) (s : Sink) : (setLevel w level s).state.origin = s.origin := by
  rw [setLevel, announce_update_apply]
  dsimp only
  split <;> rfl

theorem ended_close (w : World) (s : Sink) :
    ended (close w s).events = if s.origin = .external then [.sink] else [] := by
  rw [close, announce_update_apply]
  cases h : s.origin with
  | builtIn => simp [announce_of_builtIn h]
  | external =>
    rw [announce_of_external h, Run.perform_events]
    rfl

end Sink

namespace Release

def stage : Release → Stage
  | engine => .engine
  | service _ | registrar => .discovery
  | audio => .audio
  | video => .video
  | sink => .sink

def isLast : Release → Bool
  | service _ => false
  | _ => true

theorem applies_eq_has (h : Handles) (r : Release) : r.applies h = h.has r.stage := by
  cases r <;> simp [applies, Handles.has, Handles.origin?, stage]

theorem onRegistrar_of_builtIn {w : World} {c : Call} {x : Run Fault Advertiser Unit} {h : Handles} {a : Advertiser}
    (ha : h.registrar = some (.builtIn a)) :
    onRegistrar w c x h =
      ⟨(x a).outcome, { h with registrar := some (.builtIn (x a).state) }, (x a).events⟩ := by
  unfold onRegistrar
  rw [Run.bind_of_ok (a := h) rfl]
  simp only [Run.read_apply, ha, Run.within_apply, List.nil_append]

theorem onRegistrar_of_not_builtIn {w : World} {c : Call} {x : Run Fault Advertiser Unit} {h : Handles}
    (ha : ∀ a, h.registrar ≠ some (.builtIn a)) : onRegistrar w c x h = Run.perform w c h := by
  unfold onRegistrar
  rw [Run.bind_of_ok (a := h) rfl]
  simp only [Run.read_apply, List.nil_append]

theorem onRegistrar_leaves {w : World} {c : Call} {x : Run Fault Advertiser Unit} {kind : Entry → Prop}
    (hc : kind (.call c)) (hx : Run.Leaves kind x) : Run.Leaves kind (onRegistrar w c x) := by
  refine Run.Keeps.bind Run.Keeps.read fun h => ?_
  rcases h.registrar with _ | _ | a
  · exact Run.Keeps.perform hc
  · exact Run.Keeps.perform hc
  · exact Run.Keeps.within (fun _ _ => rfl) hx

theorem origin?_onRegistrar (w : World) (c : Call) (x : Run Fault Advertiser Unit) (h : Handles) :
    (onRegistrar w c x h).state.origin? = h.origin? := by
  by_cases ha : ∃ a, h.registrar = some (.builtIn a)
  · obtain ⟨a, ha⟩ := ha
    rw [onRegistrar_of_builtIn ha]
    funext k
    cases k <;> simp [Handles.origin?, ha, Registrar.origin]
  · rw [onRegistrar_of_not_builtIn (fun a h => ha ⟨a, h⟩), Run.perform_state]

theorem act_sink_of_some {w : World} {h : Handles} {s : Sink} (hs : h.sink = some s) :
    act w .sink h = ⟨(Sink.close w s).outcome, { h with sink := some (Sink.close w s).state },
      (Sink.close w s).events⟩ := by
  rw [act, Run.bind_of_ok (a := h) rfl]
  simp only [Run.read_apply, hs, Run.within_apply, List.nil_append]

theorem act_leaves (w : World) (r : Release) : Run.Leaves (·.isOfStop) (r.act w) := by
  cases r with
  | engine | audio | video => exact Run.Keeps.perform rfl
  | service k =>
    exact onRegistrar_leaves rfl (Advertiser.unregister_leaves (fun _ _ => rfl) (fun _ _ => rfl) w k)
  | registrar =>
    refine onRegistrar_leaves rfl (Advertiser.destroy_leaves (fun _ _ => ?_) (fun _ _ => ?_) ?_ w) <;> rfl
  | sink =>
    refine Run.Keeps.bind Run.Keeps.read fun h => ?_
    cases h.sink with
    | none => exact Run.Keeps.pure ()
    | some s =>
      refine Run.Keeps.within (fun _ _ => rfl) ?_
      exact Run.Keeps.bind (Sink.announce_leaves rfl) fun _ => Run.Keeps.update fun _ => rfl

theorem run_leaves {ε : Type} (w : World) (r : Release) : Run.Leaves (·.isOfStop) (r.run w : Run ε Handles Unit) := by
  refine Run.Keeps.bind Run.Keeps.read fun h => ?_
  cases r.applies h with
  | false => exact Run.Keeps.pure ()
  | true =>
    refine Run.Keeps.bind (act_leaves w r).attempt fun outcome => ?_
    cases outcome with
    | ok u => exact Run.Keeps.update fun _ => rfl
    | error e => exact Run.Keeps.bind (Run.Keeps.emit rfl) fun _ => Run.Keeps.update fun _ => rfl

/-- A release itself takes nobody away, also when it fails. -/
theorem origin?_act (w : World) (r : Release) (h : Handles) : (r.act w h).state.origin? = h.origin? := by
  cases r with
  | engine | audio | video => simp only [act, Run.perform_state]
  | service k => exact origin?_onRegistrar ..
  | registrar => exact origin?_onRegistrar ..
  | sink =>
    cases hs : h.sink with
    | none =>
      rw [act, Run.bind_of_ok (a := h) rfl]
      simp only [Run.read_apply, hs, Run.pure_apply]
    | some s =>
      rw [act_sink_of_some hs]
      funext k
      cases k <;> simp [Handles.origin?, hs, Sink.origin_close]

theorem ended_act {w : World} {r : Release} {h : Handles} (there : r.applies h = true) :
    ended (r.act w h).events = if r.isLast ∧ h.endsByCall r.stage then [r.stage] else [] := by
  cases r with
  | engine | audio | video =>
    simp only [act, Run.perform_events]
    simp only [applies] at there
    simp [isLast, stage, Handles.endsByCall, Handles.origin?, there, Origin.ofPresent, Stage.endsByCall, ended,
      Entry.ends?, Call.ends?]
  | service k =>
    simp only [act, isLast, Bool.false_eq_true, false_and, if_false]
    by_cases ha : ∃ a, h.registrar = some (.builtIn a)
    · obtain ⟨a, ha⟩ := ha
      rw [onRegistrar_of_builtIn ha]
      exact Advertiser.ended_unregister w k a
    · rw [onRegistrar_of_not_builtIn (fun a h => ha ⟨a, h⟩), Run.perform_events]
      rfl
  | registrar =>
    have expected : h.endsByCall (stage registrar) = true := by
      obtain ⟨registrar, hr⟩ := Option.isSome_iff_exists.mp there
      simp [stage, Handles.endsByCall, Handles.origin?, hr, Stage.endsByCall]
    simp only [act, isLast, expected, and_self, if_true]
    by_cases ha : ∃ a, h.registrar = some (.builtIn a)
    · obtain ⟨a, ha⟩ := ha
      rw [onRegistrar_of_builtIn ha]
      exact Advertiser.ended_destroy w a
    · rw [onRegistrar_of_not_builtIn (fun a h => ha ⟨a, h⟩), Run.perform_events]
      rfl
  | sink =>
    obtain ⟨s, hs⟩ := Option.isSome_iff_exists.mp there
    rw [act_sink_of_some hs]
    dsimp only
    rw [Sink.ended_close]
    cases ho : s.origin <;>
      simp [isLast, stage, Handles.endsByCall, Handles.origin?, hs, ho, Stage.endsByCall]

theorem origin?_clear (r : Release) (h : Handles) (k : Stage) :
    (r.clear h).origin? k = if r.isLast ∧ k = r.stage then none else h.origin? k := by
  cases r <;> cases k <;> simp [clear, Handles.origin?, isLast, stage]

def account (item : Release × Execution Fault Handles Unit) : List Entry :=
  item.2.events ++
    match item.2.outcome with
    | .ok () => []
    | .error e => [.log (failure item.1.label e.message)]

/-- The releases of a list that are made, each with how it goes. -/
def trail (w : World) : List Release → Handles → List (Release × Execution Fault Handles Unit)
  | [], _ => []
  | r :: rest, h =>
    if r.applies h then (r, r.act w h) :: trail w rest (r.clear (r.act w h).state) else trail w rest h

def leaves (w : World) : List Release → Handles → Handles
  | [], h => h
  | r :: rest, h => leaves w rest (if r.applies h then r.clear (r.act w h).state else h)

theorem run_of_applies {ε : Type} {w : World} {r : Release} {h : Handles} (there : r.applies h = true) :
    (r.run w : Run ε Handles Unit) h = ⟨.ok (), r.clear (r.act w h).state, account (r, r.act w h)⟩ := by
  unfold run
  rw [Run.bind_of_ok (a := h) rfl]
  simp only [Run.read_apply, there, if_true, List.nil_append]
  rw [Run.bind_of_ok (a := (r.act w h).outcome) rfl]
  cases ho : (r.act w h).outcome with
  | ok u =>
    simp [Run.attempt_apply, account, ho]
  | error e =>
    simp [Run.attempt_apply, account, ho]

theorem run_of_not_applies {ε : Type} {w : World} {r : Release} {h : Handles} (absent : r.applies h = false) :
    (r.run w : Run ε Handles Unit) h = ⟨.ok (), h, []⟩ := by
  unfold run
  rw [Run.bind_of_ok (a := h) rfl]
  simp [absent]

theorem each_run_apply {ε : Type} (w : World) (rs : List Release) (h : Handles) :
    (Run.each (run w) rs : Run ε Handles Unit) h = ⟨.ok (), leaves w rs h, (trail w rs h).flatMap account⟩ := by
  induction rs generalizing h with
  | nil => rfl
  | cons r rest ih =>
    cases there : r.applies h with
    | true =>
      rw [Run.each_cons, Run.bind_of_ok (a := ()) (by rw [run_of_applies there]), ih, run_of_applies there]
      simp [trail, leaves, there]
    | false =>
      rw [Run.each_cons, Run.bind_of_ok (a := ()) (by rw [run_of_not_applies there]), ih, run_of_not_applies there]
      simp [trail, leaves, there]

/-- No release takes away the collaborator of one behind it. -/
def Apart (rs : List Release) : Prop := rs.Pairwise fun a b => ¬(a.isLast = true ∧ b.stage = a.stage)

theorem order_apart : Apart order := by
  unfold Apart order
  decide

theorem origin?_released (w : World) (r : Release) (h : Handles) (k : Stage) :
    (r.clear (r.act w h).state).origin? k = if r.isLast ∧ k = r.stage then none else h.origin? k := by
  rw [origin?_clear, origin?_act]

/-- The trail names the releases of collaborators that are there, whatever fails on the way. -/
theorem names_trail (w : World) {rs : List Release} (apart : Apart rs) (h : Handles) :
    (trail w rs h).map (·.1) = rs.filter (·.applies h) := by
  induction rs generalizing h with
  | nil => rfl
  | cons r rest ih =>
    obtain ⟨first, others⟩ := List.pairwise_cons.mp apart
    cases there : r.applies h with
    | false => simp only [trail, there, Bool.false_eq_true, if_false, List.filter_cons, ih others h]
    | true =>
      have same : rest.filter (·.applies (r.clear (r.act w h).state)) = rest.filter (·.applies h) := by
        apply List.filter_congr
        intro b hb
        rw [applies_eq_has, applies_eq_has, Handles.has, Handles.has, origin?_released, if_neg (first b hb)]
      simp only [trail, there, if_true, List.map_cons, List.filter_cons, ih others, same]

theorem ended_account {w : World} {r : Release} {h : Handles} (there : r.applies h = true) :
    ended (account (r, r.act w h)) = if r.isLast ∧ h.endsByCall r.stage then [r.stage] else [] := by
  rw [account, ended_append, ended_act there]
  cases (r.act w h).outcome <;> simp [ended, Entry.ends?]

theorem endsByCall_released {w : World} {r : Release} {h : Handles} {k : Stage} (ne : ¬(r.isLast = true ∧ k = r.stage)) :
    (r.clear (r.act w h).state).endsByCall k = h.endsByCall k := by
  rw [Handles.endsByCall, Handles.endsByCall, origin?_released, if_neg ne]

theorem applies_of_endsByCall {r : Release} {h : Handles} (calls : h.endsByCall r.stage = true) : r.applies h = true := by
  rw [applies_eq_has, Handles.has]
  rw [Handles.endsByCall] at calls
  cases ho : h.origin? r.stage with
  | none => simp [ho] at calls
  | some o => rfl

/-- The calls of a list of releases: one for each collaborator that is there and needs one. -/
theorem ended_trail (w : World) {rs : List Release} (apart : Apart rs) (h : Handles) :
    ended ((trail w rs h).flatMap account) =
      ((rs.filter isLast).map stage).filter fun k => h.endsByCall k := by
  induction rs generalizing h with
  | nil => rfl
  | cons r rest ih =>
    obtain ⟨first, others⟩ := List.pairwise_cons.mp apart
    cases there : r.applies h with
    | false =>
      have quiet : h.endsByCall r.stage = false := by
        cases calls : h.endsByCall r.stage with
        | false => rfl
        | true => rw [applies_of_endsByCall calls] at there; cases there
      simp only [trail, there, Bool.false_eq_true, if_false, ih others h, List.filter_cons]
      cases r.isLast <;> simp [quiet]
    | true =>
      have same : ((rest.filter isLast).map stage).filter (fun k => (r.clear (r.act w h).state).endsByCall k) =
          ((rest.filter isLast).map stage).filter fun k => h.endsByCall k := by
        apply List.filter_congr
        intro k hk
        obtain ⟨b, hb, rfl⟩ := List.mem_map.mp hk
        exact endsByCall_released (first b (List.mem_filter.mp hb).1)
      simp only [trail, there, if_true, List.flatMap_cons, ended_append, ended_account there, ih others, same,
        List.filter_cons]
      cases r.isLast <;> cases calls : h.endsByCall r.stage <;> simp [calls]

end Release

namespace Handles

theorem release_apply {ε : Type} (w : World) (h : Handles) :
    (Handles.release w : Run ε Handles Unit) h =
      ⟨.ok (), Release.leaves w Release.order h, (Release.trail w Release.order h).flatMap Release.account⟩ :=
  Release.each_run_apply w Release.order h

theorem release_leaves {ε : Type} (w : World) : Run.Leaves (·.isOfStop) (Handles.release w : Run ε Handles Unit) :=
  Run.Keeps.each (Release.run_leaves w) _

end Handles

end CastLaunch
