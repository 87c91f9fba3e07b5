import CastLaunch.Cycle.Start
import CastLaunch.Proofs.Cycle.Release

/-!
What the steps of a start do to the collaborators.  A step that gets through adds the
collaborator that it makes, if it makes one; every other step, and every step that
fails, leaves the collaborators that are there.  So the collaborators behind any first
part of the plan are those that its factories gave.
-/

namespace CastLaunch

def Call.isOfStart : Call → Bool
  | .createEngine _ | .configureDisplay _ | .configurePorts .. | .createSink | .setSinkLevel _ | .bindSink _
  | .createVideo .. | .createAudio .. | .startVideo | .startAudio | .askPort | .startServer _
  | .createRegistrar .. | .bindRegistrar | .registerService .. | .publishRecord .. | .withdrawRecord ..
  | .openSocket | .connectSocket | .askSocketAddress | .closeSocket => true
  | _ => false

def Entry.isOfStart : Entry → Bool
  | .log r => r.channel != .collaborator
  | .call c => c.isOfStart
  | _ => false

def Step.makes? : Step → Option Stage
  | .createEngine => some .engine
  | .createSink => some .sink
  | .createVideo => some .video
  | .createAudio => some .audio
  | .createRegistrar => some .discovery
  | _ => none

/-- Where a collaborator of a launch comes from. -/
def Served.originOf (s : Served) : Stage → Origin
  | .sink => s.factories.sink
  | .discovery => s.factories.registrar
  | _ => .external

namespace Advertiser

theorem ownAddresses_ok (w : World) (addresses : Option (List String)) : Run.Succeeds (ownAddresses w addresses) := by
  cases addresses with
  | some given => exact Run.Succeeds.pure _
  | none =>
    apply Run.Succeeds.bind _ fun _ => Run.Succeeds.pure _
    refine Run.Succeeds.bind (Run.Succeeds.attempt _) fun outcome => ?_
    cases outcome with
    | ok u => exact Run.Succeeds.pure _
    | error e => exact Run.Succeeds.bind (Run.Succeeds.emit _) fun _ => Run.Succeeds.pure _

section

variable {w : World}

theorem create_of_none (there : w.responderFault? = none) (name : String) (d : DeviceIdentifier)
    (addresses : Option (List String)) :
    create w name d addresses () = (do
      return { name, identifier := d, addresses := ← ownAddresses w addresses } : Run Fault Unit Advertiser) () := by
  have opened : openResponder w () = ⟨.ok (), (), []⟩ := by rw [openResponder, there]; rfl
  rw [create, Run.bind_of_ok (by rw [opened]), opened]
  rfl

theorem create_of_some {text : String} (missing : w.responderFault? = some text) (name : String) (d : DeviceIdentifier)
    (addresses : Option (List String)) : create w name d addresses () = ⟨.error (.collaborator text), (), []⟩ := by
  have opened : openResponder w () = ⟨.error (.collaborator text), (), []⟩ := by rw [openResponder, missing]; rfl
  rw [create, Run.bind_of_error (by rw [opened]), opened]

/-- A new registrar comes into being unless the host gives it no responder. -/
theorem create_ok (there : w.responderFault? = none) (name : String) (d : DeviceIdentifier)
    (addresses : Option (List String)) : ∃ a, (create w name d addresses ()).outcome = .ok a := by
  rw [create_of_none there]
  exact Run.Succeeds.bind (ownAddresses_ok w addresses) (fun _ => Run.Succeeds.pure _) ()

end

theorem create_leaves {kind : Entry → Prop}
    (calls : ∀ c ∈ [Call.openSocket, .connectSocket, .askSocketAddress, .closeSocket], kind (.call c))
    (logs : ∀ severity message, kind (.log ⟨severity, .discovery, message⟩)) (w : World) (name : String)
    (d : DeviceIdentifier) (addresses : Option (List String)) : Run.Leaves kind (create w name d addresses) := by
  have asked : Run.Leaves kind (do Run.perform w .connectSocket; Run.perform w .askSocketAddress : Run Fault Unit Unit) :=
    Run.Keeps.bind (Run.Keeps.perform (calls _ (by simp))) fun _ => Run.Keeps.perform (calls _ (by simp))
  have route : Run.Leaves kind (routeSteps w) := by
    refine Run.Keeps.bind (Run.Keeps.perform (calls _ (by simp))) fun _ => Run.Keeps.bind asked.attempt fun outcome => ?_
    refine Run.Keeps.bind (Run.Keeps.perform (calls _ (by simp))) fun _ => ?_
    cases outcome with
    | ok u => exact Run.Keeps.pure _
    | error e => exact Run.Keeps.fail _
  have opened : Run.Leaves kind (openResponder w) := by
    unfold openResponder
    cases w.responderFault? with
    | none => exact Run.Keeps.pure _
    | some text => exact Run.Keeps.fail _
  refine Run.Keeps.bind opened fun _ => Run.Keeps.bind ?_ fun _ => Run.Keeps.pure _
  cases addresses with
  | some given => exact Run.Keeps.pure _
  | none =>
    refine Run.Keeps.bind (Run.Keeps.bind route.attempt fun outcome => ?_) fun _ => Run.Keeps.pure _
    cases outcome with
    | ok u => exact Run.Keeps.pure _
    | error e => exact Run.Keeps.bind (Run.Keeps.emit (logs _ _)) fun _ => Run.Keeps.pure _

theorem register_leaves (w : World) (k : Service) (port : Int) :
    Run.Leaves (·.isOfStart) (register w k port) := by
  have published : Run.Leaves (·.isOfStart) (publish w k port) := by
    refine Run.Keeps.bind Run.Keeps.read fun a => ?_
    cases record w a k port with
    | error e => exact Run.Keeps.fail _
    | ok r =>
      exact Run.Keeps.bind (Run.Keeps.perform rfl) fun _ =>
        Run.Keeps.bind (Run.Keeps.update fun _ => rfl) fun _ => Run.Keeps.emit rfl
  refine Run.Keeps.bind Run.Keeps.read fun a => Run.Keeps.bind (Run.Keeps.update fun _ => rfl) fun _ => ?_
  cases a.records.lookup k with
  | none => exact published
  | some previous => exact Run.Keeps.bind (Run.Keeps.perform rfl) fun _ => published

end Advertiser

namespace Step

/-- The collaborator that a step gives, by the way it ends. -/
def gives? (step : Step) : Except Fault Bool → Option Stage
  | .ok true => step.makes?
  | _ => none

theorem factory_apply (w : World) (c : Call) (put : Handles → Handles) (h : Handles) :
    factory w c put h =
      match w.reply c with
      | .done => ⟨.ok true, put h, [.call c]⟩
      | .nothing => ⟨.ok false, h, [.call c]⟩
      | .failed text => ⟨.error (.collaborator text), h, [.call c]⟩ := by
  rw [factory, Run.bind_apply, Run.call]
  cases w.reply c <;> rfl

theorem request_apply (w : World) (c : Call) (h : Handles) :
    request w c h =
      match w.reply c with
      | .failed text => ⟨.error (.collaborator text), h, [.call c]⟩
      | _ => ⟨.ok true, h, [.call c]⟩ := by
  rw [request, Run.bind_apply, Run.perform_apply]
  cases w.reply c <;> rfl

theorem origin?_request (w : World) (c : Call) (h : Handles) : (request w c h).state.origin? = h.origin? := by
  rw [request_apply]
  cases w.reply c <;> rfl

theorem factory_leaves {w : World} {c : Call} {put : Handles → Handles} (h : c.isOfStart = true) :
    Run.Leaves (·.isOfStart) (factory w c put) := by
  refine Run.Keeps.bind (Run.Keeps.call h) fun made => ?_
  cases made with
  | false => exact Run.Keeps.pure _
  | true => exact Run.Keeps.bind (Run.Keeps.update fun _ => rfl) fun _ => Run.Keeps.pure _

theorem request_leaves {w : World} {c : Call} (h : c.isOfStart = true) : Run.Leaves (·.isOfStart) (request w c) :=
  Run.Keeps.bind (Run.Keeps.perform h) fun _ => Run.Keeps.pure _

theorem gives?_of_makes {step : Step} (h : step.makes? = none) (outcome : Except Fault Bool) :
    step.gives? outcome = none := by
  unfold gives?
  split
  · exact h
  · rfl

theorem act_setSinkLevel_of_some {w : World} {s : Served} {h : Handles} {sink : Sink} (hs : h.sink = some sink) :
    act w s .setSinkLevel h = ⟨(Sink.setLevel w s.config.sinkLevel sink).outcome.map fun _ => true,
      { h with sink := some (Sink.setLevel w s.config.sinkLevel sink).state },
      (Sink.setLevel w s.config.sinkLevel sink).events⟩ := by
  rw [act, Run.bind_of_ok (a := h) rfl]
  simp only [Run.read_apply, hs, List.nil_append, Run.bind_apply, Run.within_apply]
  cases (Sink.setLevel w s.config.sinkLevel sink).outcome with
  | error e => rfl
  | ok u => simp [Except.map]

theorem act_setSinkLevel_of_none {w : World} {s : Served} {h : Handles} (hs : h.sink = none) :
    act w s .setSinkLevel h = ⟨.ok true, h, []⟩ := by
  rw [act, Run.bind_of_ok (a := h) rfl]
  simp only [Run.read_apply, hs, Run.pure_apply, List.append_nil]

theorem act_register_apply (w : World) (s : Served) (k : Service) (h : Handles) :
    let x := Release.onRegistrar w (.registerService k (servicePort h k)) (Advertiser.register w k (servicePort h k)) h
    act w s (.register k) h = ⟨x.outcome.map fun _ => true,
      if x.outcome.isOk then { x.state with registered := x.state.registered ++ [k] } else x.state, x.events⟩ := by
  intro x
  rw [act, Run.bind_of_ok (a := h) rfl]
  cases ho : x.outcome with
  | error e =>
    simp only [Run.read_apply, List.nil_append]
    rw [Run.bind_of_error ho]
    rfl
  | ok u =>
    simp only [Run.read_apply, List.nil_append]
    rw [Run.bind_of_ok ho]
    simp [x, Except.map, Except.isOk, Except.toBool]

section

variable {w : World} {s : Served}

theorem makeRegistrar_of_ok (source : s.factories.registrar = .builtIn) {a : Advertiser}
    (made : (Advertiser.create w s.config.name s.identifier none ()).outcome = .ok a) (h : Handles) :
    makeRegistrar w s h = ⟨.ok true, { h with registrar := some (.builtIn a) },
      (Advertiser.create w s.config.name s.identifier none ()).events⟩ := by
  rw [makeRegistrar, source]
  simp only [Run.bind_apply, Run.within_apply, made]
  simp

theorem makeRegistrar_of_some (source : s.factories.registrar = .builtIn) {text : String}
    (missing : w.responderFault? = some text) (h : Handles) :
    makeRegistrar w s h = ⟨.error (.collaborator text), h, []⟩ := by
  rw [makeRegistrar, source]
  simp only [Run.bind_apply, Run.within_apply, Advertiser.create_of_some missing]

end

/-- A collaborator given is there and comes from where the launch has it from; otherwise a step leaves
the collaborators that are there. -/
theorem origin?_act (w : World) (s : Served) (step : Step) (h : Handles) (j : Stage) :
    (step.act w s h).state.origin? j =
      if step.gives? (step.act w s h).outcome = some j then some (s.originOf j) else h.origin? j := by
  cases step with
  | createEngine =>
    rw [act, Run.bind_of_ok (a := ()) rfl]
    simp only [Run.update_apply, factory_apply]
    obtain ⟨reply, hr⟩ : ∃ reply, w.reply (.createEngine Limits.engineCapacity) = reply := ⟨_, rfl⟩
    cases reply <;> cases j <;> simp [hr, gives?, makes?, Handles.origin?, Served.originOf, Origin.ofPresent]
  | createSink =>
    rw [act, makeSink]
    cases ho : s.factories.sink with
    | builtIn => cases j <;> simp [gives?, makes?, Handles.origin?, Served.originOf, ho]
    | external =>
      simp only [factory_apply]
      obtain ⟨reply, hr⟩ : ∃ reply, w.reply .createSink = reply := ⟨_, rfl⟩
      cases reply <;> cases j <;> simp [hr, ho, gives?, makes?, Handles.origin?, Served.originOf]
  | createVideo =>
    rw [act, Run.bind_of_ok (a := h) rfl]
    cases hv : s.factories.video with
    | false => simp [gives?]
    | true =>
      simp only [Run.read_apply, if_true, factory_apply]
      obtain ⟨reply, hr⟩ : ∃ reply, w.reply (.createVideo h.sink.isSome s.config.name s.config.flip s.config.turn
        s.config.videoSink) = reply := ⟨_, rfl⟩
      cases reply <;> cases j <;> simp [hr, gives?, makes?, Handles.origin?, Served.originOf, Origin.ofPresent]
  | createAudio =>
    rw [act, Run.bind_of_ok (a := h) rfl]
    cases ha : s.factories.audio with
    | false => simp [gives?]
    | true =>
      simp only [Run.read_apply, if_true, factory_apply]
      obtain ⟨reply, hr⟩ : ∃ reply, w.reply (.createAudio h.sink.isSome h.video s.config.audioSink) = reply := ⟨_, rfl⟩
      cases reply <;> cases j <;> simp [hr, gives?, makes?, Handles.origin?, Served.originOf, Origin.ofPresent]
  | createRegistrar =>
    rw [act]
    cases ho : s.factories.registrar with
    | builtIn =>
      cases responder : w.responderFault? with
      | none =>
        obtain ⟨a, created⟩ := Advertiser.create_ok responder s.config.name s.identifier none
        have made := makeRegistrar_of_ok ho created h
        rw [Run.bind_of_ok (a := true) (by rw [made]), made]
        cases j <;> simp [gives?, makes?, Handles.origin?, Served.originOf, ho, Registrar.origin]
      | some text =>
        have failed := makeRegistrar_of_some ho responder h
        rw [Run.bind_of_error (by rw [failed]), failed]
        simp [gives?]
    | external =>
      obtain ⟨reply, hr⟩ : ∃ reply, w.reply (.createRegistrar s.config.name s.identifier) = reply := ⟨_, rfl⟩
      cases reply <;> cases j <;>
        simp [makeRegistrar, factory_apply, hr, ho, gives?, makes?, Handles.origin?, Served.originOf, Registrar.origin]
  | setSinkLevel =>
    rw [gives?_of_makes rfl]
    cases hs : h.sink with
    | none => simp [act_setSinkLevel_of_none hs]
    | some sink => rw [act_setSinkLevel_of_some hs]; cases j <;> simp [Handles.origin?, hs, Sink.origin_setLevel]
  | startServer =>
    rw [act]
    simp only [Run.bind_apply, Run.perform_apply]
    obtain ⟨reply, hr⟩ : ∃ reply, w.reply (.startServer (requestedPort s.config)) = reply := ⟨_, rfl⟩
    cases reply <;> simp [hr, gives?, makes?] <;> rfl
  | register k =>
    rw [gives?_of_makes rfl, act_register_apply]
    dsimp only
    rw [← Release.origin?_onRegistrar w (.registerService k (servicePort h k))
      (Advertiser.register w k (servicePort h k)) h]
    split <;> simp [Handles.origin?]
  | skipVideo | skipAudio => simp [act, gives?, makes?]
  | configureDisplay | configurePorts | bindSink | startVideo | startAudio | askPort | bindRegistrar =>
    rw [act, origin?_request, gives?_of_makes rfl]
    simp

theorem makeSink_leaves (w : World) (s : Served) : Run.Leaves (·.isOfStart) (makeSink w s) := by
  unfold makeSink
  cases s.factories.sink with
  | builtIn => exact Run.Keeps.bind (Run.Keeps.update fun _ => rfl) fun _ => Run.Keeps.pure _
  | external => exact factory_leaves rfl

theorem makeRegistrar_leaves (w : World) (s : Served) : Run.Leaves (·.isOfStart) (makeRegistrar w s) := by
  unfold makeRegistrar
  cases s.factories.registrar with
  | builtIn =>
    have created : Run.Leaves (·.isOfStart) (Advertiser.create w s.config.name s.identifier none) :=
      Advertiser.create_leaves (by decide) (fun _ _ => rfl) _ _ _ _
    refine Run.Keeps.bind (Run.Keeps.within (fun _ _ => rfl) created) fun a => ?_
    exact Run.Keeps.bind (Run.Keeps.update fun _ => rfl) fun _ => Run.Keeps.pure _
  | external => exact factory_leaves rfl

theorem act_leaves (w : World) (s : Served) (step : Step) : Run.Leaves (·.isOfStart) (step.act w s) := by
  cases step with
  | createEngine => exact Run.Keeps.bind (Run.Keeps.update fun _ => rfl) fun _ => factory_leaves rfl
  | createSink => exact makeSink_leaves w s
  | createVideo =>
    refine Run.Keeps.bind Run.Keeps.read fun h => ?_
    cases s.factories.video with
    | false => exact Run.Keeps.fail _
    | true => exact factory_leaves rfl
  | createAudio =>
    refine Run.Keeps.bind Run.Keeps.read fun h => ?_
    cases s.factories.audio with
    | false => exact Run.Keeps.fail _
    | true => exact factory_leaves rfl
  | createRegistrar =>
    refine Run.Keeps.bind (makeRegistrar_leaves w s) fun made => ?_
    cases made with
    | false => exact Run.Keeps.pure _
    | true => exact Run.Keeps.bind (Run.Keeps.update fun _ => rfl) fun _ => Run.Keeps.pure _
  | setSinkLevel =>
    refine Run.Keeps.bind Run.Keeps.read fun h => ?_
    cases h.sink with
    | none => exact Run.Keeps.pure _
    | some sink =>
      refine Run.Keeps.bind (Run.Keeps.within (fun _ _ => rfl) ?_) fun _ => Run.Keeps.pure _
      exact Run.Keeps.bind (Sink.announce_leaves rfl) fun _ => Run.Keeps.update fun _ => rfl
  | startServer =>
    refine Run.Keeps.bind (Run.Keeps.perform rfl) fun _ => Run.Keeps.bind (Run.Keeps.update fun _ => rfl) fun _ => ?_
    exact Run.Keeps.bind (Run.Keeps.emit rfl) fun _ => Run.Keeps.pure _
  | register k =>
    refine Run.Keeps.bind Run.Keeps.read fun h => ?_
    refine Run.Keeps.bind (Release.onRegistrar_leaves rfl (Advertiser.register_leaves _ _ _)) fun _ => ?_
    exact Run.Keeps.bind (Run.Keeps.update fun _ => rfl) fun _ => Run.Keeps.pure _
  | skipVideo | skipAudio => exact Run.Keeps.bind (Run.Keeps.emit rfl) fun _ => Run.Keeps.pure _
  | configureDisplay | configurePorts | bindSink | startVideo | startAudio | askPort | bindRegistrar =>
    exact request_leaves rfl

theorem stage?_of_makes {step : Step} {j : Stage} (h : step.makes? = some j) : step.stage? = some j := by
  cases step <;> first | exact h | cases h

theorem gives?_eq_some_iff (step : Step) (outcome : Except Fault Bool) (j : Stage) :
    step.gives? outcome = some j ↔ (step.judge outcome).isOk = true ∧ step.makes? = some j := by
  unfold gives? judge
  split
  · simp [Except.isOk, Except.toBool]
  · rename_i other
    refine ⟨fun h => (nomatch h), fun ⟨through, made⟩ => ?_⟩
    rw [stage?_of_makes made] at through
    cases outcome with
    | error e => cases through
    | ok b =>
      cases b with
      | true => exact absurd rfl other
      | false => cases through

theorem judge_eq_ok_iff {step : Step} {j : Stage} (charged : step.stage? = some j) (outcome : Except Fault Bool) :
    step.judge outcome = .ok () ↔ outcome = .ok true := by
  cases outcome with
  | ok b => cases b <;> simp [judge, charged]
  | error e => simp [judge, charged]

/-- Only the level of the sink can fail without a resource to charge. -/
theorem eq_setSinkLevel_of_fault {step : Step} {outcome : Except Fault Bool} {e : Fault}
    (h : step.judge outcome = .error (.fault e)) : step = .setSinkLevel ∧ outcome = .error e := by
  cases outcome with
  | ok b => cases b <;> cases step <;> cases h
  | error e' => cases step <;> cases h; exact ⟨rfl, rfl⟩

theorem origin?_run (w : World) (s : Served) (step : Step) (h : Handles) (j : Stage) :
    (step.run w s h).state.origin? j =
      if (step.run w s h).outcome.isOk ∧ step.makes? = some j then some (s.originOf j) else h.origin? j := by
  rw [run]
  dsimp only
  rw [origin?_act]
  exact ite_congr (propext (gives?_eq_some_iff ..)) (fun _ => rfl) fun _ => rfl

theorem run_leaves (w : World) (s : Served) (step : Step) : Run.Leaves (·.isOfStart) (step.run w s) :=
  act_leaves w s step

theorem ended_each_run (w : World) (s : Served) (steps : List Step) (h : Handles) :
    ended (Run.each (run w s) steps h).events = [] := by
  apply ended_eq_nil
  intro e he
  have own := (Run.Keeps.each (run_leaves w s) steps h).2 e he
  cases e with
  | call c => cases c <;> first | rfl | cases own
  | log r | cycle n | raised f => rfl

end Step

namespace Served

theorem startAmid_follows {σ τ β γ : Type} {R : σ → τ → Prop} {s : Served} {w : World}
    {part : σ → Session} {put : Session → σ → σ} {pause : β → Run StartError σ Unit} {steps releases : List β}
    {part' : τ → Session} {put' : Session → τ → τ} {pause' : γ → Run StartError τ Unit} {steps' releases' : List γ}
    (gives : ∀ u v, R u v → (part u).handles = (part' v).handles)
    (sets : ∀ h, Run.Follows R R (Run.within part put (Session.setHandles h) : Run StartError σ Unit)
      (Run.within part' put' (Session.setHandles h)))
    (plan : Run.Follows R R
      (Run.eachAmid pause (fun step => Run.within part put (Session.onHandles (Step.run w s step))) steps s.plan)
      (Run.eachAmid pause' (fun step => Run.within part' put' (Session.onHandles (Step.run w s step))) steps' s.plan))
    (order : Run.Follows R R
      (Run.eachAmid pause (fun r => Run.within part put (Session.onHandles (Release.run w r))) releases Release.order)
      (Run.eachAmid pause' (fun r => Run.within part' put' (Session.onHandles (Release.run w r))) releases'
        Release.order)) :
    Run.Follows R R (s.startAmid w part put pause steps releases) (s.startAmid w part' put' pause' steps' releases') := by
  refine Run.Follows.andThen (sets _) fun _ => Run.Follows.andThen plan.attempt fun outcome => ?_
  cases outcome with
  | ok u => exact fun u v h => ⟨by simp [gives u v h], h, rfl⟩
  | error e =>
    cases e with
    | fault e => exact Run.Follows.fail _
    | failed f =>
      refine Run.Follows.andThen (Run.Follows.log _ _ _) fun _ => ?_
      refine Run.Follows.andThen order fun _ => ?_
      exact Run.Follows.andThen (sets _) fun _ => Run.Follows.fail _

/-- The collaborators that the factories of a start give, in their order. -/
def created (s : Served) (w : World) : List Stage := (Run.done (Step.run w s) s.plan {}).filterMap Step.makes?

/-- The collaborators where the steps of a start come to an end. -/
def reached (s : Served) (w : World) : Handles := (Run.each (Step.run w s) s.plan {}).state

theorem makes_plan (s : Served) :
    s.plan.filterMap Step.makes? = [.engine, .sink] ++ (if s.config.videoEnabled then [.video] else []) ++
      (if s.config.audioEnabled then [.audio] else []) ++ [.discovery] := by
  cases hv : s.config.videoEnabled <;> cases ha : s.config.audioEnabled <;>
    simp only [plan, hv, ha] <;> rfl

theorem created_nodup (s : Served) (w : World) : (s.created w).Nodup := by
  have whole : (s.plan.filterMap Step.makes?).Nodup := by
    rw [makes_plan]
    cases s.config.videoEnabled <;> cases s.config.audioEnabled <;> decide
  refine whole.sublist (List.Sublist.filterMap _ ?_)
  exact (Run.done_prefix _ _ _).sublist

/-- Where the steps come to an end, the collaborators are there that the factories gave, and no others. -/
theorem origin?_each (s : Served) (w : World) (steps : List Step) (h : Handles) (j : Stage) :
    (Run.each (Step.run w s) steps h).state.origin? j =
      if j ∈ (Run.done (Step.run w s) steps h).filterMap Step.makes? then some (s.originOf j) else h.origin? j := by
  induction steps generalizing h with
  | nil => simp [Run.done]
  | cons step rest ih =>
    rw [Run.each_cons]
    cases ho : (step.run w s h).outcome with
    | error e =>
      rw [Run.bind_of_error ho, Step.origin?_run]
      simp [Run.done, ho, Except.isOk, Except.toBool]
    | ok u =>
      rw [Run.bind_of_ok ho]
      simp only [Run.done, ho, ih, Step.origin?_run]
      cases hm : step.makes? with
      | none => simp [hm]
      | some i =>
        rw [List.filterMap_cons_some hm]
        by_cases here : i = j
        · subst here
          simp [Except.isOk, Except.toBool]
        · have behind : ∀ r : List Stage, j ∈ i :: r ↔ j ∈ r := by simp [Ne.symm here]
          simp [behind, here]

theorem origin?_reached (s : Served) (w : World) (j : Stage) :
    (s.reached w).origin? j = if j ∈ s.created w then some (s.originOf j) else none := by
  rw [reached, origin?_each]
  cases j <;> rfl

end Served

end CastLaunch
