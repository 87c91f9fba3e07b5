import CastLaunch.Proofs.Cycle.Rollback
import CastLaunch.Proofs.Cycle.Teardown
import CastLaunch.Proofs.Session.Routing
import CastLaunch.Proofs.Text.Trim
import CastLaunch.Provision
import Mathlib.Data.List.Forall2

/-!
What becomes of the messages of an engine.  A start gives the sink the threshold that the
configuration asks for, and the sink forwards what is known and passes the threshold until the stop
of the cycle.  Behind the stop nothing is forwarded.
-/

namespace CastLaunch
open CastLaunch.Text

/-- The record, if it is of what a collaborator said. -/
def Entry.forwarded? : Entry → Option LogRecord
  | .log r => if r.channel = .collaborator then some r else none
  | _ => none

/-- The records of a trace that messages of collaborators left. -/
def forwarded (events : List Entry) : List LogRecord := events.filterMap Entry.forwarded?

theorem forwarded_append (a b : List Entry) : forwarded (a ++ b) = forwarded a ++ forwarded b := List.filterMap_append

theorem forwarded_eq_nil {events : List Entry} (h : ∀ e ∈ events, e.forwarded? = none) : forwarded events = [] :=
  List.filterMap_eq_nil_iff.mpr h

/-- What the launch itself leaves at a start or a stop is no record of a collaborator. -/
theorem Entry.forwarded?_of_own {e : Entry} (own : e.isOfStart = true ∨ e.isOfStop = true) : e.forwarded? = none := by
  cases e with
  | log r => simpa [forwarded?, isOfStart, isOfStop] using own
  | call c | cycle n | raised f => rfl

theorem forwarded_received (events : List Entry) : forwarded (received events) = forwarded events := by
  rw [forwarded, received, List.filterMap_filter]
  congr 1
  funext e
  cases e with
  | log r => by_cases own : r.channel = .collaborator <;> simp [Entry.isReceived, Entry.forwarded?, own]
  | call c => exact ite_self _
  | cycle n | raised f => rfl

/-- Whether messages of the level are forwarded under the configuration. -/
def LaunchConfig.hears (c : LaunchConfig) (level : Int) : Bool :=
  [SinkLevel.error, SinkLevel.warning, SinkLevel.info].contains level || c.debugLog && level == SinkLevel.debug

structure Message where
  level : Int
  text : String
  deriving DecidableEq, Repr

/-- The known levels, each with its severity. -/
def Message.severities : List (Int × Severity) :=
  [(SinkLevel.error, .error), (SinkLevel.warning, .warning), (SinkLevel.info, .info), (SinkLevel.debug, .debug)]

/-- The record is the one of the message: of the severity of its level, and with its text up to the final
line breaks. -/
structure Message.Forwards (m : Message) (r : LogRecord) : Prop where
  severity : (m.level, r.severity) ∈ severities
  channel : r.channel = .collaborator
  text : ∃ n, m.text.toList = r.message.toList ++ List.replicate n '\n'
  unbroken : r.message.toList.getLast? ≠ some '\n'

theorem withoutFinalBreaks_eq_iff {text rest : String} :
    withoutFinalBreaks text = rest ↔
      (∃ n, text.toList = rest.toList ++ List.replicate n '\n') ∧ rest.toList.getLast? ≠ some '\n' := by
  rw [withoutFinalBreaks, ← String.toList_inj, String.toList_ofList, dropEnd_eq_iff]

theorem SinkLevel.severity?_eq_some_iff {level : Int} {severity : Severity} :
    severity? level = some severity ↔ (level, severity) ∈ Message.severities := by
  unfold severity?
  split_ifs with error warning info debug
  · subst error; cases severity <;> decide
  · subst warning; cases severity <;> decide
  · subst info; cases severity <;> decide
  · subst debug; cases severity <;> decide
  · simp [Message.severities, error, warning, info, debug]

/-- An open sink that has the level of the configuration. -/
structure Sink.Serves (sink : Sink) (c : LaunchConfig) : Prop where
  level : sink.level = c.sinkLevel
  isOpen : sink.closed = false

namespace Sink

variable {sink : Sink} {c : LaunchConfig} {level : Int} {m : Message} {r : LogRecord}

/-- Of the known levels those pass the threshold that the configuration asks for. -/
theorem passes_iff {severity : Severity} (known : (level, severity) ∈ Message.severities) :
    level ≤ c.sinkLevel ↔ c.hears level = true := by
  rw [LaunchConfig.sinkLevel, LaunchConfig.hears]
  simp only [Message.severities, List.mem_cons, Prod.mk.injEq, List.not_mem_nil, or_false] at known
  rcases known with ⟨rfl, -⟩ | ⟨rfl, -⟩ | ⟨rfl, -⟩ | ⟨rfl, -⟩ <;> cases c.debugLog <;> decide

theorem severities_of_hears (hears : c.hears level = true) : ∃ severity, (level, severity) ∈ Message.severities := by
  simp only [LaunchConfig.hears, Bool.or_eq_true, Bool.and_eq_true, List.contains_iff_mem, List.mem_cons,
    List.not_mem_nil, or_false, beq_iff_eq] at hears
  rcases hears with (rfl | rfl | rfl) | ⟨-, rfl⟩
  · exact ⟨.error, by decide⟩
  · exact ⟨.warning, by decide⟩
  · exact ⟨.info, by decide⟩
  · exact ⟨.debug, by decide⟩

theorem record?_eq_some_iff (serves : sink.Serves c) :
    sink.record? m.level m.text = some r ↔ c.hears m.level = true ∧ m.Forwards r := by
  have passes : ¬(sink.closed = true ∨ sink.level < m.level) ↔ m.level ≤ c.sinkLevel := by
    simp [serves.isOpen, serves.level]
  constructor
  · intro recorded
    rw [record?] at recorded
    split at recorded
    · cases recorded
    · next through =>
      obtain ⟨severity, found, rfl⟩ := Option.map_eq_some_iff.mp recorded
      have known := SinkLevel.severity?_eq_some_iff.mp found
      obtain ⟨text, unbroken⟩ := withoutFinalBreaks_eq_iff.mp (rfl : withoutFinalBreaks m.text = _)
      exact ⟨(passes_iff known).mp (passes.mp through), known, rfl, text, unbroken⟩
  · rintro ⟨hears, severity, channel, text, unbroken⟩
    rw [record?, if_neg (passes.mpr ((passes_iff severity).mpr hears)), SinkLevel.severity?_eq_some_iff.mpr severity,
      Option.map_some, withoutFinalBreaks_eq_iff.mpr ⟨text, unbroken⟩, ← channel]

theorem record?_isSome (serves : sink.Serves c) (hears : c.hears m.level = true) :
    ∃ r, sink.record? m.level m.text = some r := by
  obtain ⟨severity, known⟩ := severities_of_hears hears
  obtain ⟨text, unbroken⟩ := withoutFinalBreaks_eq_iff.mp (rfl : withoutFinalBreaks m.text = _)
  exact ⟨⟨severity, .collaborator, _⟩, (record?_eq_some_iff serves).mpr ⟨hears, known, rfl, text, unbroken⟩⟩

end Sink

/-- What is found for the items that have a property, and for no others, is related to them one by one. -/
theorem filterMap_eq_iff_forall₂ {α β : Type} {f : α → Option β} {p : α → Bool} {R : α → β → Prop}
    (some_iff : ∀ a b, f a = some b ↔ p a = true ∧ R a b) (found : ∀ a, p a = true → ∃ b, f a = some b)
    {items : List α} {results : List β} :
    items.filterMap f = results ↔ List.Forall₂ R (items.filter p) results := by
  induction items generalizing results with
  | nil => exact eq_comm.trans List.forall₂_nil_left_iff.symm
  | cons a rest ih =>
    cases own : p a with
    | false =>
      have none : f a = none := by
        cases result : f a with
        | none => rfl
        | some b => cases own.symm.trans ((some_iff a b).mp result).1
      rw [List.filterMap_cons_none none, List.filter_cons_of_neg (by simp [own]), ih]
    | true =>
      obtain ⟨b, result⟩ := found a own
      rw [List.filterMap_cons_some result, List.filter_cons_of_pos own]
      cases results with
      | nil => simp [List.forall₂_nil_right_iff]
      | cons b' others =>
        have same : b = b' ↔ R a b' := by
          rw [← and_iff_right (b := R a b') own, ← some_iff, result, Option.some.injEq]
        rw [List.cons.injEq, List.forall₂_cons, ih, same]

namespace Notice

/-- What an engine says with the report. -/
def message? : Notice → Option Message
  | message level text => some ⟨level, text⟩
  | _ => none

/-- Reports of an engine, each with the world that receives it.  One that fails does not keep back the others. -/
def deliverAll {ε : Type} : List (Notice × World) → Run ε Session Unit :=
  Run.each fun report => do
    let _ ← Run.attempt (report.1.deliver report.2)

/-- The messages among the reports. -/
def said (reports : List (Notice × World)) : List Message := reports.filterMap (·.1.message?)

variable {ε : Type}

theorem deliverAll_ok (reports : List (Notice × World)) : Run.Succeeds (deliverAll reports : Run ε Session Unit) :=
  Run.Succeeds.each (fun _ => .bind (.attempt _) fun _ => .pure _) reports

theorem events_deliverAll_cons (report : Notice × World) (rest : List (Notice × World)) (u : Session) :
    (deliverAll (report :: rest) u : Execution ε Session Unit).events =
      (report.1.deliver report.2 u).events ++
        (deliverAll rest (report.1.deliver report.2 u).state : Execution ε Session Unit).events := by
  simp [deliverAll]

/-- Of a report nothing is forwarded but what the sink records of its message. -/
theorem forwarded_deliver (w : World) (notice : Notice) (u : Session) :
    forwarded (notice.deliver w u).events =
      (notice.message?.bind fun m => u.held.sink.bind (·.record? m.level m.text)).toList := by
  rw [← forwarded_received, received_deliver, due]
  cases notice with
  | message level text =>
    rw [receiver?, tells, message?, Option.any_some, Option.bind_some]
    cases there : u.held.sink with
    | none => simp [Handles.has, Handles.origin?, there, forwarded]
    | some sink =>
      rw [if_pos (by rw [Handles.has, Handles.origin?, there]; rfl), Option.bind_some]
      cases recorded : sink.record? level text with
      | none => rfl
      | some r => simp [forwarded, Entry.forwarded?, channel_of_record recorded]
  | _ => split <;> rfl

theorem forwarded_deliverAll (reports : List (Notice × World)) (u : Session) :
    forwarded (deliverAll reports u : Execution ε Session Unit).events =
      (said reports).filterMap fun m => u.held.sink.bind (·.record? m.level m.text) := by
  induction reports generalizing u with
  | nil => rfl
  | cons report rest ih =>
    have kept := handles_deliver report.2 report.1 u
    rw [events_deliverAll_cons, forwarded_append, forwarded_deliver, ih, Session.held, Session.held, kept, said, said]
    cases message : report.1.message? with
    | none => simp [message]
    | some m => cases recorded : (u.handles.getD {}).sink.bind (·.record? m.level m.text) <;> simp [message, recorded]

/-- Without a sink nothing is forwarded. -/
theorem forwarded_deliverAll_of_none {reports : List (Notice × World)} {u : Session} (gone : u.held.sink = none) :
    forwarded (deliverAll reports u : Execution ε Session Unit).events = [] := by
  rw [forwarded_deliverAll, gone]
  exact List.filterMap_eq_nil_iff.mpr fun _ _ => rfl

end Notice

/-! What a start makes of the sink. -/

/-- Whether the step is about the sink itself. -/
def Step.setsSink : Step → Bool
  | .createSink | .setSinkLevel => true
  | _ => false

/-- The sink behind a step that gets through. -/
def Step.sinkBehind (s : Served) : Step → Option Sink → Option Sink
  | .createSink, _ => some { origin := s.factories.sink }
  | .setSinkLevel, sink => sink.map fun t => { t with level := s.config.sinkLevel }
  | _, sink => sink

namespace Step

variable {w : World} {s : Served} {step : Step} {h : Handles}

theorem factory_keepsSink {c : Call} {put : Handles → Handles} (same : ∀ h, (put h).sink = h.sink) :
    Run.Keeps Handles.sink (fun _ => True) (factory w c put) := by
  refine Run.Keeps.bind (.call trivial) fun made => ?_
  cases made with
  | false => exact .pure _
  | true => exact .bind (.update same) fun _ => .pure _

theorem request_keepsSink {c : Call} : Run.Keeps Handles.sink (fun _ => True) (request w c) :=
  .bind (.perform trivial) fun _ => .pure _

theorem makeRegistrar_keepsSink : Run.Keeps Handles.sink (fun _ => True) (makeRegistrar w s) := by
  unfold makeRegistrar
  cases s.factories.registrar with
  | builtIn =>
    refine .bind (.within (fun _ _ => rfl) fun _ => ⟨rfl, fun _ _ => trivial⟩) fun a => ?_
    exact .bind (.update fun _ => rfl) fun _ => .pure _
  | external => exact factory_keepsSink fun _ => rfl

theorem onRegistrar_keepsSink {c : Call} {x : Run Fault Advertiser Unit} :
    Run.Keeps Handles.sink (fun _ => True) (Release.onRegistrar w c x) := by
  refine Run.Keeps.bind .read fun h => ?_
  rcases h.registrar with _ | _ | a
  · exact .perform trivial
  · exact .perform trivial
  · exact .within (fun _ _ => rfl) fun _ => ⟨rfl, fun _ _ => trivial⟩

theorem act_keepsSink (w : World) (s : Served) (other : step.setsSink = false) :
    Run.Keeps Handles.sink (fun _ => True) (step.act w s) := by
  cases step with
  | createSink | setSinkLevel => cases other
  | createEngine => exact .bind (.update fun _ => rfl) fun _ => factory_keepsSink fun _ => rfl
  | createVideo =>
    refine Run.Keeps.bind .read fun h => ?_
    cases s.factories.video with
    | false => exact .fail _
    | true => exact factory_keepsSink fun _ => rfl
  | createAudio =>
    refine Run.Keeps.bind .read fun h => ?_
    cases s.factories.audio with
    | false => exact .fail _
    | true => exact factory_keepsSink fun _ => rfl
  | createRegistrar =>
    refine Run.Keeps.bind makeRegistrar_keepsSink fun made => ?_
    cases made with
    | false => exact .pure _
    | true => exact .bind (.update fun _ => rfl) fun _ => .pure _
  | startServer =>
    refine Run.Keeps.bind (.perform trivial) fun _ => .bind (.update fun _ => rfl) fun _ => ?_
    exact .bind (.emit trivial) fun _ => .pure _
  | register k =>
    refine Run.Keeps.bind .read fun h => .bind onRegistrar_keepsSink fun _ => ?_
    exact .bind (.update fun _ => rfl) fun _ => .pure _
  | skipVideo | skipAudio => exact .bind (.emit trivial) fun _ => .pure _
  | configureDisplay | configurePorts | bindSink | startVideo | startAudio | askPort | bindRegistrar =>
    exact request_keepsSink

theorem factory_of_done {c : Call} {put : Handles → Handles} (done : w.reply c = .done) (h : Handles) :
    factory w c put h = ⟨.ok true, put h, [.call c]⟩ := by
  rw [factory_apply, done]

theorem sink_run (through : (step.run w s h).outcome = .ok ()) :
    (step.run w s h).state.sink = step.sinkBehind s h.sink := by
  cases step with
  | createSink =>
    have made := (act_createSink_eq_ok_iff w s h).mp ((run_eq_ok_iff rfl).mp through)
    rw [run, act, makeSink, sinkBehind]
    cases origin : s.factories.sink with
    | builtIn => rfl
    | external => exact congrArg (fun x => x.state.sink) (factory_of_done (made origin) h)
  | setSinkLevel =>
    rw [run] at through ⊢
    cases there : h.sink with
    | none => rw [act_setSinkLevel_of_none there]; exact there
    | some sink =>
      rw [act_setSinkLevel_of_some there, Sink.setLevel, Sink.announce_update_apply] at through ⊢
      cases outcome : (Sink.announce w (.setSinkLevel s.config.sinkLevel) sink).outcome with
      | error e => rw [outcome] at through; cases through
      | ok u => rfl
  | _ => exact (act_keepsSink w s rfl h).1

end Step

/-! What a stop leaves of the sink. -/

theorem Session.onHandles_release {ε : Type} (w : World) (u : Session) :
    (onHandles (Handles.release w) : Run ε Session Unit) u =
      ⟨.ok (), { u with handles := some u.held.emptied }, (Release.made w u.held).flatMap Release.Made.entries⟩ := by
  have whole : (Handles.release w : Run ε Handles Unit) u.held = _ := Handles.release_makes w u.held ε
  rw [onHandles, Run.within_apply, ← held, whole]

theorem Handles.forwarded_release (w : World) (h : Handles) :
    forwarded ((Release.made w h).flatMap Release.Made.entries) = [] := by
  have whole : (release w : Run Fault Handles Unit) h = _ := release_makes w h Fault
  have own := (release_leaves (ε := Fault) w h).2
  rw [whole] at own
  exact forwarded_eq_nil fun e member => Entry.forwarded?_of_own (.inr (own e member))

namespace Served

variable {s : Served} {w : World} {t : Session} {h : Handles}

theorem sink_each {steps : List Step} (through : (Run.each (Step.run w s) steps h).outcome = .ok ()) :
    (Run.each (Step.run w s) steps h).state.sink = steps.foldl (fun sink step => step.sinkBehind s sink) h.sink := by
  induction steps generalizing h with
  | nil => rfl
  | cons step rest ih =>
    obtain ⟨first, later⟩ := each_cons_eq_ok_iff.mp through
    rw [Run.each_cons, Run.bind_of_ok first]
    exact (ih later).trans (by rw [Step.sink_run first]; rfl)

theorem sink_plan (s : Served) : s.plan.foldl (fun sink step => step.sinkBehind s sink) none =
    some { origin := s.factories.sink, level := s.config.sinkLevel } := by
  unfold plan
  cases s.config.videoEnabled <;> cases s.config.audioEnabled <;> rfl

/-- A start that gets through leaves an open sink with the level of the configuration. -/
theorem start_serves (ok : (s.start w t).outcome = .ok h) :
    ∃ sink, (s.start w t).state.held.sink = some sink ∧ sink.Serves s.config := by
  rw [start_apply] at ok ⊢
  cases outcome : (Run.each (Step.run w s) s.plan {}).outcome with
  | ok u =>
    rw [outcome] at ok
    cases ok
    exact ⟨_, (sink_each outcome).trans s.sink_plan, rfl, rfl⟩
  | error e =>
    rw [outcome] at ok
    cases e <;> cases ok

theorem forwarded_start (ok : (s.start w t).outcome = .ok h) : forwarded (s.start w t).events = [] := by
  have own := (Run.Keeps.each (Step.run_leaves w s) s.plan {}).2
  rw [(start_of_ok ok).2]
  exact forwarded_eq_nil fun e member => Entry.forwarded?_of_own (.inl (own e member))

/-- A start, reports of the engine, the stop of the cycle, and reports behind it, first with the collaborators
released and then without any. -/
def cycleAmid (s : Served) (w w' : World) (before released after : List (Notice × World)) :
    Run StartError Session Unit := do
  let _ ← s.start w
  Notice.deliverAll before
  Session.onHandles (Handles.release w')
  Notice.deliverAll released
  Session.setHandles none
  Notice.deliverAll after

/-- What is forwarded of a cycle is what the sink that its start leaves records of the messages before the stop. -/
theorem forwarded_cycleAmid (ok : (s.start w t).outcome = .ok h) (w' : World)
    (before released after : List (Notice × World)) :
    let x := s.cycleAmid w w' before released after t
    x.outcome = .ok () ∧ ∃ sink : Sink, sink.Serves s.config ∧
      forwarded x.events = (Notice.said before).filterMap fun m => sink.record? m.level m.text := by
  obtain ⟨sink, there, serves⟩ := start_serves ok
  have detaches : Run.Succeeds (Session.setHandles none : Run StartError Session Unit) := .update _
  rw [cycleAmid, Run.bind_of_ok ok, (Notice.deliverAll_ok before).bind_unit,
    Run.bind_of_ok (a := ()) (by rw [Session.onHandles_release]), Session.onHandles_release,
    (Notice.deliverAll_ok released).bind_unit, detaches.bind_unit]
  refine ⟨(Notice.deliverAll_ok after).outcome_unit _, sink, serves, ?_⟩
  simp only [forwarded_append]
  -- Only the reports before the stop find a sink.
  rw [forwarded_start ok, Notice.forwarded_deliverAll, there, Handles.forwarded_release,
    Notice.forwarded_deliverAll_of_none rfl, Notice.forwarded_deliverAll_of_none rfl]
  exact List.append_nil _

/-- Of a cycle that starts, whatever the engine reports before the stop and behind it, what collaborators say is
recorded exactly so: each message before the stop whose level is the one of errors, warnings or information, or the
one of details that the configuration asks for, once and in its place, and nothing else. -/
theorem messages_forwarded (ok : (s.start w t).outcome = .ok h) (w' : World)
    (before released after : List (Notice × World)) (records : List LogRecord) :
    let x := s.cycleAmid w w' before released after t
    x.outcome = .ok () ∧ (forwarded x.events = records ↔
      List.Forall₂ Message.Forwards ((Notice.said before).filter fun m => s.config.hears m.level) records) := by
  obtain ⟨ended, sink, serves, spoken⟩ := forwarded_cycleAmid ok w' before released after
  refine ⟨ended, ?_⟩
  rw [spoken]
  exact filterMap_eq_iff_forall₂ (fun _ _ => Sink.record?_eq_some_iff serves) fun _ => Sink.record?_isSome serves

/-- A launch that asks for details. -/
def talkative : Served where
  config := { debugLog := true }
  identifier := .ofDraws ⟨0, .replicate 5 0⟩
  factories := {}

def obliging : World where
  reply _ := .done
  dynamicPort := 7000
  hostname := some "studio"
  localAddress := "192.0.2.10"

theorem messages_forwarded_talkative :
    let say := fun level text => (Notice.message level text, obliging)
    let before := [say 7 "frame\n", say 5 "notice", say 3 "\nlost\n\n", say 9 "trace"]
    ∃ h, (talkative.start obliging {}).outcome = .ok h ∧
      forwarded (talkative.cycleAmid obliging obliging before [say 3 "late"] [say 3 "later"] {}).events =
        [⟨.debug, .collaborator, "frame"⟩, ⟨.error, .collaborator, "\nlost"⟩] := by
  intro say before
  obtain ⟨h, ok⟩ : ∃ h, (talkative.start obliging {}).outcome = .ok h := by
    have through : (talkative.start obliging {}).outcome.isOk = true := by decide +kernel
    cases outcome : (talkative.start obliging {}).outcome with
    | ok h => exact ⟨h, rfl⟩
    | error e => rw [outcome] at through; cases through
  refine ⟨h, ok, (messages_forwarded ok obliging _ _ _ _).2.mpr ?_⟩
  have frame : Message.Forwards ⟨7, "frame\n"⟩ ⟨.debug, .collaborator, "frame"⟩ :=
    ⟨by decide, rfl, ⟨1, by decide⟩, by decide⟩
  have lost : Message.Forwards ⟨3, "\nlost\n\n"⟩ ⟨.error, .collaborator, "\nlost"⟩ :=
    ⟨by decide, rfl, ⟨2, by decide⟩, by decide⟩
  exact .cons frame (.cons lost .nil)

end Served

end CastLaunch
