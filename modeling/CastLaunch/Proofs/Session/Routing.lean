import CastLaunch.Proofs.Cycle.Release
import CastLaunch.Proofs.Session.Reports

/-!
Where the reports of an engine go.  A report for a collaborator is received once and as it is
when the collaborator is there, and by nobody when it is not.  Delivering it changes none of the
collaborators.
-/

namespace CastLaunch

/-- A call with which a collaborator receives a report. -/
def Call.isOfReport : Call → Bool
  | .renderVideo .. | .renderAudio _ | .flushVideo | .flushAudio | .setVolume _ | .updateBackground _ => true
  | _ => false

/-- An entry with which a collaborator receives a report.  A sink records what it receives. -/
def Entry.isReceived : Entry → Bool
  | .call c => c.isOfReport
  | .log r => r.channel == .collaborator
  | _ => false

def received (events : List Entry) : List Entry := events.filter Entry.isReceived

theorem received_append (a b : List Entry) : received (a ++ b) = received a ++ received b := List.filter_append a b

theorem received_eq_nil {events : List Entry} (h : ∀ e ∈ events, e.isReceived = false) : received events = [] := by
  simpa [received, List.filter_eq_nil_iff] using h

/-- The collaborators of the moment. -/
def Session.held (s : Session) : Handles := s.handles.getD {}

namespace Notice

/-- The collaborator that the report is for. -/
def receiver? : Notice → Option Stage
  | connected | disconnected | videoFrame .. | videoFlush => some .video
  | audioFrame _ | audioFlush | volume _ => some .audio
  | message .. => some .sink
  | audioFormat _ => none

/-- What the receiver is told. -/
def tells (h : Handles) : Notice → List Entry
  | connected => [.call (.updateBackground 1)]
  | disconnected => [.call (.updateBackground (-1))]
  | audioFrame frame => [.call (.renderAudio frame)]
  | videoFrame frame kind => [.call (.renderVideo frame kind)]
  | audioFlush => [.call .flushAudio]
  | videoFlush => [.call .flushVideo]
  | volume level => [.call (.setVolume level)]
  | audioFormat _ => []
  | message level text => ((h.sink.bind (·.record? level text)).map Entry.log).toList

/-- What is received of the report with these collaborators. -/
def due (notice : Notice) (h : Handles) : List Entry := if notice.receiver?.any h.has then notice.tells h else []

theorem performIf_events (test : Session → Bool) (w : World) (c : Call) (s : Session) :
    ((do if test (← Run.read) then Run.perform w c : Run Fault Session Unit) s).events =
      if test s then [.call c] else [] := by
  rw [Run.read_bind]
  cases test s with
  | false => rfl
  | true => exact Run.perform_events w c s

theorem hasVideo_eq (s : Session) : s.hasVideo = s.held.has .video := by
  cases there : s.handles <;> simp [Session.hasVideo, Session.held, Handles.has, Handles.origin?, there]

theorem hasAudio_eq (s : Session) : s.hasAudio = s.held.has .audio := by
  cases there : s.handles <;> simp [Session.hasAudio, Session.held, Handles.has, Handles.origin?, there]

theorem received_toVideo {w : World} {c : Call} (own : c.isOfReport = true) (s : Session) :
    received (toVideo w c s).events = if s.held.has .video then [.call c] else [] := by
  rw [toVideo, performIf_events, hasVideo_eq]
  cases s.held.has .video <;> simp [received, Entry.isReceived, own]

theorem received_toAudio {w : World} {c : Call} (own : c.isOfReport = true) (s : Session) :
    received (toAudio w c s).events = if s.held.has .audio then [.call c] else [] := by
  rw [toAudio, performIf_events, hasAudio_eq]
  cases s.held.has .audio <;> simp [received, Entry.isReceived, own]

theorem sink_eq (s : Session) : s.sink = s.held.sink := by
  cases there : s.handles <;> simp [Session.sink, Session.held, there]

theorem channel_of_record {sink : Sink} {level : Int} {text : String} {r : LogRecord}
    (recorded : sink.record? level text = some r) : r.channel = .collaborator := by
  unfold Sink.record? at recorded
  split at recorded
  · cases recorded
  · obtain ⟨severity, -, rfl⟩ := Option.map_eq_some_iff.mp recorded
    rfl

theorem received_toSink (level : Int) (text : String) (s : Session) :
    received (toSink level text s).events = (message level text).due s.held := by
  rw [toSink, Run.read_bind, due, sink_eq, receiver?, tells]
  cases there : s.held.sink with
  | none => simp [Handles.has, Handles.origin?, there, received]
  | some sink =>
    have own : s.held.has .sink = true := by rw [Handles.has, Handles.origin?, there]; rfl
    rw [Option.any_some, if_pos own, Option.bind_some]
    cases recorded : sink.record? level text with
    | none => rfl
    | some r => simp [received, Entry.isReceived, channel_of_record recorded]

theorem deliver_disconnected_of_error {w : World} {s : Session} {e : Fault}
    (failed : (toVideo w (.updateBackground (-1)) s).outcome = .error e) :
    deliver w .disconnected s = ⟨.error e, s, (toVideo w (.updateBackground (-1)) s).events⟩ := by
  rw [deliver, Run.bind_of_error failed, toVideo_state]

theorem received_disconnect (s : Session) : received (Session.disconnect s).events = [] := by
  rw [Session.disconnect_apply]
  dsimp only
  split <;> rfl

/-- Delivering a report changes none of the collaborators. -/
theorem handles_deliver (w : World) (notice : Notice) (s : Session) :
    (notice.deliver w s).state.handles = s.handles := by
  cases notice with
  | connected => rw [deliver_connected_apply]
  | disconnected =>
    cases outcome : (toVideo w (.updateBackground (-1)) s).outcome with
    | ok u => rw [deliver_disconnected_of_ok outcome]
    | error e => rw [deliver_disconnected_of_error outcome]
  | _ => rw [(deliver_of_media w rfl s).1]

/-- A report is received as it is due, once, and by nobody else. -/
theorem received_deliver (w : World) (notice : Notice) (s : Session) :
    received (notice.deliver w s).events = notice.due s.held := by
  cases notice with
  | connected =>
    rw [deliver_connected_apply]
    exact received_toVideo rfl { s with activity := s.activity.connect }
  | disconnected =>
    have told := received_toVideo (w := w) (c := .updateBackground (-1)) rfl s
    cases outcome : (toVideo w (.updateBackground (-1)) s).outcome with
    | ok u =>
      rw [deliver_disconnected_of_ok outcome, received_append, received_append, received_disconnect, told]
      exact List.append_nil _
    | error e => rw [deliver_disconnected_of_error outcome, told]; rfl
  | audioFrame frame | audioFlush | volume level => exact received_toAudio rfl s
  | videoFrame frame kind | videoFlush => exact received_toVideo rfl s
  | audioFormat code => rfl
  | message level text =>
    exact received_toSink level text s

end Notice

end CastLaunch
