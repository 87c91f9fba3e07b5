import CastLaunch.Bridge
import CastLaunch.Proofs.Execution
import Mathlib.Algebra.Ring.Int.Defs

/-!
Clients that come and leave, as an engine reports them one after the other.  A report
finds the collaborators of its time, and a failure of theirs goes back to the engine,
which reports on.  An arrival is always counted.  A departure is told to the video
renderer before it is counted: when the renderer fails, nobody is counted off.  And
the renderer is told of every departure, also of those for which nobody was there.
-/

namespace CastLaunch

namespace Notice

/-- How many clients the report leaves of so many. -/
def counted : Notice → Nat → Nat
  | connected, n => n + 1
  | disconnected, n => n - 1
  | _, n => n

theorem counted_le_counted (notice : Notice) {m n : Nat} (h : m ≤ n) : notice.counted m ≤ notice.counted n := by
  cases notice <;> simp only [counted] <;> omega

/-- How many clients there are after the reports. -/
def clients (n : Nat) (notices : List Notice) : Nat := notices.foldl (fun n notice => notice.counted n) n

/-- One for a departure while nobody is there. -/
def stray : Notice → Nat → Nat
  | disconnected, 0 => 1
  | _, _ => 0

/-- How many departures no arrival precedes. -/
def unmatched : Nat → List Notice → Nat
  | _, [] => 0
  | n, notice :: rest => notice.stray n + unmatched (notice.counted n) rest

theorem unmatched_append (n : Nat) (a b : List Notice) :
    unmatched n (a ++ b) = unmatched n a + unmatched (clients n a) b := by
  induction a generalizing n with
  | nil => simp [unmatched, clients]
  | cons notice rest ih =>
    have behind := ih (notice.counted n)
    simp only [List.cons_append, unmatched, clients, List.foldl_cons] at behind ⊢
    omega

/-- What the renderer is to add to its own count for the report. -/
def delta : Notice → Int
  | connected => 1
  | disconnected => -1
  | _ => 0

/-- The two counts move alike, but for a stray departure. -/
theorem counted_eq (notice : Notice) (n : Nat) : (notice.counted n : Int) = n + notice.delta + notice.stray n := by
  cases notice with
  | disconnected =>
    cases n with
    | zero => rfl
    | succ n =>
      simp only [counted, delta, stray, Nat.add_sub_cancel]
      omega
  | _ => simp [counted, delta, stray]

end Notice

/-- What an entry tells the video renderer to add to its count. -/
def Entry.delta? : Entry → Option Int
  | .call (.updateBackground delta) => some delta
  | _ => none

/-- What the video renderer has been told to count, summed up. -/
def told (events : List Entry) : Int := (events.filterMap Entry.delta?).sum

theorem told_append (a b : List Entry) : told (a ++ b) = told a + told b := by
  rw [told, List.filterMap_append, List.sum_append, told, told]

theorem told_eq_zero {events : List Entry} (h : ∀ e ∈ events, e.delta? = none) : told events = 0 := by
  rw [told, List.filterMap_eq_nil_iff.mpr h]
  rfl

namespace Run

/-- A call that depends on the state leaves the state as it is, and no entry but its own. -/
theorem keeps_performIf {σ : Type} (test : σ → Bool) (w : World) (c : Call) :
    Keeps id (· = .call c) (do if test (← read) then perform w c : Run Fault σ Unit) := by
  refine Keeps.bind Keeps.read fun s => ?_
  cases test s with
  | false => exact Keeps.pure ()
  | true => exact Keeps.perform rfl

end Run

namespace Notice

def countRecord (n : Nat) : LogRecord := ⟨.info, .bridge, "Open connections: " ++ Text.natText n⟩

theorem toVideo_of_refused {w : World} {c : Call} {s : Session} {text : String} (video : s.hasVideo = true)
    (refused : w.reply c = .failed text) : toVideo w c s = ⟨.error (.collaborator text), s, [.call c]⟩ := by
  rw [toVideo, Run.read_bind, if_pos video, Run.perform_apply, refused]

theorem toVideo_of_heard {w : World} {c : Call} {s : Session} (video : s.hasVideo = true)
    (heard : ∀ text, w.reply c ≠ .failed text) : toVideo w c s = ⟨.ok (), s, [.call c]⟩ := by
  rw [toVideo, Run.read_bind, if_pos video, Run.perform_apply]
  cases reply : w.reply c with
  | done | nothing => rfl
  | failed text => exact absurd reply (heard text)

theorem toVideo_state (w : World) (c : Call) (s : Session) : (toVideo w c s).state = s :=
  (Run.keeps_performIf Session.hasVideo w c s).1

theorem toVideo_of_none {w : World} {c : Call} {s : Session} (unseen : s.hasVideo = false) :
    toVideo w c s = ⟨.ok (), s, []⟩ := by
  rw [toVideo, Run.read_bind, unseen]
  rfl

theorem deliver_connected_apply (w : World) (s : Session) :
    let x := toVideo w (.updateBackground 1) { s with activity := s.activity.connect }
    deliver w .connected s =
      ⟨x.outcome, { s with activity := s.activity.connect },
        .log (countRecord (s.activity.connections + 1)) :: x.events⟩ := by
  intro x
  have state : x.state = { s with activity := s.activity.connect } := toVideo_state ..
  rw [deliver, Run.bind_of_ok (a := s.activity.connections + 1) rfl, logConnections, Run.log_bind, ← state]
  rfl

theorem deliver_disconnected_of_ok {w : World} {s : Session}
    (ok : (toVideo w (.updateBackground (-1)) s).outcome = .ok ()) :
    deliver w .disconnected s =
      ⟨.ok (), { s with activity := s.activity.disconnect },
        (toVideo w (.updateBackground (-1)) s).events ++
          ((Session.disconnect s).events ++ [.log (countRecord (s.activity.connections - 1))])⟩ := by
  rw [deliver, Run.bind_of_ok ok, toVideo_state, Run.bind_of_ok (a := s.activity.connections - 1)
    (by rw [Session.disconnect_apply]), Session.disconnect_apply]
  rfl

/-- The failing renderer is all there is to such a departure. -/
theorem deliver_disconnected_of_refused {w : World} {s : Session} {text : String} (video : s.hasVideo = true)
    (refused : w.reply (.updateBackground (-1)) = .failed text) :
    deliver w .disconnected s = ⟨.error (.collaborator text), s, [.call (.updateBackground (-1))]⟩ := by
  rw [deliver, Run.bind_of_error (e := .collaborator text) (by rw [toVideo_of_refused video refused]),
    toVideo_of_refused video refused]

/-- Reports about media are not counted, and the renderer is told to count nothing. -/
theorem deliver_of_media (w : World) {notice : Notice} (media : notice.delta = 0) (s : Session) :
    (deliver w notice s).state = s ∧ told (deliver w notice s).events = 0 := by
  have asked : ∀ (test : Session → Bool) {c : Call}, Entry.delta? (.call c) = none →
      ((do if test (← Run.read) then Run.perform w c : Run Fault Session Unit) s).state = s ∧
        told ((do if test (← Run.read) then Run.perform w c : Run Fault Session Unit) s).events = 0 := by
    intro test c silent
    obtain ⟨state, events⟩ := Run.keeps_performIf test w c s
    exact ⟨state, told_eq_zero fun e member => by rw [events e member, silent]⟩
  cases notice with
  | connected | disconnected => simp [delta] at media
  | audioFrame | audioFlush | volume => exact asked Session.hasAudio rfl
  | videoFrame | videoFlush => exact asked Session.hasVideo rfl
  | audioFormat code => exact ⟨rfl, rfl⟩
  | message level text =>
    rw [deliver, toSink, Run.read_bind]
    cases s.sink.bind (·.record? level text) <;> exact ⟨rfl, rfl⟩

end Notice

/-- A report with the collaborators that it finds. -/
structure Report where
  notice : Notice
  world : World
  handles : Option Handles

namespace Report

/-- Delivers the report; a failure is handed to the engine. -/
def receive (r : Report) : Run Fault Session Unit := do
  Session.setHandles r.handles
  let _ ← (Run.attempt (r.notice.deliver r.world) : Run Fault Session (Except Fault Unit))

def receiveAll : List Report → Run Fault Session Unit := Run.each receive

/-- The session as the report finds it. -/
def met (r : Report) (s : Session) : Session := { s with handles := r.handles }

theorem receive_apply (r : Report) (s : Session) :
    receive r s = ⟨.ok (), (r.notice.deliver r.world (r.met s)).state, (r.notice.deliver r.world (r.met s)).events⟩ := by
  rw [receive, Session.setHandles, Run.update_bind]
  simp [met]

theorem receive_succeeds (r : Report) : r.receive.Succeeds := fun s => ⟨(), by rw [receive_apply]⟩

theorem receiveAll_cons (r : Report) (rest : List Report) (s : Session) :
    receiveAll (r :: rest) s = ⟨.ok (), (receiveAll rest (receive r s).state).state,
      (receive r s).events ++ (receiveAll rest (receive r s).state).events⟩ :=
  Run.Succeeds.each_cons_apply receive_succeeds r rest s

/-- A departure that is not counted: somebody was there to count off, and the renderer failed on it. -/
structure Lost (r : Report) (n : Nat) : Prop where
  departure : r.notice = .disconnected
  present : 0 < n
  video : ∃ h, r.handles = some h ∧ h.video = true
  refused : ∃ text, r.world.reply (.updateBackground (-1)) = .failed text

theorem hasVideo_met {r : Report} (video : ∃ h, r.handles = some h ∧ h.video = true) (s : Session) :
    (r.met s).hasVideo = true := by
  obtain ⟨h, handles, shows⟩ := video
  simp [met, Session.hasVideo, handles, shows]

/-- The renderer hears of a departure, or is there and fails. -/
theorem heard_or_refused (r : Report) (s : Session) :
    (Notice.toVideo r.world (.updateBackground (-1)) (r.met s)).outcome = .ok () ∨
      (∃ h, r.handles = some h ∧ h.video = true) ∧ ∃ text, r.world.reply (.updateBackground (-1)) = .failed text := by
  by_cases video : ∃ h, r.handles = some h ∧ h.video = true
  · by_cases refused : ∃ text, r.world.reply (.updateBackground (-1)) = .failed text
    · exact .inr ⟨video, refused⟩
    · rw [not_exists] at refused
      exact .inl (by rw [Notice.toVideo_of_heard (hasVideo_met video s) refused])
  · have unseen : (r.met s).hasVideo = false := by
      cases handles : r.handles with
      | none => simp [met, Session.hasVideo, handles]
      | some h => simpa [met, Session.hasVideo, handles] using video
    exact .inl (by rw [Notice.toVideo_of_none unseen])

theorem connections_receive {r : Report} {s : Session} (kept : ¬r.Lost s.activity.connections) :
    (receive r s).state.activity.connections = r.notice.counted s.activity.connections := by
  rw [receive_apply]
  cases notice : r.notice with
  | connected => rw [Notice.deliver_connected_apply]; rfl
  | disconnected =>
    rcases heard_or_refused r s with heard | ⟨video, text, refused⟩
    · rw [Notice.deliver_disconnected_of_ok heard]
      rfl
    · have nobody : s.activity.connections = 0 :=
        Nat.eq_zero_of_not_pos fun somebody => kept ⟨notice, somebody, video, text, refused⟩
      rw [Notice.deliver_disconnected_of_refused (hasVideo_met video s) refused]
      simp [met, Notice.counted, nobody]
  | _ => rw [(Notice.deliver_of_media r.world rfl _).1]; rfl

/-- A lost departure does nothing but hand the failure to the engine. -/
theorem deliver_of_lost {r : Report} {n : Nat} (lost : r.Lost n) (s : Session) :
    ∃ text, r.notice.deliver r.world (r.met s) =
      ⟨.error (.collaborator text), r.met s, [.call (.updateBackground (-1))]⟩ := by
  obtain ⟨text, refused⟩ := lost.refused
  refine ⟨text, ?_⟩
  rw [lost.departure]
  exact Notice.deliver_disconnected_of_refused (hasVideo_met lost.video s) refused

theorem activity_receive_of_lost {r : Report} {n : Nat} (lost : r.Lost n) (s : Session) :
    (receive r s).state.activity = s.activity := by
  obtain ⟨text, all⟩ := deliver_of_lost lost s
  rw [receive_apply, all]
  rfl

/-- A report is counted, unless it is a lost departure. -/
theorem connections_receive_iff (r : Report) (s : Session) :
    (receive r s).state.activity.connections = r.notice.counted s.activity.connections ↔
      ¬r.Lost s.activity.connections := by
  refine ⟨fun right lost => ?_, connections_receive⟩
  rw [activity_receive_of_lost lost, lost.departure, Notice.counted] at right
  have somebody := lost.present
  omega

theorem counted_le_connections (r : Report) (s : Session) :
    r.notice.counted s.activity.connections ≤ (receive r s).state.activity.connections := by
  by_cases lost : r.Lost s.activity.connections
  · rw [activity_receive_of_lost lost, lost.departure]
    exact Nat.sub_le ..
  · exact Nat.le_of_eq (connections_receive lost).symm

/-- Failing renderers leave clients too many, never too few. -/
theorem clients_le_connections (reports : List Report) {s : Session} {n : Nat} (low : n ≤ s.activity.connections) :
    Notice.clients n (reports.map (·.notice)) ≤ (receiveAll reports s).state.activity.connections := by
  induction reports generalizing s n with
  | nil => exact low
  | cons r rest ih =>
    rw [receiveAll_cons]
    exact ih (Nat.le_trans (r.notice.counted_le_counted low) (counted_le_connections r s))

theorem connections_of_not_lost (reports : List Report) {s : Session}
    (kept : ∀ past r, past ++ [r] <+: reports → ¬r.Lost (receiveAll past s).state.activity.connections) :
    (receiveAll reports s).state.activity.connections =
      Notice.clients s.activity.connections (reports.map (·.notice)) := by
  induction reports generalizing s with
  | nil => rfl
  | cons r rest ih =>
    have first : ¬r.Lost s.activity.connections := kept [] r (by simp)
    have behind := ih (s := (receive r s).state) fun past l early => by
      have later := kept (r :: past) l (by simpa using early)
      rwa [receiveAll_cons] at later
    rw [receiveAll_cons, behind, connections_receive first]
    rfl

/-- Each report of the list is counted exactly when no departure is lost.  A lost one changes nothing of the
activity, so that clients are left over; without one the count is that of the reports. -/
theorem each_counted_iff (reports : List Report) (s : Session) :
    let after := fun past => (receiveAll past s).state.activity
    ((∀ past r, past ++ [r] <+: reports →
        (after (past ++ [r])).connections = r.notice.counted (after past).connections) ↔
      ∀ past r, past ++ [r] <+: reports → ¬r.Lost (after past).connections) ∧
    (∀ past r, r.Lost (after past).connections → after (past ++ [r]) = after past ∧
      ∃ text, (r.notice.deliver r.world (r.met (receiveAll past s).state)).outcome = .error (.collaborator text)) ∧
    ((∀ past r, past ++ [r] <+: reports → ¬r.Lost (after past).connections) →
      (after reports).connections = Notice.clients s.activity.connections (reports.map (·.notice))) ∧
    Notice.clients s.activity.connections (reports.map (·.notice)) ≤ (after reports).connections := by
  intro after
  have next : ∀ past r, after (past ++ [r]) = (receive r (receiveAll past s).state).state.activity := by
    intro past r
    simp only [after, receiveAll, Run.Succeeds.each_concat_state receive_succeeds]
  refine ⟨?_, fun past r lost => ?_, ?_, clients_le_connections reports (Nat.le_refl _)⟩
  · refine forall_congr' fun past => forall_congr' fun r => forall_congr' fun _ => ?_
    rw [next]
    exact connections_receive_iff r _
  · obtain ⟨text, all⟩ := deliver_of_lost lost (receiveAll past s).state
    exact ⟨by rw [next, activity_receive_of_lost lost], text, by rw [all]⟩
  · exact connections_of_not_lost reports

example :
    let refusing : World := ⟨fun _ => .failed "pipeline gone", 7000, none, "192.0.2.10", none⟩
    let reports := [Notice.connected, .disconnected].map fun notice => ⟨notice, refusing, some { video := true }⟩
    (receiveAll reports {}).state.activity.connections = 1 := rfl

/-- The report finds a video renderer that does not fail to hear of clients. -/
structure Shown (r : Report) : Prop where
  video : ∃ h, r.handles = some h ∧ h.video = true
  heard : ∀ delta text, r.world.reply (.updateBackground delta) ≠ .failed text

theorem Shown.not_lost {r : Report} (shown : r.Shown) (n : Nat) : ¬r.Lost n := by
  intro lost
  obtain ⟨text, refused⟩ := lost.refused
  exact shown.heard (-1) text refused

theorem told_receive {r : Report} (shown : r.Shown) (s : Session) : told (receive r s).events = r.notice.delta := by
  have hears : ∀ delta, Notice.toVideo r.world (.updateBackground delta) (r.met s) =
      ⟨.ok (), r.met s, [.call (.updateBackground delta)]⟩ := fun delta =>
    Notice.toVideo_of_heard (hasVideo_met shown.video s) (shown.heard delta)
  rw [receive_apply]
  cases notice : r.notice with
  | connected =>
    have hears' := Notice.toVideo_of_heard (s := { r.met s with activity := (r.met s).activity.connect })
      (hasVideo_met shown.video s) (shown.heard 1)
    rw [Notice.deliver_connected_apply, hears']
    rfl
  | disconnected =>
    have nothing : told (Session.disconnect (r.met s)).events = 0 := by
      rw [Session.disconnect_apply]
      dsimp only
      split <;> rfl
    rw [Notice.deliver_disconnected_of_ok (by rw [hears]), told_append, told_append, nothing, hears]
    rfl
  | _ => exact (Notice.deliver_of_media r.world rfl _).2

theorem connections_eq_told (reports : List Report) (shown : ∀ r ∈ reports, r.Shown) (s : Session) :
    ((receiveAll reports s).state.activity.connections : Int) =
      s.activity.connections + told (receiveAll reports s).events +
        Notice.unmatched s.activity.connections (reports.map (·.notice)) := by
  induction reports generalizing s with
  | nil => simp [receiveAll, told, Notice.unmatched]
  | cons r rest ih =>
    have here := shown r (by simp)
    have one := connections_receive (here.not_lost s.activity.connections)
    have moved := r.notice.counted_eq s.activity.connections
    have behind := ih (fun l member => shown l (by simp [member])) (receive r s).state
    rw [one] at behind
    rw [receiveAll_cons, told_append, told_receive here, List.map_cons, Notice.unmatched]
    push_cast
    omega

/-- The renderer's count, as far as it has been told, is that of the session exactly as long as no departure comes
while nobody is there; it lags by the number of those. -/
theorem told_eq_connections_iff (reports : List Report) (shown : ∀ r ∈ reports, r.Shown) (s : Session)
    (fresh : s.activity.connections = 0) :
    let count := fun past => (receiveAll past s).state.activity.connections
    let shows := fun past => told (receiveAll past s).events
    let strays := fun past : List Report => Notice.unmatched 0 (past.map (·.notice))
    (∀ past, past <+: reports → (count past : Int) = shows past + strays past) ∧
      ((∀ past, past <+: reports → shows past = count past) ↔ strays reports = 0) := by
  intro count shows strays
  have lag : ∀ past, past <+: reports → (count past : Int) = shows past + strays past := by
    intro past early
    have sum := connections_eq_told past (fun r member => shown r (early.subset member)) s
    rw [fresh] at sum
    simpa [count, shows, strays] using sum
  refine ⟨lag, fun mirrored => ?_, fun none past early => ?_⟩
  · have whole := lag reports (List.prefix_refl _)
    rw [mirrored reports (List.prefix_refl _)] at whole
    omega
  · have part := lag past early
    obtain ⟨rest, rfl⟩ := early
    have fewer : strays past ≤ strays (past ++ rest) := by
      simp only [strays, List.map_append, Notice.unmatched_append]
      omega
    omega

/-- A client that comes, and two that leave. -/
def visits : List Report :=
  [.connected, .disconnected, .disconnected].map fun notice =>
    ⟨notice, ⟨fun _ => .done, 7000, none, "192.0.2.10", none⟩, some { video := true }⟩

theorem shown_visits : ∀ r ∈ visits, r.Shown := by
  intro r member
  obtain ⟨notice, -, rfl⟩ := List.mem_map.mp member
  exact ⟨⟨_, rfl, rfl⟩, fun _ _ => nofun⟩

/-- Behind the second departure the renderer shows one client less than none. -/
theorem told_eq_connections_iff_visits :
    let count := fun past => (receiveAll past {}).state.activity.connections
    let shows := fun past => told (receiveAll past {}).events
    (∀ r ∈ visits, r.Shown) ∧ shows visits = -1 ∧ count visits = 0 ∧ Notice.unmatched 0 (visits.map (·.notice)) = 1 ∧
      ¬∀ past, past <+: visits → shows past = count past := by
  intro count shows
  obtain ⟨-, mirrored⟩ := told_eq_connections_iff visits shown_visits {} rfl
  exact ⟨shown_visits, rfl, rfl, rfl, fun all => absurd (mirrored.mp all) (by decide)⟩

end Report

end CastLaunch
