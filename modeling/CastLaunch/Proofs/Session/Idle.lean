import CastLaunch.Proofs.Execution
import CastLaunch.Session
import Mathlib.Data.List.DropRight
import Mathlib.Data.List.Infix

/-!
How long nobody has been there.  A history is what comes to a session behind its start
or its reset: clients that come and leave, and ticks.  A tick is lively when a client
was there at some moment since the tick before it.  The count of seconds is the number
of ticks in a row that were not, and a tick asks for a relaunch exactly when there are
as many as the timeout says.
-/

namespace CastLaunch

inductive Pulse where
  | connect
  | disconnect
  | tick (timeout : Int)
  deriving DecidableEq, Repr

namespace Pulse

def run : Pulse → Run Fault Session Unit
  | connect => do let _ ← Session.connect
  | disconnect => do let _ ← Session.disconnect
  | tick timeout => do let _ ← Session.tick timeout

def runAll : List Pulse → Run Fault Session Unit := Run.each run

def isTick : Pulse → Bool
  | tick _ => true
  | _ => false

def counted : Pulse → Nat → Nat
  | connect, n => n + 1
  | disconnect, n => n - 1
  | tick _, n => n

/-- How many clients are there behind the history. -/
def clients (history : List Pulse) : Nat := history.foldl (fun n p => p.counted n) 0

@[simp] theorem clients_concat (history : List Pulse) (p : Pulse) :
    clients (history ++ [p]) = p.counted (clients history) := by
  simp [clients]

/-- A client is there at some moment from just behind the last tick, or from the start, up to now. -/
def Lively (history : List Pulse) : Prop :=
  ∃ past ∈ history.inits, 0 < clients past ∧ ∀ p ∈ history.drop past.length, p.isTick = false

instance : DecidablePred Lively := fun history =>
  inferInstanceAs (Decidable (∃ past ∈ history.inits, 0 < clients past ∧ ∀ p ∈ history.drop past.length, p.isTick = false))

theorem lively_iff {history : List Pulse} :
    Lively history ↔ ∃ past since, history = past ++ since ∧ 0 < clients past ∧ ∀ p ∈ since, p.isTick = false := by
  constructor
  · rintro ⟨past, member, somebody, quiet⟩
    obtain ⟨since, rfl⟩ := (List.mem_inits ..).mp member
    rw [List.drop_left] at quiet
    exact ⟨past, since, rfl, somebody, quiet⟩
  · rintro ⟨past, since, rfl, somebody, quiet⟩
    refine ⟨past, (List.mem_inits ..).mpr (List.prefix_append ..), somebody, ?_⟩
    rwa [List.drop_left]

theorem lively_of_clients {history : List Pulse} (somebody : 0 < clients history) : Lively history :=
  lively_iff.mpr ⟨history, [], by simp, somebody, by simp⟩

theorem not_lively_nil : ¬Lively [] := by decide

/-- A moment of the longer history is its last one, or one before unless a tick comes between. -/
theorem lively_concat (history : List Pulse) (p : Pulse) :
    Lively (history ++ [p]) ↔ 0 < clients (history ++ [p]) ∨ p.isTick = false ∧ Lively history := by
  constructor
  · intro lively
    obtain ⟨past, since, split, somebody, quiet⟩ := lively_iff.mp lively
    rcases List.eq_nil_or_concat' since with rfl | ⟨early, last, rfl⟩
    · rw [List.append_nil] at split
      exact .inl (split ▸ somebody)
    · rw [← List.append_assoc] at split
      obtain ⟨rfl, same⟩ := List.append_inj' split rfl
      obtain rfl : p = last := by simpa using same
      exact .inr ⟨quiet p (by simp), lively_iff.mpr ⟨past, early, rfl, somebody, fun q member => quiet q (by simp [member])⟩⟩
  · rintro (somebody | ⟨other, lively⟩)
    · exact lively_of_clients somebody
    · obtain ⟨past, since, rfl, somebody, quiet⟩ := lively_iff.mp lively
      refine lively_iff.mpr ⟨past, since ++ [p], by simp, somebody, fun q member => ?_⟩
      rcases List.mem_append.mp member with early | last
      · exact quiet q early
      · rwa [List.mem_singleton.mp last]

/-- What came before each tick of the history, in order. -/
def beforeTicks (history : List Pulse) : List (List Pulse) :=
  (history.inits.filter fun past => past.getLast?.any isTick).map List.dropLast

theorem beforeTicks_concat_tick (history : List Pulse) (timeout : Int) :
    beforeTicks (history ++ [.tick timeout]) = beforeTicks history ++ [history] := by
  simp [beforeTicks, isTick]

theorem beforeTicks_concat {p : Pulse} (other : p.isTick = false) (history : List Pulse) :
    beforeTicks (history ++ [p]) = beforeTicks history := by
  simp [beforeTicks, other]

/-- How many of the last ticks in a row were not lively. -/
def lull (history : List Pulse) : Nat :=
  ((beforeTicks history).rtakeWhile fun past => !decide (Lively past)).length

theorem lull_concat_tick (history : List Pulse) (timeout : Int) :
    lull (history ++ [.tick timeout]) = if Lively history then 0 else lull history + 1 := by
  rw [lull, beforeTicks_concat_tick, List.rtakeWhile_concat]
  by_cases lively : Lively history
  · simp [lively]
  · simp [lively, lull]

theorem lull_concat {p : Pulse} (other : p.isTick = false) (history : List Pulse) :
    lull (history ++ [p]) = lull history := by
  rw [lull, beforeTicks_concat other, lull]

/-- What the pulse does to the activity. -/
def act : Pulse → Activity → Activity
  | connect, a => a.connect
  | disconnect, a => a.disconnect
  | tick _, a => a.tick

theorem run_apply (p : Pulse) (s : Session) :
    (run p s).outcome = .ok () ∧ (run p s).state = { s with activity := p.act s.activity } := by
  cases p with
  | connect => exact ⟨rfl, rfl⟩
  | tick timeout => exact ⟨rfl, rfl⟩
  | disconnect =>
    rw [run, Run.bind_of_ok (a := s.activity.connections - 1) (by rw [Session.disconnect_apply]), Session.disconnect_apply]
    exact ⟨rfl, rfl⟩

theorem run_succeeds (p : Pulse) : p.run.Succeeds := fun s => ⟨(), (run_apply p s).1⟩

/-- What the activity holds of the history behind it. -/
structure Tracks (history : List Pulse) (a : Activity) : Prop where
  connections : a.connections = clients history
  idle : a.idle = false ↔ Lively history
  seconds : a.seconds = lull history

theorem Tracks.start : Tracks [] {} := ⟨rfl, by simp [not_lively_nil], by decide⟩

theorem Tracks.step {history : List Pulse} {a : Activity} (h : Tracks history a) (p : Pulse) :
    Tracks (history ++ [p]) (p.act a) := by
  have here := h.connections
  have counts : (p.act a).connections = clients (history ++ [p]) := by
    rw [clients_concat, ← here]
    cases p with
    | connect | disconnect => rfl
    | tick timeout => exact a.connections_tick
  cases p with
  | connect =>
    have somebody : 0 < clients (history ++ [.connect]) := by
      rw [clients_concat]
      exact Nat.succ_pos _
    exact ⟨counts, ⟨fun _ => lively_of_clients somebody, fun _ => rfl⟩, by rw [lull_concat rfl]; exact h.seconds⟩
  | disconnect =>
    have before : 0 < clients history - 1 → Lively history := fun somebody => lively_of_clients (by omega)
    have idle : a.idle = false ↔ Lively (history ++ [.disconnect]) := by
      rw [h.idle, lively_concat, clients_concat]
      exact ⟨fun lively => .inr ⟨rfl, lively⟩, fun moment => moment.elim before (·.2)⟩
    exact ⟨counts, idle, by rw [lull_concat rfl]; exact h.seconds⟩
  | tick timeout =>
    -- what the tick asks of the activity is whether it is lively
    have asks : (0 < a.connections ∨ a.idle = false) ↔ Lively history := by
      rw [here, h.idle, or_iff_right_of_imp lively_of_clients]
    have now : Lively (history ++ [.tick timeout]) ↔ 0 < a.connections := by
      simp [lively_concat, counted, isTick, here]
    by_cases lively : Lively history
    · have tick : a.tick = { a with seconds := 0, idle := a.connections == 0 } := if_pos (asks.mpr lively)
      refine ⟨counts, ?_, ?_⟩
      · rw [now, act, tick, beq_eq_false_iff_ne, Nat.pos_iff_ne_zero]
      · rw [lull_concat_tick, if_pos lively, act, tick]
    · have tick : a.tick = { a with seconds := a.seconds + 1 } := if_neg (mt asks.mp lively)
      have resting : ¬0 < a.connections ∧ ¬a.idle = false := not_or.mp (mt asks.mp lively)
      refine ⟨counts, ?_, ?_⟩
      · rw [now, act, tick]
        exact iff_of_false resting.2 resting.1
      · rw [lull_concat_tick, if_neg lively, act, tick, h.seconds]

theorem tracks_runAll (history : List Pulse) (t : Session) :
    Tracks history (runAll history (Session.reset t).state).state.activity := by
  induction history using List.reverseRecOn with
  | nil => exact .start
  | append_singleton history p ih =>
    rw [runAll, Run.Succeeds.each_concat_state run_succeeds, (run_apply p _).2]
    exact ih.step p

/-- The tick reports when the timeout is one, and the lull up to it reaches it. -/
theorem Tracks.expires {history : List Pulse} {a : Activity} (h : Tracks history a) (timeout : Int) :
    a.tickExpires timeout = decide (0 < timeout ∧ timeout ≤ lull (history ++ [.tick timeout])) := by
  have asks : (a.connections = 0 ∧ a.idle = true) ↔ ¬Lively history := by
    rw [← h.idle, Bool.not_eq_false, h.connections, and_iff_right_iff_imp]
    intro idle
    have resting : ¬Lively history := by rw [← h.idle, idle]; nofun
    exact Nat.eq_zero_of_not_pos (mt lively_of_clients resting)
  rw [lull_concat_tick, ← h.seconds]
  by_cases lively : Lively history
  · have no : ¬(a.connections = 0 ∧ a.idle = true) := fun resting => asks.mp resting lively
    rw [if_pos lively, Bool.eq_iff_iff]
    simp only [Activity.tickExpires, Bool.and_eq_true, beq_iff_eq, decide_eq_true_eq]
    exact iff_of_false (fun expires => no expires.1.1) (by omega)
  · obtain ⟨nobody, idle⟩ := asks.mpr lively
    simp [Activity.tickExpires, nobody, idle, lively]

/-- Behind a moment with a client, ticks that come and find nobody are fewer than the ticks that come. -/
theorem lull_lt {past : List Pulse} (somebody : 0 < clients past) (since : List Pulse) :
    since.countP isTick = 0 ∧ Lively (past ++ since) ∨ lull (past ++ since) < since.countP isTick := by
  induction since using List.reverseRecOn with
  | nil => exact .inl ⟨rfl, by rw [List.append_nil]; exact lively_of_clients somebody⟩
  | append_singleton since p ih =>
    rw [← List.append_assoc, List.countP_append, List.countP_singleton]
    cases other : p.isTick with
    | false =>
      rw [lull_concat other]
      rcases ih with ⟨none, lively⟩ | fewer
      · exact .inl ⟨by simpa using none, (lively_concat ..).mpr (.inr ⟨other, lively⟩)⟩
      · exact .inr (by simpa using fewer)
    | true =>
      obtain ⟨timeout, rfl⟩ : ∃ timeout, p = .tick timeout := by
        cases p with
        | tick timeout => exact ⟨timeout, rfl⟩
        | connect | disconnect => cases other
      refine .inr ?_
      rw [lull_concat_tick]
      rcases ih with ⟨none, lively⟩ | fewer
      · simp [lively]
      · split
        · exact Nat.succ_pos _
        · exact Nat.succ_lt_succ fewer

theorem length_le_lull {history : List Pulse} {quiet : List (List Pulse)} (last : quiet <:+ beforeTicks history)
    (resting : ∀ past ∈ quiet, ¬Lively past) : quiet.length ≤ lull history := by
  obtain ⟨early, split⟩ := last
  have all : ∀ past ∈ quiet.reverse, (!decide (Lively past)) = true := by simpa using resting
  rw [lull, List.rtakeWhile, ← split, List.reverse_append, List.takeWhile_append_of_pos all]
  simp

/-- The clients are counted, the seconds are the ticks in a row that found nobody, and a tick reports exactly when
the timeout is set and they reach it.  So none reports while a client is there, nor before more ticks than the timeout
have come behind one; and behind so many that found nobody it does. -/
theorem tick_reports_iff (t : Session) (history : List Pulse) (timeout : Int) :
    let s := (runAll history (Session.reset t).state).state
    let x := Session.tick timeout s
    let ticked := history ++ [.tick timeout]
    (Session.reset {}).state = {} ∧ s.activity.connections = clients history ∧
      x.state.activity.connections = clients ticked ∧ x.state.activity.seconds = lull ticked ∧
      x.outcome = .ok (decide (0 < timeout ∧ timeout ≤ x.state.activity.seconds)) ∧
      (x.outcome = .ok true → clients history = 0) ∧
      (∀ past since, history = past ++ since → 0 < clients past → x.outcome = .ok true →
        timeout < (since ++ [Pulse.tick timeout]).countP isTick) ∧
      ∀ quiet, quiet <:+ beforeTicks ticked → (∀ past ∈ quiet, ¬Lively past) → 0 < timeout → timeout ≤ quiet.length →
        x.outcome = .ok true := by
  intro s x ticked
  have tracked : Tracks history s.activity := tracks_runAll history t
  have after : Tracks ticked x.state.activity := tracked.step (.tick timeout)
  have outcome : x.outcome = .ok (decide (0 < timeout ∧ timeout ≤ x.state.activity.seconds)) := by
    rw [after.seconds, ← tracked.expires]
    rfl
  have reports : x.outcome = .ok true ↔ 0 < timeout ∧ timeout ≤ lull ticked := by
    rw [outcome, after.seconds, Except.ok.injEq, decide_eq_true_eq]
  have waits : ∀ past since, history = past ++ since → 0 < clients past → x.outcome = .ok true →
      timeout < (since ++ [Pulse.tick timeout]).countP isTick := by
    intro past since split somebody report
    have reached := (reports.mp report).2
    rcases lull_lt somebody (since ++ [.tick timeout]) with ⟨none, -⟩ | fewer
    · simp [isTick] at none
    · rw [← List.append_assoc, ← split] at fewer
      exact Int.lt_of_le_of_lt reached (Int.ofNat_lt.mpr fewer)
  refine ⟨rfl, tracked.connections, after.connections, after.seconds, outcome, ?_, waits, ?_⟩
  · intro report
    have positive := (reports.mp report).1
    refine Nat.eq_zero_of_not_pos fun somebody => ?_
    have soon := waits history [] (List.append_nil _).symm somebody report
    simp [isTick] at soon
    omega
  · intro quiet last resting positive enough
    have long := length_le_lull last resting
    exact reports.mpr ⟨positive, by omega⟩

end Pulse

end CastLaunch
