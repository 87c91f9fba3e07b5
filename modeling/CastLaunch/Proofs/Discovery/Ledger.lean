import CastLaunch.Proofs.Cycle.Release
import CastLaunch.Proofs.Discovery.Names
import CastLaunch.Proofs.Discovery.Records
import Mathlib.Data.List.Induction

/-!
The books of the built-in registrar.  A publication that comes through opens a record, and asking
for its withdrawal closes it, also when the withdrawal fails.  Whatever is asked of a registrar and
whatever fails, a record is closed once at most, the registrar keeps those that are open and no
others, and destroying it leaves none open.
-/

namespace CastLaunch

/-- What the responder knows a record by. -/
structure Posting where
  name : String
  port : Int
  deriving DecidableEq, Repr

def ServiceRecord.posting (r : ServiceRecord) : Posting := ⟨r.name, r.port⟩

inductive Mark where
  | published (p : Posting)
  | withdrawn (p : Posting)
  deriving DecidableEq, Repr

namespace Mark

def posting : Mark → Posting
  | published p | withdrawn p => p

/-- A publication counts when it comes through, a withdrawal in any case. -/
def of? (w : World) : Entry → Option Mark
  | .call (.publishRecord name port) =>
    if (w.reply (.publishRecord name port)).refusal?.isNone then some (published ⟨name, port⟩) else none
  | .call (.withdrawRecord name port) => some (withdrawn ⟨name, port⟩)
  | _ => none

def all (w : World) (events : List Entry) : List Mark := events.filterMap (of? w)

theorem all_append (w : World) (a b : List Entry) : all w (a ++ b) = all w a ++ all w b := List.filterMap_append

/-- Each publication is followed by its own withdrawal, but the last one may be in force. -/
def Balanced (marks : List Mark) (inForce : Option Posting) : Prop :=
  ∃ ended : List Posting, marks = (ended.flatMap fun p => [published p, withdrawn p]) ++ inForce.toList.map published

theorem Balanced.publish {marks : List Mark} (h : Balanced marks none) (p : Posting) :
    Balanced (marks ++ [published p]) (some p) := by
  obtain ⟨ended, rfl⟩ := h
  exact ⟨ended, by simp⟩

theorem Balanced.withdraw {marks : List Mark} {p : Posting} (h : Balanced marks (some p)) :
    Balanced (marks ++ [withdrawn p]) none := by
  obtain ⟨ended, rfl⟩ := h
  exact ⟨ended ++ [p], by simp⟩

end Mark

namespace Advertiser

/-- Whether the mark is about the registrar's record of the service. -/
def owns (a : Advertiser) (k : Service) (m : Mark) : Bool := m.posting.name == k.instanceName a.name a.identifier

/-- What began as a fresh registrar keeps one record of a service at most, and that is the one in force. -/
structure Accounts (fresh a : Advertiser) (marks : List Mark) : Prop where
  same : { a with records := [] } = fresh
  kinds : (a.records.map (·.1)).Nodup
  names : ∀ r ∈ a.records, r.2.name = r.1.instanceName fresh.name fresh.identifier
  owned : ∀ m ∈ marks, ∃ k, fresh.owns k m = true
  balanced : ∀ k, Mark.Balanced (marks.filter (fresh.owns k)) ((a.records.lookup k).map ServiceRecord.posting)

variable {w : World} {fresh a : Advertiser} {marks : List Mark} {j k : Service} {port : Int} {r : ServiceRecord}

theorem mem_of_lookup (present : a.records.lookup k = some r) : (k, r) ∈ a.records := by
  obtain ⟨before, after, split, -⟩ := List.lookup_eq_some_iff.mp present
  rw [split]
  simp

theorem lookup_dropRecord (a : Advertiser) (j k : Service) :
    (dropRecord k a).records.lookup j = if j = k then none else a.records.lookup j := by
  have dropped : ∀ records : List (Service × ServiceRecord),
      (records.filter fun r => r.1 != k).lookup j = if j = k then none else records.lookup j := by
    intro records
    induction records with
    | nil => simp
    | cons r rest ih =>
      by_cases mine : r.1 = k
      · rw [List.filter_cons_of_neg (by simp [mine]), ih, List.lookup_cons, mine]
        by_cases own : j = k
        · simp [own]
        · simp [own, beq_eq_false_iff_ne.mpr own]
      · rw [List.filter_cons_of_pos (by simp [mine]), List.lookup_cons, List.lookup_cons, ih]
        by_cases own : j = k
        · simp [own, beq_eq_false_iff_ne.mpr (Ne.symm mine)]
        · simp [own]
  exact dropped a.records

theorem lookup_add (absent : a.records.lookup k = none) (j : Service) :
    (a.add k r).records.lookup j = if j = k then some r else a.records.lookup j := by
  rw [add, List.lookup_append]
  by_cases own : j = k
  · subst own
    rw [absent, if_pos rfl]
    simp
  · have other : (j == k) = false := beq_eq_false_iff_ne.mpr own
    rw [if_neg own, List.lookup_cons, other]
    simp

theorem Accounts.owned_concat (acc : fresh.Accounts a marks) {m : Mark} (mine : fresh.owns k m = true) :
    ∀ n ∈ marks ++ [m], ∃ j, fresh.owns j n = true := by
  intro n member
  rcases List.mem_append.mp member with before | last
  · exact acc.owned n before
  · exact ⟨k, by rwa [List.mem_singleton.mp last]⟩

/-- A mark about the service moves the books of that service and of no other one. -/
theorem Accounts.balanced_concat (acc : fresh.Accounts a marks) {m : Mark} (mine : fresh.owns k m = true)
    (inForce : Option ServiceRecord)
    (own : Mark.Balanced (marks.filter (fresh.owns k) ++ [m]) (inForce.map ServiceRecord.posting)) (j : Service) :
    Mark.Balanced ((marks ++ [m]).filter (fresh.owns j))
      ((if j = k then inForce else a.records.lookup j).map ServiceRecord.posting) := by
  rw [List.filter_append]
  by_cases same : j = k
  · subst same
    rwa [if_pos rfl, List.filter_cons_of_pos mine]
  · have other : ¬fresh.owns j m = true := fun theirs =>
      same (Service.eq_of_instanceName_eq ((beq_iff_eq.mp theirs).symm.trans (beq_iff_eq.mp mine)))
    rw [if_neg same, List.filter_cons_of_neg other, List.filter_nil, List.append_nil]
    exact acc.balanced j

theorem Accounts.withdraw (acc : fresh.Accounts a marks) (present : a.records.lookup k = some r) :
    fresh.Accounts (dropRecord k a) (marks ++ [.withdrawn r.posting]) := by
  have mine : fresh.owns k (.withdrawn r.posting) = true := beq_iff_eq.mpr (acc.names _ (mem_of_lookup present))
  have fewer : List.Sublist (dropRecord k a).records a.records := List.filter_sublist
  have standing := acc.balanced k
  rw [present] at standing
  refine ⟨acc.same, acc.kinds.sublist (fewer.map _), fun r member => acc.names r (fewer.subset member),
    acc.owned_concat mine, fun j => ?_⟩
  rw [lookup_dropRecord]
  exact acc.balanced_concat mine none standing.withdraw j

theorem Accounts.publish (acc : fresh.Accounts a marks) (absent : a.records.lookup k = none)
    (named : r.name = k.instanceName fresh.name fresh.identifier) :
    fresh.Accounts (a.add k r) (marks ++ [.published r.posting]) := by
  have mine : fresh.owns k (.published r.posting) = true := beq_iff_eq.mpr named
  have closed := acc.balanced k
  rw [absent] at closed
  refine ⟨acc.same, ?_, ?_, acc.owned_concat mine, fun j => ?_⟩
  · rw [add, List.map_append]
    refine List.nodup_append.mpr ⟨acc.kinds, by simp, fun j member i last => ?_⟩
    obtain ⟨r, there, rfl⟩ := List.mem_map.mp member
    rw [List.mem_singleton.mp last]
    exact Ne.symm (bne_iff_ne.mp (List.lookup_eq_none_iff.mp absent r there))
  · intro r member
    rcases List.mem_append.mp member with before | last
    · exact acc.names r before
    · rw [List.mem_singleton.mp last]
      exact named
  · rw [lookup_add absent]
    exact acc.balanced_concat mine (some r) (closed.publish r.posting) j

theorem posting_of_record (made : record w a k port = .ok r) :
    r.name = k.instanceName a.name a.identifier ∧ r.port = port := by
  unfold record at made
  split at made
  · cases made
  · split at made
    · cases made
    · cases made
      exact ⟨rfl, rfl⟩

theorem Accounts.nothing (acc : fresh.Accounts a marks) : fresh.Accounts a (marks ++ Mark.all w []) := by
  rwa [Mark.all, List.filterMap_nil, List.append_nil]

theorem publish_accounts (w : World) (port : Int) (acc : fresh.Accounts a marks) (absent : a.records.lookup k = none) :
    fresh.Accounts (publish w k port a).state (marks ++ Mark.all w (publish w k port a).events) := by
  cases made : record w a k port with
  | error e =>
    rw [publish_of_error made]
    exact acc.nothing
  | ok r =>
    cases refusal : (w.reply (.publishRecord r.name r.port)).refusal? with
    | some text =>
      have unmarked : Mark.all w [.call (.publishRecord r.name r.port)] = [] := by simp [Mark.all, Mark.of?, refusal]
      rw [publish_of_refused made refusal, unmarked, List.append_nil]
      exact acc
    | none =>
      have marked : Mark.all w [.call (.publishRecord r.name r.port), .log (registeredRecord a k port)] =
          [.published r.posting] := by simp [Mark.all, Mark.of?, refusal, ServiceRecord.posting]
      rw [publish_of_heard made refusal, marked]
      obtain ⟨named, -⟩ := posting_of_record made
      exact acc.publish absent (by rw [named, ← acc.same])

theorem register_accounts (w : World) (k : Service) (port : Int) (acc : fresh.Accounts a marks) :
    fresh.Accounts (register w k port a).state (marks ++ Mark.all w (register w k port a).events) := by
  cases present : a.records.lookup k with
  | none => rw [register_of_absent present]; exact publish_accounts w port acc present
  | some r =>
    have withdrawn := acc.withdraw present
    cases refusal : (w.reply (.withdrawRecord r.name r.port)).refusal? with
    | some text => rw [register_of_refused present refusal]; exact withdrawn
    | none =>
      have absent : (dropRecord k a).records.lookup k = none := by rw [lookup_dropRecord, if_pos rfl]
      have published := publish_accounts w port withdrawn absent
      rw [List.append_assoc] at published
      rw [register_of_heard present refusal]
      exact published

theorem unregister_accounts (w : World) (k : Service) (acc : fresh.Accounts a marks) :
    fresh.Accounts (unregister w k a).state (marks ++ Mark.all w (unregister w k a).events) := by
  cases present : a.records.lookup k with
  | none => rw [unregister_of_absent present]; exact acc.nothing
  | some r =>
    cases refusal : (w.reply (.withdrawRecord r.name r.port)).refusal? with
    | some text => rw [unregister_of_refused present refusal]; exact acc.withdraw present
    | none => rw [unregister_of_heard present refusal]; exact acc.withdraw present

theorem unregister_state (w : World) (k : Service) (a : Advertiser) : (unregister w k a).state = dropRecord k a := by
  cases present : a.records.lookup k with
  | none => rw [unregister_of_absent present, dropRecord_of_absent present]
  | some r =>
    cases refusal : (w.reply (.withdrawRecord r.name r.port)).refusal? with
    | some text => rw [unregister_of_refused present refusal]
    | none => rw [unregister_of_heard present refusal]

/-- Taking a record off quietly takes it off, and asks for its withdrawal as ever. -/
theorem unregisterQuietly_apply (w : World) (k : Service) (a : Advertiser) :
    ∃ records : List LogRecord, unregisterQuietly w k a =
      ⟨.ok (), dropRecord k a, (unregister w k a).events ++ records.map .log⟩ := by
  have state := unregister_state w k a
  rw [unregisterQuietly, Run.bind_of_ok (a := (unregister w k a).outcome) rfl]
  cases (unregister w k a).outcome with
  | ok u => exact ⟨[], by simp [state]⟩
  | error e =>
    exact ⟨[⟨.error, .discovery, "Error unregistering service: " ++ e.message⟩], by simp [state]⟩

theorem unregisterQuietly_accounts (w : World) (k : Service) (acc : fresh.Accounts a marks) :
    fresh.Accounts (unregisterQuietly w k a).state (marks ++ Mark.all w (unregisterQuietly w k a).events) := by
  obtain ⟨records, quietly⟩ := unregisterQuietly_apply w k a
  have unmarked : Mark.all w (records.map .log) = [] := by simp [Mark.all, List.filterMap_map, Mark.of?]
  have plainly := unregister_accounts w k acc
  rw [unregister_state] at plainly
  rw [quietly, Mark.all_append, unmarked, List.append_nil]
  exact plainly

theorem each_unregisterQuietly_accounts (w : World) (kinds : List Service) (acc : fresh.Accounts a marks) :
    let x := Run.each (unregisterQuietly w) kinds a
    fresh.Accounts x.state (marks ++ Mark.all w x.events) := by
  dsimp only
  induction kinds generalizing a marks with
  | nil => exact acc.nothing
  | cons k rest ih =>
    have accounts := ih (unregisterQuietly_accounts w k acc)
    rw [List.append_assoc, ← Mark.all_append] at accounts
    rw [Run.Succeeds.each_cons_apply (unregisterQuietly_ok w)]
    exact accounts

theorem mem_each_unregisterQuietly (w : World) (kinds : List Service) {r : Service × ServiceRecord}
    (kept : r ∈ (Run.each (unregisterQuietly w) kinds a).state.records) : r ∈ a.records ∧ r.1 ∉ kinds := by
  induction kinds generalizing a with
  | nil => exact ⟨kept, by simp⟩
  | cons k rest ih =>
    obtain ⟨records, quietly⟩ := unregisterQuietly_apply w k a
    rw [Run.Succeeds.each_cons_apply (unregisterQuietly_ok w)] at kept
    obtain ⟨before, apart⟩ := ih kept
    rw [quietly] at before
    obtain ⟨there, other⟩ := List.mem_filter.mp before
    exact ⟨there, by simpa using ⟨bne_iff_ne.mp other, apart⟩⟩

theorem destroy_apply (w : World) (a : Advertiser) :
    let x := Run.each (unregisterQuietly w) (a.records.map (·.1)) a
    (destroy w a).state = x.state ∧ (destroy w a).events = x.events ++ [.call .closeResponder] := by
  intro x
  have all := Run.Succeeds.each (unregisterQuietly_ok w) (a.records.map (·.1))
  rw [destroy, Run.read_bind, all.bind_unit, Run.perform_eq]
  exact ⟨rfl, rfl⟩

theorem destroy_accounts (w : World) (acc : fresh.Accounts a marks) :
    fresh.Accounts (destroy w a).state (marks ++ Mark.all w (destroy w a).events) := by
  obtain ⟨state, events⟩ := destroy_apply w a
  have closing : Mark.all w [.call .closeResponder] = [] := rfl
  rw [state, events, Mark.all_append, closing, List.append_nil]
  exact each_unregisterQuietly_accounts w (a.records.map (·.1)) acc

theorem destroy_records (w : World) (a : Advertiser) : (destroy w a).state.records = [] := by
  rw [(destroy_apply w a).1]
  refine List.eq_nil_iff_forall_not_mem.mpr fun r member => ?_
  obtain ⟨there, apart⟩ := mem_each_unregisterQuietly w _ member
  exact apart (List.mem_map_of_mem there)

/-- The responder is closed once, whatever fails before. -/
theorem count_closeResponder (w : World) (a : Advertiser) : (destroy w a).events.count (.call .closeResponder) = 1 := by
  have quiet : ∀ k, Run.Leaves (· ≠ .call .closeResponder) (unregisterQuietly w k) :=
    unregisterQuietly_leaves (fun _ _ => by simp) (fun _ _ => by simp) w
  have others := (Run.Keeps.each quiet (a.records.map (·.1)) a).2
  rw [(destroy_apply w a).2, List.count_append, List.count_eq_zero.mpr fun member => others _ member rfl]
  rfl

/-- A registration touches its own service only.  Where it fails it leaves no record of that service, and
otherwise one on its port. -/
structure Registers (a : Advertiser) (k : Service) (port : Int) (x : Execution Fault Advertiser Unit) : Prop where
  others : ∀ j, j ≠ k → x.state.records.lookup j = a.records.lookup j
  own : match x.outcome with
    | .ok () => (x.state.records.lookup k).map (·.port) = some port
    | .error _ => x.state.records.lookup k = none

theorem publish_registers (w : World) (port : Int) (absent : a.records.lookup k = none) :
    a.Registers k port (publish w k port a) := by
  cases made : record w a k port with
  | error e => rw [publish_of_error made]; exact ⟨fun _ _ => rfl, absent⟩
  | ok r =>
    cases refusal : (w.reply (.publishRecord r.name r.port)).refusal? with
    | some text => rw [publish_of_refused made refusal]; exact ⟨fun _ _ => rfl, absent⟩
    | none =>
      rw [publish_of_heard made refusal]
      refine ⟨fun j other => by rw [lookup_add absent, if_neg other], ?_⟩
      rw [lookup_add absent, if_pos rfl, Option.map_some, (posting_of_record made).2]

theorem register_registers (w : World) (a : Advertiser) (k : Service) (port : Int) :
    a.Registers k port (register w k port a) := by
  have dropped : ∀ j, (dropRecord k a).records.lookup j = if j = k then none else a.records.lookup j :=
    fun j => lookup_dropRecord a j k
  cases present : a.records.lookup k with
  | none => rw [register_of_absent present]; exact publish_registers w port present
  | some r =>
    cases refusal : (w.reply (.withdrawRecord r.name r.port)).refusal? with
    | some text =>
      rw [register_of_refused present refusal]
      exact ⟨fun j other => by rw [dropped, if_neg other], by rw [dropped, if_pos rfl]⟩
    | none =>
      obtain ⟨others, own⟩ := publish_registers w port (a := dropRecord k a) (k := k) (by rw [dropped, if_pos rfl])
      rw [register_of_heard present refusal]
      exact ⟨fun j other => by rw [others j other, dropped, if_neg other], own⟩

/-- What a registrar is asked for. -/
inductive Task where
  | register (k : Service) (port : Int)
  | unregister (k : Service)
  | destroy
  deriving DecidableEq, Repr

namespace Task

def run (w : World) : Task → Run Fault Advertiser Unit
  | register k port => Advertiser.register w k port
  | unregister k => Advertiser.unregister w k
  | destroy => Advertiser.destroy w

/-- The port that the task asks for the service. -/
def port? (k : Service) : Task → Option Int
  | register j port => if j = k then some port else none
  | _ => none

end Task

/-- A task with the world that it meets. -/
structure Request where
  task : Task
  world : World

namespace Request

/-- Serves the request; a failure goes to whoever asked. -/
def serve (q : Request) : Run Fault Advertiser Unit := do
  let _ ← Run.attempt (q.task.run q.world)

def serveAll (requests : List Request) : Run Fault Advertiser Unit := Run.each serve requests

/-- The marks that the requests leave. -/
def ledger : List Request → Advertiser → List Mark
  | [], _ => []
  | q :: rest, a => Mark.all q.world (q.serve a).events ++ ledger rest (q.serve a).state

/-- The port that was asked for last. -/
def lastPort? (k : Service) (requests : List Request) : Option Int :=
  (requests.filterMap fun q => q.task.port? k).getLast?

theorem serve_apply (q : Request) (a : Advertiser) :
    q.serve a = ⟨.ok (), (q.task.run q.world a).state, (q.task.run q.world a).events⟩ := by
  simp [serve]

theorem serve_succeeds (q : Request) : q.serve.Succeeds := fun a => ⟨(), by rw [serve_apply]⟩

theorem serveAll_concat (requests : List Request) (q : Request) (a : Advertiser) :
    (serveAll (requests ++ [q]) a).state = (q.serve (serveAll requests a).state).state :=
  Run.Succeeds.each_concat_state serve_succeeds requests q a

theorem ledger_concat (requests : List Request) (q : Request) (a : Advertiser) :
    ledger (requests ++ [q]) a =
      ledger requests a ++ Mark.all q.world (q.serve (serveAll requests a).state).events := by
  induction requests generalizing a with
  | nil => simp [ledger, serveAll]
  | cons first rest ih =>
    rw [List.cons_append, ledger, ih, ledger, List.append_assoc, serveAll, serveAll,
      Run.Succeeds.each_cons_apply serve_succeeds]

theorem serve_accounts (q : Request) (acc : fresh.Accounts a marks) :
    fresh.Accounts (q.serve a).state (marks ++ Mark.all q.world (q.serve a).events) := by
  rw [serve_apply]
  cases task : q.task with
  | register k port => exact register_accounts q.world k port acc
  | unregister k => exact unregister_accounts q.world k acc
  | destroy => exact destroy_accounts q.world acc

/-- Whatever is asked and whatever fails, the records kept are those in force. -/
theorem serveAll_accounts (requests : List Request) (acc : fresh.Accounts fresh []) :
    fresh.Accounts (serveAll requests fresh).state (ledger requests fresh) := by
  induction requests using List.reverseRecOn with
  | nil => exact acc
  | append_singleton rest q ih =>
    rw [serveAll_concat, ledger_concat]
    exact serve_accounts q ih

theorem lastPort?_concat (k : Service) (requests : List Request) (q : Request) :
    lastPort? k (requests ++ [q]) = (q.task.port? k).or (lastPort? k requests) := by
  rw [lastPort?, List.filterMap_append, List.getLast?_append]
  cases port : q.task.port? k <;> simp [port, lastPort?]

/-- A record of the service after the task has the port asked for, or was there before. -/
theorem port_of_lookup (q : Request) {r : ServiceRecord} (there : (q.serve a).state.records.lookup k = some r) :
    q.task.port? k = some r.port ∨ (q.task.port? k = none ∧ a.records.lookup k = some r) := by
  rw [serve_apply] at there
  cases task : q.task with
  | register j port =>
    rw [task] at there
    obtain ⟨others, own⟩ := register_registers q.world a j port
    by_cases mine : k = j
    · subst mine
      have kept : (register q.world k port a).state.records.lookup k = some r := there
      refine .inl ?_
      rw [Task.port?, if_pos rfl]
      cases outcome : (register q.world k port a).outcome with
      | ok u => rw [outcome, kept] at own; exact own.symm
      | error e => rw [outcome, kept] at own; cases own
    · exact .inr ⟨by rw [Task.port?, if_neg (Ne.symm mine)], by rw [← others k mine]; exact there⟩
  | unregister j =>
    rw [task, Task.run, unregister_state, lookup_dropRecord] at there
    split at there
    · cases there
    · exact .inr ⟨rfl, there⟩
  | destroy =>
    rw [task, Task.run, destroy_records] at there
    cases there

theorem port_of_serveAll (requests : List Request) {r : ServiceRecord}
    (there : (serveAll requests fresh).state.records.lookup k = some r) (empty : fresh.records = []) :
    lastPort? k requests = some r.port := by
  induction requests using List.reverseRecOn with
  | nil => simp [serveAll, empty] at there
  | append_singleton rest q ih =>
    rw [serveAll_concat] at there
    rw [lastPort?_concat]
    rcases port_of_lookup q there with asked | ⟨silent, before⟩
    · rw [asked]; rfl
    · rw [silent, ih before]; rfl

/-- The books of a registrar, for any requests and any failures on the way.  The records in force are those that it
keeps, one of a service at most, on the port asked for last.  A registration that fails leaves no record of its
service and touches no other one.  A registrar that is destroyed keeps no record and has each withdrawn. -/
theorem serveAll_balances (name : String) (identifier : DeviceIdentifier) (addresses : List String)
    (requests : List Request) (q : Request) :
    let fresh : Advertiser := { name, identifier, addresses }
    let a := (serveAll requests fresh).state
    let x := q.task.run q.world a
    fresh.Accounts a (ledger requests fresh) ∧
      (∀ k r, a.records.lookup k = some r → lastPort? k requests = some r.port) ∧
      match q.task with
      | .register k port => a.Registers k port x
      | .unregister k => x.state = dropRecord k a
      | .destroy => x.state.records = [] ∧ x.events.count (.call .closeResponder) = 1 ∧
          ∀ k, Mark.Balanced ((ledger (requests ++ [q]) fresh).filter (fresh.owns k)) none := by
  intro fresh a x
  have begins : fresh.Accounts fresh [] :=
    { same := rfl, kinds := List.nodup_nil, names := nofun, owned := nofun, balanced := fun _ => ⟨[], rfl⟩ }
  refine ⟨serveAll_accounts requests begins, fun k r there => port_of_serveAll requests there rfl, ?_⟩
  cases task : q.task with
  | register k port => simp only [x, task]; exact register_registers q.world a k port
  | unregister k => simp only [x, task]; exact unregister_state q.world k a
  | destroy =>
    have empty := destroy_records q.world a
    have last : (serveAll (requests ++ [q]) fresh).state = (destroy q.world a).state := by
      rw [serveAll_concat, serve_apply, task]
      rfl
    have books := serveAll_accounts (requests ++ [q]) begins
    simp only [x, task]
    refine ⟨empty, count_closeResponder q.world a, fun k => ?_⟩
    have balanced := books.balanced k
    rwa [last, empty] at balanced

end Request

end Advertiser

end CastLaunch
