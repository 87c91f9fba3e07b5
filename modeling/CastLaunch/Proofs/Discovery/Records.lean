import CastLaunch.Discovery.Advertiser
import CastLaunch.Proofs.Execution

/-!
What the built-in registrar does in each case.  A record is taken off before its withdrawal is
asked for, and put down after its publication came through; so a failure on the way leaves the
service without a record.
-/

namespace CastLaunch
open CastLaunch.Text

/-- Why the call fails, if it does. -/
def Reply.refusal? : Reply → Option String
  | .failed text => some text
  | _ => none

namespace Run

variable {σ β : Type} {w : World} {c : Call} {text : String}

theorem perform_eq (w : World) (c : Call) (t : σ) :
    perform w c t = ⟨match (w.reply c).refusal? with
      | none => .ok ()
      | some text => .error (.collaborator text), t, [.call c]⟩ := by
  rw [perform_apply]
  cases w.reply c <;> rfl

/-- A call that comes through, and what follows it. -/
theorem perform_bind_of_heard (heard : (w.reply c).refusal? = none) (f : Unit → Run Fault σ β) (s : σ) :
    (perform w c >>= f) s = ⟨(f () s).outcome, (f () s).state, .call c :: (f () s).events⟩ := by
  rw [bind_of_ok (a := ()) (by rw [perform_eq, heard]), perform_eq]
  rfl

theorem perform_bind_of_refused (refused : (w.reply c).refusal? = some text) (f : Unit → Run Fault σ β) (s : σ) :
    (perform w c >>= f) s = ⟨.error (.collaborator text), s, [.call c]⟩ := by
  rw [bind_of_error (e := .collaborator text) (by rw [perform_eq, refused]), perform_eq]

end Run

namespace Advertiser

def registeredRecord (a : Advertiser) (k : Service) (port : Int) : LogRecord :=
  ⟨.info, .discovery, "Registered " ++ k.recordType ++ " service " ++ a.name ++ " on port " ++ intText port⟩

def unregisteredRecord (k : Service) : LogRecord := ⟨.info, .discovery, "Unregistered " ++ k.recordType ++ " service"⟩

def add (k : Service) (r : ServiceRecord) (a : Advertiser) : Advertiser := { a with records := a.records ++ [(k, r)] }

variable {w : World} {a : Advertiser} {k : Service} {port : Int} {r : ServiceRecord} {e : Fault} {text : String}

theorem publish_of_error (unmade : record w a k port = .error e) : publish w k port a = ⟨.error e, a, []⟩ := by
  rw [publish, Run.read_bind, unmade]
  rfl

theorem publish_of_refused (made : record w a k port = .ok r)
    (refused : (w.reply (.publishRecord r.name r.port)).refusal? = some text) :
    publish w k port a = ⟨.error (.collaborator text), a, [.call (.publishRecord r.name r.port)]⟩ := by
  rw [publish, Run.read_bind, made]
  exact Run.perform_bind_of_refused refused _ a

theorem publish_of_heard (made : record w a k port = .ok r)
    (heard : (w.reply (.publishRecord r.name r.port)).refusal? = none) :
    publish w k port a =
      ⟨.ok (), a.add k r, [.call (.publishRecord r.name r.port), .log (registeredRecord a k port)]⟩ := by
  rw [publish, Run.read_bind, made]
  exact Run.perform_bind_of_heard heard _ a

theorem publish_state_of_ok (ok : (publish w k port a).outcome = .ok ()) :
    ∃ r, (publish w k port a).state = a.add k r := by
  cases made : record w a k port with
  | error e =>
    rw [publish_of_error made] at ok
    cases ok
  | ok r =>
    cases refusal : (w.reply (.publishRecord r.name r.port)).refusal? with
    | none => exact ⟨r, by rw [publish_of_heard made refusal]⟩
    | some text =>
      rw [publish_of_refused made refusal] at ok
      cases ok

theorem dropRecord_of_absent (absent : a.records.lookup k = none) : dropRecord k a = a := by
  have kept : a.records.filter (fun r => r.1 != k) = a.records := by
    refine List.filter_eq_self.mpr fun r member => ?_
    exact bne_iff_ne.mpr (Ne.symm (bne_iff_ne.mp (List.lookup_eq_none_iff.mp absent r member)))
  rw [dropRecord, kept]

theorem register_of_absent (absent : a.records.lookup k = none) : register w k port a = publish w k port a := by
  rw [register, Run.read_bind, Run.update_bind, absent, dropRecord_of_absent absent]

theorem register_of_refused (present : a.records.lookup k = some r)
    (refused : (w.reply (.withdrawRecord r.name r.port)).refusal? = some text) :
    register w k port a =
      ⟨.error (.collaborator text), dropRecord k a, [.call (.withdrawRecord r.name r.port)]⟩ := by
  rw [register, Run.read_bind, Run.update_bind, present]
  exact Run.perform_bind_of_refused refused _ _

theorem register_of_heard (present : a.records.lookup k = some r)
    (heard : (w.reply (.withdrawRecord r.name r.port)).refusal? = none) :
    let x := publish w k port (dropRecord k a)
    register w k port a = ⟨x.outcome, x.state, .call (.withdrawRecord r.name r.port) :: x.events⟩ := by
  rw [register, Run.read_bind, Run.update_bind, present]
  exact Run.perform_bind_of_heard heard _ _

theorem unregister_of_absent (absent : a.records.lookup k = none) : unregister w k a = ⟨.ok (), a, []⟩ := by
  rw [unregister, Run.read_bind, absent]
  rfl

theorem unregister_of_refused (present : a.records.lookup k = some r)
    (refused : (w.reply (.withdrawRecord r.name r.port)).refusal? = some text) :
    unregister w k a = ⟨.error (.collaborator text), dropRecord k a, [.call (.withdrawRecord r.name r.port)]⟩ := by
  rw [unregister, Run.read_bind, present]
  exact Run.perform_bind_of_refused refused _ _

theorem unregister_of_heard (present : a.records.lookup k = some r)
    (heard : (w.reply (.withdrawRecord r.name r.port)).refusal? = none) :
    unregister w k a =
      ⟨.ok (), dropRecord k a, [.call (.withdrawRecord r.name r.port), .log (unregisteredRecord k)]⟩ := by
  rw [unregister, Run.read_bind, present]
  exact Run.perform_bind_of_heard heard _ _

end Advertiser

end CastLaunch
