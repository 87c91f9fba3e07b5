import CastLaunch.Call
import CastLaunch.Log

/-!
Runs that talk to collaborators.  A run has a state, may fail, and leaves the
events on its way: what it logged and which calls it made.  The state and the
events of a run that fails are kept.
-/

namespace CastLaunch

inductive Fault where
  | collaborator (text : String)
  | noVideoFactory
  | noAudioFactory
  | illegalAddress
  | noHostname
  | unknownSignal (number : Int)
  deriving DecidableEq, Repr

open CastLaunch.Text in
def Fault.message : Fault → String
  | .collaborator text => text
  | .noVideoFactory => "no video renderer factory"
  | .noAudioFactory => "no audio renderer factory"
  | .illegalAddress => "illegal IP address string passed to inet_aton"
  | .noHostname => "no host name"
  | .unknownSignal number => intText number ++ " is not a valid Signals"

inductive Entry where
  | log (r : LogRecord)
  | call (c : Call)
  /-- A serve cycle begins; cycles are counted from zero. -/
  | cycle (number : Nat)
  /-- An event from outside failed. -/
  | raised (e : Fault)
  deriving DecidableEq, Repr

structure Execution (ε σ α : Type) where
  outcome : Except ε α
  state : σ
  events : List Entry

/-- A run over states `σ` that fails with `ε`. -/
def Run (ε σ α : Type) : Type := σ → Execution ε σ α

namespace Run

variable {ε ε' σ τ α β : Type}

protected def pure (a : α) : Run ε σ α := fun s => ⟨.ok a, s, []⟩

protected def bind (x : Run ε σ α) (f : α → Run ε σ β) : Run ε σ β := fun s =>
  match x s with
  | ⟨.error e, t, events⟩ => ⟨.error e, t, events⟩
  | ⟨.ok a, t, events⟩ =>
    let y := f a t
    ⟨y.outcome, y.state, events ++ y.events⟩

instance : Monad (Run ε σ) where
  pure := Run.pure
  bind := Run.bind

def fail (e : ε) : Run ε σ α := fun s => ⟨.error e, s, []⟩

def emit (e : Entry) : Run ε σ Unit := fun s => ⟨.ok (), s, [e]⟩

def read : Run ε σ σ := fun s => ⟨.ok s, s, []⟩

def update (f : σ → σ) : Run ε σ Unit := fun s => ⟨.ok (), f s, []⟩

def log (severity : Severity) (channel : Channel) (message : String) : Run ε σ Unit :=
  emit (.log ⟨severity, channel, message⟩)

/-- The run with its failure as a value. -/
def attempt (x : Run ε σ α) : Run ε' σ (Except ε α) := fun s =>
  let y := x s
  ⟨.ok y.outcome, y.state, y.events⟩

def mapError (f : ε → ε') (x : Run ε σ α) : Run ε' σ α := fun s =>
  let y := x s
  ⟨y.outcome.mapError f, y.state, y.events⟩

/-- The run on a part of the state. -/
def within (part : σ → τ) (put : τ → σ → σ) (x : Run ε τ α) : Run ε σ α := fun s =>
  let y := x (part s)
  ⟨y.outcome, put y.state s, y.events⟩

/-- Makes the call; false when it gives nothing. -/
def call (w : World) (c : Call) : Run Fault σ Bool := fun s =>
  match w.reply c with
  | .done => ⟨.ok true, s, [.call c]⟩
  | .nothing => ⟨.ok false, s, [.call c]⟩
  | .failed text => ⟨.error (.collaborator text), s, [.call c]⟩

def perform (w : World) (c : Call) : Run Fault σ Unit := do
  let _ ← call w c

/-- Runs over the items in order, up to the first failure. -/
def each (f : α → Run ε σ Unit) : List α → Run ε σ Unit
  | [] => Run.pure ()
  | a :: r => Run.bind (f a) fun _ => each f r

/-- Runs over the items like `each`.  As long as there are pauses, one comes before each item and one
behind the last. -/
def eachAmid (pause : β → Run ε σ Unit) (f : α → Run ε σ Unit) : List β → List α → Run ε σ Unit
  | [], items => each f items
  | p :: _, [] => pause p
  | p :: ps, a :: r => Run.bind (pause p) fun _ => Run.bind (f a) fun _ => eachAmid pause f ps r

@[simp] theorem pure_apply (a : α) (s : σ) : (pure a : Run ε σ α) s = ⟨.ok a, s, []⟩ := rfl

@[simp] theorem bind_apply (x : Run ε σ α) (f : α → Run ε σ β) (s : σ) :
    (x >>= f) s =
      match x s with
      | ⟨.error e, t, events⟩ => ⟨.error e, t, events⟩
      | ⟨.ok a, t, events⟩ => ⟨(f a t).outcome, (f a t).state, events ++ (f a t).events⟩ := rfl

@[simp] theorem fail_apply (e : ε) (s : σ) : (fail e : Run ε σ α) s = ⟨.error e, s, []⟩ := rfl

@[simp] theorem emit_apply (e : Entry) (s : σ) : (emit e : Run ε σ Unit) s = ⟨.ok (), s, [e]⟩ := rfl

@[simp] theorem read_apply (s : σ) : (read : Run ε σ σ) s = ⟨.ok s, s, []⟩ := rfl

@[simp] theorem update_apply (f : σ → σ) (s : σ) : (update f : Run ε σ Unit) s = ⟨.ok (), f s, []⟩ := rfl

@[simp] theorem log_apply (severity : Severity) (channel : Channel) (message : String) (s : σ) :
    (log severity channel message : Run ε σ Unit) s =
      ⟨.ok (), s, [.log ⟨severity, channel, message⟩]⟩ := rfl

@[simp] theorem attempt_apply (x : Run ε σ α) (s : σ) :
    (attempt x : Run ε' σ (Except ε α)) s = ⟨.ok (x s).outcome, (x s).state, (x s).events⟩ := rfl

@[simp] theorem mapError_apply (f : ε → ε') (x : Run ε σ α) (s : σ) :
    mapError f x s = ⟨(x s).outcome.mapError f, (x s).state, (x s).events⟩ := rfl

@[simp] theorem within_apply (part : σ → τ) (put : τ → σ → σ) (x : Run ε τ α) (s : σ) :
    within part put x s =
      ⟨(x (part s)).outcome, put (x (part s)).state s, (x (part s)).events⟩ := rfl

@[simp] theorem each_nil (f : α → Run ε σ Unit) : each f [] = pure () := rfl

@[simp] theorem each_cons (f : α → Run ε σ Unit) (a : α) (r : List α) :
    each f (a :: r) = f a >>= fun _ => each f r := rfl

@[simp] theorem eachAmid_nil (pause : β → Run ε σ Unit) (f : α → Run ε σ Unit) (items : List α) :
    eachAmid pause f [] items = each f items := by
  cases items <;> rfl

@[simp] theorem eachAmid_cons_nil (pause : β → Run ε σ Unit) (f : α → Run ε σ Unit) (p : β) (ps : List β) :
    eachAmid pause f (p :: ps) [] = pause p := rfl

@[simp] theorem eachAmid_cons_cons (pause : β → Run ε σ Unit) (f : α → Run ε σ Unit) (p : β) (ps : List β)
    (a : α) (r : List α) :
    eachAmid pause f (p :: ps) (a :: r) =
      pause p >>= fun _ => f a >>= fun _ => eachAmid pause f ps r := rfl

/-- A call leaves its event whatever the answer is, and changes no state. -/
theorem perform_apply (w : World) (c : Call) (s : σ) :
    (perform w c : Run Fault σ Unit) s =
      match w.reply c with
      | .failed text => ⟨.error (.collaborator text), s, [.call c]⟩
      | _ => ⟨.ok (), s, [.call c]⟩ := by
  unfold perform
  rw [bind_apply, call]
  cases w.reply c <;> rfl

end Run

end CastLaunch
