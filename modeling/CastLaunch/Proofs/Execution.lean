import CastLaunch.Execution

/-!
Runs compared.  Reports of an engine and requests from outside leave asides in a trace:
records, failed events, the background of the video, posts to the loop.  Without them
the outline of a trace is left, the cycles and the calls that a launch itself makes.
A run `Keeps` a view of the state and leaves entries of one kind, and it `FailsWith` errors
of one kind; a run that `Follows` another one does the same as that one, up to asides.
-/

namespace CastLaunch

/-- Entries that reports and requests leave. -/
def Entry.isAside : Entry → Bool
  | .log _ | .raised _ => true
  | .call (.updateBackground _) | .call .postToLoop => true
  | _ => false

def outline (events : List Entry) : List Entry := events.filter fun e => !e.isAside

@[simp] theorem outline_nil : outline [] = [] := rfl

@[simp] theorem outline_append (a b : List Entry) : outline (a ++ b) = outline a ++ outline b :=
  List.filter_append a b

@[simp] theorem outline_log (r : LogRecord) (events : List Entry) :
    outline (.log r :: events) = outline events := rfl

@[simp] theorem outline_cycle (n : Nat) (events : List Entry) :
    outline (.cycle n :: events) = .cycle n :: outline events := rfl

theorem outline_eq_nil {events : List Entry} (h : ∀ e ∈ events, e.isAside = true) : outline events = [] := by
  simpa [outline, List.filter_eq_nil_iff] using h

theorem filterMap_outline {β : Type} {f : Entry → Option β} (spares : ∀ e : Entry, e.isAside = true → f e = none)
    (events : List Entry) : (outline events).filterMap f = events.filterMap f := by
  rw [outline, List.filterMap_filter]
  congr 1
  funext e
  cases aside : e.isAside with
  | true => simp [spares e aside]
  | false => simp

theorem count_outline {e : Entry} (kept : e.isAside = false) (events : List Entry) :
    (outline events).count e = events.count e :=
  List.count_filter (by simp [kept])

/-- The executions end alike, in states in the relation, and their traces have one outline. -/
def Execution.Alike {ε σ τ α : Type} (R : σ → τ → Prop) (x : Execution ε σ α) (y : Execution ε τ α) : Prop :=
  x.outcome = y.outcome ∧ R x.state y.state ∧ outline x.events = outline y.events

namespace Execution.Alike

variable {ε σ α : Type} {x y z : Execution ε σ α}

theorem refl (x : Execution ε σ α) : x.Alike Eq x := ⟨rfl, rfl, rfl⟩

theorem symm (h : x.Alike Eq y) : y.Alike Eq x := ⟨h.1.symm, h.2.1.symm, h.2.2.symm⟩

theorem trans (h : x.Alike Eq y) (k : y.Alike Eq z) : x.Alike Eq z :=
  ⟨h.1.trans k.1, h.2.1.trans k.2.1, h.2.2.trans k.2.2⟩

end Execution.Alike

namespace Run

variable {ε ε' σ τ ρ α β γ : Type}

def Succeeds (x : Run ε σ α) : Prop := ∀ s, ∃ a, (x s).outcome = .ok a

/-- The run keeps the view of the state and leaves entries of the kind only. -/
def Keeps (view : σ → τ) (kind : Entry → Prop) (x : Run ε σ α) : Prop :=
  ∀ s, view (x s).state = view s ∧ ∀ e ∈ (x s).events, kind e

abbrev Leaves (kind : Entry → Prop) (x : Run ε σ α) : Prop := Keeps (fun _ => ()) kind x

/-- The run fails with errors of the kind only. -/
def FailsWith (kind : ε → Prop) (x : Run ε σ α) : Prop := ∀ s e, (x s).outcome = .error e → kind e

/-- From states in the relation the executions are alike, with states in the second relation. -/
def Follows (before after : σ → τ → Prop) (x : Run ε σ α) (y : Run ε τ α) : Prop :=
  ∀ s t, before s t → (x s).Alike after (y t)

theorem update_bind (g : σ → σ) (f : Unit → Run ε σ β) (s : σ) : (update g >>= f) s = f () (g s) := rfl

theorem read_bind (f : σ → Run ε σ β) (s : σ) : (read >>= f) s = f s s := rfl

theorem log_bind (severity : Severity) (channel : Channel) (message : String) (f : Unit → Run ε σ β) (s : σ) :
    (log severity channel message >>= f) s =
      ⟨(f () s).outcome, (f () s).state, .log ⟨severity, channel, message⟩ :: (f () s).events⟩ := rfl

theorem bind_of_ok {x : Run ε σ α} {f : α → Run ε σ β} {s : σ} {a : α} (h : (x s).outcome = .ok a) :
    (x >>= f) s = ⟨(f a (x s).state).outcome, (f a (x s).state).state,
      (x s).events ++ (f a (x s).state).events⟩ := by
  rw [bind_apply]
  cases hx : x s with
  | mk outcome t events =>
    rw [hx] at h
    obtain rfl : outcome = .ok a := h
    rfl

theorem bind_of_error {x : Run ε σ α} {f : α → Run ε σ β} {s : σ} {e : ε} (h : (x s).outcome = .error e) :
    (x >>= f) s = ⟨.error e, (x s).state, (x s).events⟩ := by
  rw [bind_apply]
  cases hx : x s with
  | mk outcome t events =>
    rw [hx] at h
    obtain rfl : outcome = .error e := h
    rfl

namespace Succeeds

theorem pure (a : α) : Succeeds (Pure.pure a : Run ε σ α) := fun _ => ⟨a, rfl⟩

theorem update (f : σ → σ) : Succeeds (Run.update f : Run ε σ Unit) := fun _ => ⟨(), rfl⟩

theorem emit (e : Entry) : Succeeds (Run.emit e : Run ε σ Unit) := fun _ => ⟨(), rfl⟩

theorem attempt (x : Run ε σ α) : Succeeds (Run.attempt x : Run ε' σ (Except ε α)) :=
  fun s => ⟨(x s).outcome, rfl⟩

theorem bind {x : Run ε σ α} {f : α → Run ε σ β} (hx : Succeeds x) (hf : ∀ a, Succeeds (f a)) :
    Succeeds (x >>= f) := by
  intro s
  obtain ⟨a, ha⟩ := hx s
  rw [bind_of_ok ha]
  exact hf a _

theorem each {f : α → Run ε σ Unit} (hf : ∀ a, Succeeds (f a)) (items : List α) : Succeeds (Run.each f items) := by
  induction items with
  | nil => exact pure ()
  | cons a r ih => exact bind (hf a) fun _ => ih

theorem outcome_unit {x : Run ε σ Unit} (h : Succeeds x) (s : σ) : (x s).outcome = .ok () := by
  obtain ⟨a, ha⟩ := h s
  exact ha

theorem bind_unit {x : Run ε σ Unit} (h : Succeeds x) (f : Unit → Run ε σ β) (s : σ) :
    (x >>= f) s = ⟨(f () (x s).state).outcome, (f () (x s).state).state,
      (x s).events ++ (f () (x s).state).events⟩ :=
  bind_of_ok (h.outcome_unit s)

end Succeeds

namespace Keeps

variable {view : σ → τ} {kind : Entry → Prop}

theorem pure (a : α) : Keeps view kind (Pure.pure a : Run ε σ α) := fun _ => ⟨rfl, by simp⟩

theorem fail (e : ε) : Keeps view kind (Run.fail e : Run ε σ α) := fun _ => ⟨rfl, by simp⟩

theorem read : Keeps view kind (Run.read : Run ε σ σ) := fun _ => ⟨rfl, by simp⟩

theorem update {f : σ → σ} (h : ∀ s, view (f s) = view s) : Keeps view kind (Run.update f : Run ε σ Unit) :=
  fun s => ⟨h s, by simp⟩

theorem emit {e : Entry} (h : kind e) : Keeps view kind (Run.emit e : Run ε σ Unit) :=
  fun _ => ⟨rfl, by simpa using h⟩

theorem attempt {x : Run ε σ α} (h : Keeps view kind x) :
    Keeps view kind (Run.attempt x : Run ε' σ (Except ε α)) := h

theorem within {part : σ → ρ} {put : ρ → σ → σ} {x : Run ε ρ α} (hput : ∀ t s, view (put t s) = view s)
    (hx : Keeps (fun _ => ()) kind x) : Keeps view kind (Run.within part put x) :=
  fun s => ⟨hput _ s, (hx (part s)).2⟩

theorem call {w : World} {c : Call} (h : kind (.call c)) : Keeps view kind (Run.call w c : Run Fault σ Bool) := by
  intro s
  unfold Run.call
  cases w.reply c <;> exact ⟨rfl, by simpa using h⟩

theorem bind {x : Run ε σ α} {f : α → Run ε σ β} (hx : Keeps view kind x) (hf : ∀ a, Keeps view kind (f a)) :
    Keeps view kind (x >>= f) := by
  intro s
  cases ho : (x s).outcome with
  | error e => rw [bind_of_error ho]; exact hx s
  | ok a =>
    rw [bind_of_ok ho]
    have step := hf a (x s).state
    refine ⟨step.1.trans (hx s).1, fun e he => ?_⟩
    rcases List.mem_append.mp he with first | second
    · exact (hx s).2 e first
    · exact step.2 e second

theorem perform {w : World} {c : Call} (h : kind (.call c)) :
    Keeps view kind (Run.perform w c : Run Fault σ Unit) := bind (call h) fun _ => pure ()

theorem each {f : α → Run ε σ Unit} (hf : ∀ a, Keeps view kind (f a)) (items : List α) :
    Keeps view kind (Run.each f items) := by
  induction items with
  | nil => exact pure ()
  | cons a r ih => exact bind (hf a) fun _ => ih

end Keeps

namespace FailsWith

variable {kind : ε → Prop}

theorem of_succeeds {x : Run ε σ α} (h : Succeeds x) : FailsWith kind x := by
  intro s e failed
  obtain ⟨a, ok⟩ := h s
  cases ok.symm.trans failed

theorem pure (a : α) : FailsWith kind (Pure.pure a : Run ε σ α) := of_succeeds (.pure a)

theorem read : FailsWith kind (Run.read : Run ε σ σ) := of_succeeds fun s => ⟨s, rfl⟩

theorem update (f : σ → σ) : FailsWith kind (Run.update f : Run ε σ Unit) := of_succeeds (.update f)

theorem emit (e : Entry) : FailsWith kind (Run.emit e : Run ε σ Unit) := of_succeeds (.emit e)

theorem fail {e : ε} (h : kind e) : FailsWith kind (Run.fail e : Run ε σ α) := by
  rintro s e' ⟨⟩
  exact h

theorem bind {x : Run ε σ α} {f : α → Run ε σ β} (hx : FailsWith kind x) (hf : ∀ a, FailsWith kind (f a)) :
    FailsWith kind (x >>= f) := by
  intro s e failed
  cases outcome : (x s).outcome with
  | error e' =>
    rw [bind_of_error outcome] at failed
    cases failed
    exact hx s _ outcome
  | ok a =>
    rw [bind_of_ok outcome] at failed
    exact hf a _ e failed

theorem within {part : σ → τ} {put : τ → σ → σ} {x : Run ε τ α} (hx : FailsWith kind x) :
    FailsWith kind (Run.within part put x) := fun s e failed => hx (part s) e failed

theorem call {kind : Fault → Prop} (h : ∀ text, kind (.collaborator text)) (w : World) (c : Call) :
    FailsWith kind (Run.call w c : Run Fault σ Bool) := by
  intro s e failed
  unfold Run.call at failed
  cases reply : w.reply c with
  | done | nothing => rw [reply] at failed; cases failed
  | failed text => rw [reply] at failed; cases failed; exact h text

theorem perform {kind : Fault → Prop} (h : ∀ text, kind (.collaborator text)) (w : World) (c : Call) :
    FailsWith kind (Run.perform w c : Run Fault σ Unit) := bind (call h w c) fun _ => pure ()

end FailsWith

/-- What comes behind executions that are alike has to be alike only where they come to their end. -/
theorem alike_bind {S T : σ → τ → Prop} {x : Run ε σ α} {y : Run ε τ α} {f : α → Run ε σ β} {g : α → Run ε τ β}
    {s : σ} {t : τ} (first : (x s).Alike S (y t))
    (second : ∀ a, (y t).outcome = .ok a → (f a (x s).state).Alike T (g a (y t).state))
    (weaken : ∀ u v, S u v → T u v) : ((x >>= f) s).Alike T ((y >>= g) t) := by
  obtain ⟨same, after, events⟩ := first
  cases ho : (y t).outcome with
  | error e =>
    rw [bind_of_error ho, bind_of_error (same.trans ho)]
    exact ⟨rfl, weaken _ _ after, events⟩
  | ok a =>
    rw [bind_of_ok ho, bind_of_ok (same.trans ho)]
    obtain ⟨same', after', events'⟩ := second a ho
    exact ⟨same', after', by rw [outline_append, outline_append, events, events']⟩

namespace Follows

variable {R S T : σ → τ → Prop}

theorem bind {x : Run ε σ α} {y : Run ε τ α} {f : α → Run ε σ β} {g : α → Run ε τ β}
    (hx : Follows R S x y) (hf : ∀ a, Follows S T (f a) (g a)) (hT : ∀ s t, S s t → T s t) :
    Follows R T (x >>= f) (y >>= g) :=
  fun s t hst => alike_bind (hx s t hst) (fun a _ => hf a _ _ (hx s t hst).2.1) hT

theorem andThen {x : Run ε σ α} {y : Run ε τ α} {f : α → Run ε σ β} {g : α → Run ε τ β}
    (hx : Follows R R x y) (hf : ∀ a, Follows R R (f a) (g a)) : Follows R R (x >>= f) (y >>= g) :=
  bind hx hf fun _ _ h => h

theorem attempt {x : Run ε σ α} {y : Run ε τ α} (h : Follows R S x y) :
    Follows R S (Run.attempt x : Run ε' σ (Except ε α)) (Run.attempt y) :=
  fun s t hst => ⟨congrArg Except.ok (h s t hst).1, (h s t hst).2⟩

theorem log (severity : Severity) (channel : Channel) (message : String) :
    Follows R R (Run.log severity channel message : Run ε σ Unit) (Run.log severity channel message) :=
  fun _ _ hst => ⟨rfl, hst, rfl⟩

theorem fail (e : ε) : Follows R R (Run.fail e : Run ε σ α) (Run.fail e) := fun _ _ hst => ⟨rfl, hst, rfl⟩

theorem pause_bind {x : Run ε σ Unit} {f : Unit → Run ε σ β} {y : Run ε τ β}
    (hx : Succeeds x) (spares : ∀ s, outline (x s).events = []) (keeps : ∀ s t, R s t → S (x s).state t)
    (hf : Follows S T (f ()) y) : Follows R T (x >>= f) y := by
  intro s t hst
  rw [hx.bind_unit]
  obtain ⟨same, after, events⟩ := hf _ _ (keeps s t hst)
  exact ⟨same, after, by rw [outline_append, spares s, events, List.nil_append]⟩

theorem each {f : α → Run ε σ Unit} {g : α → Run ε τ Unit} (hf : ∀ a, Follows R R (f a) (g a))
    (items : List α) : Follows R R (Run.each f items) (Run.each g items) := by
  induction items with
  | nil => exact fun s t hst => ⟨rfl, hst, rfl⟩
  | cons a r ih => exact andThen (hf a) fun _ => ih

/-- Pauses that keep the relation make no difference up to asides. -/
theorem eachAmid {pause : β → Run ε σ Unit} {f : α → Run ε σ Unit} {g : α → Run ε τ Unit}
    (hp : ∀ b, Succeeds (pause b)) (spares : ∀ b s, outline (pause b s).events = [])
    (keeps : ∀ b s t, R s t → R (pause b s).state t) (hf : ∀ a, Follows R R (f a) (g a))
    (pauses : List β) (items : List α) : Follows R R (Run.eachAmid pause f pauses items) (Run.each g items) := by
  induction pauses generalizing items with
  | nil => rw [eachAmid_nil]; exact each hf items
  | cons b bs ih =>
    cases items with
    | nil => exact fun s t hst => ⟨(hp b).outcome_unit s, keeps b s t hst, spares b s⟩
    | cons a r =>
      exact pause_bind (hp b) (spares b) (keeps b) (andThen (hf a) fun _ => ih r)

theorem eachAmid_map {pause : β → Run ε σ Unit} {pause' : γ → Run ε τ Unit} {f : α → Run ε σ Unit}
    {g : α → Run ε τ Unit} {change : β → γ} (hp : ∀ b, Follows R R (pause b) (pause' (change b)))
    (hf : ∀ a, Follows R R (f a) (g a)) (pauses : List β) (items : List α) :
    Follows R R (Run.eachAmid pause f pauses items) (Run.eachAmid pause' g (pauses.map change) items) := by
  induction pauses generalizing items with
  | nil => rw [List.map_nil, eachAmid_nil, eachAmid_nil]; exact each hf items
  | cons b bs ih =>
    cases items with
    | nil => exact hp b
    | cons a r => exact andThen (hp b) fun _ => andThen (hf a) fun _ => ih r

end Follows

theorem each_related {P : σ → σ → Prop} (refl : ∀ s, P s s) (trans : ∀ s t u, P s t → P t u → P s u)
    {f : α → Run ε σ Unit} (step : ∀ a s, P s (f a s).state) (items : List α) (s : σ) :
    P s (each f items s).state := by
  induction items generalizing s with
  | nil => exact refl s
  | cons a r ih =>
    rw [each_cons]
    cases ho : (f a s).outcome with
    | error e => rw [bind_of_error ho]; exact step a s
    | ok u => rw [bind_of_ok ho]; exact trans _ _ _ (step a s) (ih _)

/-- The items that a run over items gets through. -/
def done (f : α → Run ε σ Unit) : List α → σ → List α
  | [], _ => []
  | a :: r, s =>
    match (f a s).outcome with
    | .ok () => a :: done f r (f a s).state
    | .error _ => []

theorem each_of_error {f : α → Run ε σ Unit} {items : List α} {s : σ} {e : ε}
    (h : (each f items s).outcome = .error e) :
    ∃ a rest t events, items = done f items s ++ a :: rest ∧
      each f (done f items s) s = ⟨.ok (), t, events⟩ ∧
      each f items s = ⟨.error e, (f a t).state, events ++ (f a t).events⟩ ∧ (f a t).outcome = .error e := by
  induction items generalizing s with
  | nil => simp at h
  | cons a r ih =>
    cases ho : (f a s).outcome with
    | error e' =>
      rw [each_cons, bind_of_error ho] at h
      obtain rfl : e' = e := by simpa using h
      exact ⟨a, r, s, [], by simp [done, ho], by simp [done, ho], by rw [each_cons, bind_of_error ho]; rfl, ho⟩
    | ok u =>
      rw [each_cons, bind_of_ok ho] at h
      obtain ⟨b, rest, t, events, split, through, whole, failed⟩ := ih h
      refine ⟨b, rest, t, (f a s).events ++ events, ?_, ?_, ?_, failed⟩
      · simpa [done, ho] using split
      · simp only [done, ho, each_cons, bind_of_ok ho, through]
      · simp only [each_cons, bind_of_ok ho, whole, List.append_assoc]

theorem done_prefix (f : α → Run ε σ Unit) (items : List α) (s : σ) : done f items s <+: items := by
  induction items generalizing s with
  | nil => exact List.prefix_rfl
  | cons a r ih =>
    cases ho : (f a s).outcome with
    | error e => simp [done, ho]
    | ok u => simpa [done, ho] using ih (f a s).state

theorem done_of_ok {f : α → Run ε σ Unit} {items : List α} {s : σ}
    (h : (each f items s).outcome = .ok ()) : done f items s = items := by
  induction items generalizing s with
  | nil => rfl
  | cons a r ih =>
    cases ho : (f a s).outcome with
    | error e => rw [each_cons, bind_of_error ho] at h; cases h
    | ok u =>
      rw [each_cons, bind_of_ok ho] at h
      simp [done, ho, ih h]

theorem each_append_of_ok {f : α → Run ε σ Unit} {a b : List α} {s : σ} (h : (each f a s).outcome = .ok ()) :
    each f (a ++ b) s = ⟨(each f b (each f a s).state).outcome, (each f b (each f a s).state).state,
      (each f a s).events ++ (each f b (each f a s).state).events⟩ := by
  induction a generalizing s with
  | nil => rfl
  | cons x r ih =>
    cases ho : (f x s).outcome with
    | error e => rw [each_cons, bind_of_error ho] at h; cases h
    | ok u =>
      rw [each_cons, bind_of_ok ho] at h
      rw [List.cons_append, each_cons, each_cons, bind_of_ok ho, bind_of_ok ho, ih h]
      simp only [List.append_assoc]

theorem each_append_of_error {f : α → Run ε σ Unit} {a b : List α} {s : σ} {e : ε}
    (h : (each f a s).outcome = .error e) : each f (a ++ b) s = each f a s := by
  induction a generalizing s with
  | nil => cases h
  | cons x r ih =>
    rw [List.cons_append, each_cons, each_cons]
    cases ho : (f x s).outcome with
    | error e => rw [bind_of_error ho, bind_of_error ho]
    | ok u =>
      rw [each_cons, bind_of_ok ho] at h
      rw [bind_of_ok ho, bind_of_ok ho, ih h]

theorem done_append_of_ok {f : α → Run ε σ Unit} {a b : List α} {s : σ} (h : (each f a s).outcome = .ok ()) :
    done f (a ++ b) s = a ++ done f b (each f a s).state := by
  induction a generalizing s with
  | nil => rfl
  | cons x r ih =>
    cases ho : (f x s).outcome with
    | error e => rw [each_cons, bind_of_error ho] at h; cases h
    | ok u =>
      rw [each_cons, bind_of_ok ho] at h ⊢
      simp [done, ho, ih h]

namespace Succeeds

variable {f : α → Run ε σ Unit}

theorem each_cons_apply (hf : ∀ a, Succeeds (f a)) (a : α) (r : List α) (s : σ) :
    Run.each f (a :: r) s = ⟨.ok (), (Run.each f r (f a s).state).state,
      (f a s).events ++ (Run.each f r (f a s).state).events⟩ := by
  rw [each_cons, (hf a).bind_unit, (each hf r).outcome_unit]

theorem each_concat_state (hf : ∀ a, Succeeds (f a)) (items : List α) (a : α) (s : σ) :
    (Run.each f (items ++ [a]) s).state = (f a (Run.each f items s).state).state := by
  rw [each_append_of_ok ((each hf items).outcome_unit s), each_cons, (hf a).bind_unit]
  rfl

end Succeeds

end Run

end CastLaunch
