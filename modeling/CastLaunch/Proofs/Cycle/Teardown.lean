import CastLaunch.Proofs.Cycle.Release
import Mathlib.Data.List.Basic

/-!
A stop as a whole.  It makes the releases of the collaborators that are there, in a fixed
order and each once, whichever of them fail, and warns of each failure once.  A collaborator
from outside is asked by one call; the built-in registrar and sink do their own work.  Nobody
is left behind, and a second stop finds nothing to do.
-/

namespace CastLaunch

/-- The records that the cycle itself makes. -/
def Entry.cycleRecord? : Entry → Option LogRecord
  | .log r => if r.channel = .cycle then some r else none
  | _ => none

def Reply.outcome : Reply → Except Fault Unit
  | .failed text => .error (.collaborator text)
  | .done | .nothing => .ok ()

theorem Run.perform_outcome {σ : Type} (w : World) (c : Call) (s : σ) :
    (Run.perform w c s).outcome = (w.reply c).outcome := by
  rw [Run.perform_apply]
  cases w.reply c <;> rfl

namespace Release

/-- What a release asks of a collaborator from outside. -/
def call : Release → Call
  | engine => .destroyEngine
  | service k => .unregisterService k
  | registrar => .destroyRegistrar
  | audio => .destroyAudio
  | video => .destroyVideo
  | sink => .closeSink

/-- A release that was made, how it ended, and what it left in the trace. -/
structure Made where
  release : Release
  outcome : Except Fault Unit
  events : List Entry

def Made.warning? (m : Made) : Option LogRecord :=
  match m.outcome with
  | .ok () => none
  | .error e => some (failure m.release.label e.message)

def Made.entries (m : Made) : List Entry := m.events ++ m.warning?.toList.map .log

/-- The release of a collaborator from outside. -/
def asked (w : World) (r : Release) : Made := ⟨r, (w.reply r.call).outcome, [.call r.call]⟩

def askedIf (w : World) (there : Bool) (r : Release) : List Made := if there then [asked w r] else []

/-- The releases of a registrar: both services are withdrawn before it is destroyed itself. -/
def madeOfRegistrar (w : World) : Option Registrar → List Made
  | none => []
  | some .external => [asked w (.service .raop), asked w (.service .airplay), asked w .registrar]
  | some (.builtIn a) =>
    let raop := Advertiser.unregister w .raop a
    let airplay := Advertiser.unregister w .airplay raop.state
    let destroyed := Advertiser.destroy w airplay.state
    [⟨.service .raop, raop.outcome, raop.events⟩, ⟨.service .airplay, airplay.outcome, airplay.events⟩,
      ⟨.registrar, destroyed.outcome, destroyed.events⟩]

def madeOfSink (w : World) : Option Sink → List Made
  | none => []
  | some s =>
    match s.origin with
    | .builtIn => [⟨.sink, .ok (), []⟩]
    | .external => [asked w .sink]

/-- The releases that a stop makes. -/
def made (w : World) (h : Handles) : List Made :=
  askedIf w h.engine .engine ++ madeOfRegistrar w h.registrar ++ askedIf w h.audio .audio ++
    askedIf w h.video .video ++ madeOfSink w h.sink

/-- The releases lead from the one state to the other and are the ones listed. -/
def Makes (w : World) (rs : List Release) (h : Handles) (ms : List Made) (t : Handles) : Prop :=
  ∀ ε, (Run.each (run w) rs : Run ε Handles Unit) h = ⟨.ok (), t, ms.flatMap Made.entries⟩

variable {w : World} {h t u : Handles} {rs others : List Release} {ms more : List Made}

theorem Makes.append (first : Makes w rs h ms t) (later : Makes w others t more u) :
    Makes w (rs ++ others) h (ms ++ more) u := by
  intro ε
  have ok : (Run.each (run w) rs h : Execution ε Handles Unit).outcome = .ok () := by rw [first]
  rw [Run.each_append_of_ok ok, first, later, List.flatMap_append]

theorem makes_of_act {r : Release} {y : Execution Fault Handles Unit} (there : r.applies h = true)
    (acts : r.act w h = y) : Makes w [r] h [⟨r, y.outcome, y.events⟩] (r.clear y.state) := by
  intro ε
  have account : account (r, y) = Made.entries ⟨r, y.outcome, y.events⟩ := by
    unfold account Made.entries Made.warning?
    cases y.outcome <;> rfl
  rw [Run.each_cons, Run.bind_of_ok (a := ()) (by rw [run_of_applies there]), run_of_applies there, acts, account]
  simp

theorem makes_none (absent : ∀ r ∈ rs, r.applies h = false) : Makes w rs h [] h := by
  induction rs with
  | nil => exact fun ε => rfl
  | cons r rest ih =>
    obtain ⟨first, later⟩ := List.forall_mem_cons.mp absent
    intro ε
    rw [Run.each_cons, Run.bind_of_ok (a := ()) (by rw [run_of_not_applies first]), run_of_not_applies first]
    exact ih later ε

theorem makes_asked {r : Release} (there : r.applies h = true) (asks : r.act w h = Run.perform w r.call h) :
    Makes w [r] h [asked w r] (r.clear h) := by
  have goes := makes_of_act there asks
  rw [Run.perform_outcome, Run.perform_events, Run.perform_state] at goes
  exact goes

theorem makes_askedIf {r : Release} {there : Bool} (applies : r.applies h = there)
    (asks : r.act w h = Run.perform w r.call h) (gone : there = false → r.clear h = h) :
    Makes w [r] h (askedIf w there r) (r.clear h) := by
  cases there with
  | true => exact makes_asked applies asks
  | false =>
    rw [gone rfl]
    exact makes_none (by simpa using applies)

theorem makes_registrar : Makes w [.service .raop, .service .airplay, .registrar] h (madeOfRegistrar w h.registrar)
    { h with registrar := none, registered := if h.registrar.isSome then [] else h.registered } := by
  cases there : h.registrar with
  | none =>
    have same : { h with registrar := none } = h := by rw [← there]
    show Makes w _ h [] { h with registrar := none }
    rw [same]
    exact makes_none (by simp [applies, there])
  | some registrar =>
    have same : { h with registrar := some registrar } = h := by rw [← there]
    rw [← same]
    cases registrar with
    | external =>
      have asks : ∀ c x, onRegistrar w c x { h with registrar := some .external } = Run.perform w c _ :=
        fun c x => onRegistrar_of_not_builtIn fun a same => by cases same
      exact (makes_asked (r := .service .raop) rfl (asks ..)).append
        ((makes_asked (r := .service .airplay) rfl (asks ..)).append (makes_asked (r := .registrar) rfl (asks ..)))
    | builtIn a =>
      have raop := makes_of_act (w := w) (h := { h with registrar := some (.builtIn a) }) (r := .service .raop) rfl
        (onRegistrar_of_builtIn rfl)
      have airplay := makes_of_act (w := w) (h := { h with registrar := some (.builtIn (Advertiser.unregister w .raop a).state) })
        (r := .service .airplay) rfl (onRegistrar_of_builtIn rfl)
      have destroyed := makes_of_act (w := w) (h := { h with registrar := some (.builtIn
        (Advertiser.unregister w .airplay (Advertiser.unregister w .raop a).state).state) })
        (r := .registrar) rfl (onRegistrar_of_builtIn rfl)
      exact raop.append (airplay.append destroyed)

theorem makes_sink : Makes w [.sink] h (madeOfSink w h.sink) { h with sink := none } := by
  cases there : h.sink with
  | none =>
    have same : { h with sink := none } = h := by rw [← there]
    rw [same]
    exact makes_none (by simp [applies, there])
  | some s =>
    have goes := makes_of_act (w := w) (r := .sink) (by simp [applies, there]) (act_sink_of_some there)
    rw [Sink.close, Sink.announce_update_apply] at goes
    cases origin : s.origin with
    | builtIn =>
      have own : madeOfSink w (some s) = [⟨.sink, .ok (), []⟩] := by rw [madeOfSink, origin]
      rw [Sink.announce_of_builtIn origin] at goes
      rw [own]
      exact goes
    | external =>
      have own : madeOfSink w (some s) = [asked w .sink] := by rw [madeOfSink, origin]
      rw [Sink.announce_of_external origin, Run.perform_outcome, Run.perform_events] at goes
      rw [own]
      exact goes

end Release

namespace Handles

/-- The collaborators behind a stop: nobody is there, and what else was known still is. -/
def emptied (h : Handles) : Handles :=
  { h with
    engine := false
    sink := none
    video := false
    audio := false
    registrar := none
    registered := if h.registrar.isSome then [] else h.registered }

theorem release_makes (w : World) (h : Handles) : Release.Makes w Release.order h (Release.made w h) h.emptied := by
  have engine := Release.makes_askedIf (w := w) (h := h) (r := .engine) rfl rfl fun (gone : h.engine = false) => by
    rw [Release.clear, ← gone]
  have registrar := Release.makes_registrar (w := w) (h := { h with engine := false })
  have audio := Release.makes_askedIf (w := w) (r := .audio)
    (h := { h with engine := false, registrar := none, registered := if h.registrar.isSome then [] else h.registered })
    rfl rfl fun (gone : h.audio = false) => by rw [Release.clear, ← gone]
  have video := Release.makes_askedIf (w := w) (r := .video)
    (h := { h with
      engine := false, registrar := none, registered := if h.registrar.isSome then [] else h.registered, audio := false })
    rfl rfl fun (gone : h.video = false) => by rw [Release.clear, ← gone]
  have sink := Release.makes_sink (w := w) (h := { h with
    engine := false, registrar := none, registered := if h.registrar.isSome then [] else h.registered, audio := false,
    video := false })
  exact (((engine.append registrar).append audio).append video).append sink

end Handles

namespace Release

variable {w : World} {h : Handles} {m : Made}

theorem mem_askedIf {there : Bool} {r : Release} : m ∈ askedIf w there r ↔ there = true ∧ m = asked w r := by
  cases there <;> simp [askedIf]

/-- The releases made are those of the collaborators there, whatever becomes of them. -/
theorem made_releases (w : World) (h : Handles) : (made w h).map (·.release) = order.filter (·.applies h) := by
  have one : ∀ there r, (askedIf w there r).map (·.release) = if there then [r] else [] := by
    intro there r
    cases there <;> rfl
  have discovery : (madeOfRegistrar w h.registrar).map (·.release) =
      if h.registrar.isSome then [.service .raop, .service .airplay, .registrar] else [] := by
    rcases h.registrar with _ | _ | a <;> rfl
  have last : (madeOfSink w h.sink).map (·.release) = if h.sink.isSome then [.sink] else [] := by
    rcases h.sink with _ | ⟨_ | _, level, closed⟩ <;> rfl
  simp only [made, List.map_append, one, discovery, last, order, List.filter_cons, applies, List.filter_nil]
  cases h.engine <;> cases h.registrar.isSome <;> cases h.audio <;> cases h.video <;> cases h.sink.isSome <;> rfl

/-- A release made is one call to a collaborator from outside, or the work of a built-in one, which leaves no record of
the cycle. -/
theorem asked_or_builtIn (member : m ∈ made w h) : m = asked w m.release ∨
    h.origin? m.release.stage = some .builtIn ∧ ∀ e ∈ m.events, e.cycleRecord? = none := by
  simp only [made, List.mem_append, mem_askedIf] at member
  rcases member with (((⟨-, rfl⟩ | registrar) | ⟨-, rfl⟩) | ⟨-, rfl⟩) | sink
  · exact .inl rfl
  · rcases there : h.registrar with _ | _ | a
    · simp [madeOfRegistrar, there] at registrar
    · simp only [madeOfRegistrar, there, List.mem_cons, List.not_mem_nil, or_false] at registrar
      rcases registrar with rfl | rfl | rfl <;> exact .inl rfl
    · have origin : h.origin? .discovery = some .builtIn := by simp [Handles.origin?, there, Registrar.origin]
      have withdraws : ∀ k, Run.Leaves (fun e => e.cycleRecord? = none) (Advertiser.unregister w k) :=
        fun k => Advertiser.unregister_leaves (fun _ _ => rfl) (fun _ _ => rfl) w k
      have destroys : Run.Leaves (fun e => e.cycleRecord? = none) (Advertiser.destroy w) := by
        refine Advertiser.destroy_leaves (fun _ _ => ?_) (fun _ _ => ?_) ?_ w <;> rfl
      simp only [madeOfRegistrar, there, List.mem_cons, List.not_mem_nil, or_false] at registrar
      rcases registrar with rfl | rfl | rfl
      · exact .inr ⟨origin, (withdraws .raop _).2⟩
      · exact .inr ⟨origin, (withdraws .airplay _).2⟩
      · exact .inr ⟨origin, (destroys _).2⟩
  · exact .inl rfl
  · exact .inl rfl
  · rcases there : h.sink with _ | ⟨_ | _, level, closed⟩
    · simp [madeOfSink, there] at sink
    · simp only [madeOfSink, there, List.mem_singleton] at sink
      rw [sink]
      exact .inr ⟨by simp [stage, Handles.origin?, there], by simp⟩
    · simp only [madeOfSink, there, List.mem_singleton] at sink
      rw [sink]
      exact .inl rfl

theorem made_of_external (member : m ∈ made w h) (outside : h.origin? m.release.stage = some .external) :
    m = asked w m.release := by
  rcases asked_or_builtIn member with asked | ⟨origin, -⟩
  · exact asked
  · cases origin.symm.trans outside

theorem cycleRecords_entries (member : m ∈ made w h) :
    m.entries.filterMap Entry.cycleRecord? = m.warning?.toList := by
  have none : m.events.filterMap Entry.cycleRecord? = [] := by
    rcases asked_or_builtIn member with same | ⟨-, records⟩
    · rw [same]
      rfl
    · exact List.filterMap_eq_nil_iff.mpr records
  rw [Made.entries, List.filterMap_append, none, List.nil_append, Made.warning?]
  split <;> rfl

theorem cycleRecords_made (w : World) (h : Handles) :
    ((made w h).flatMap Made.entries).filterMap Entry.cycleRecord? = (made w h).filterMap Made.warning? := by
  rw [List.filterMap_flatMap, List.filterMap_eq_flatMap_toList]
  exact List.flatMap_congr fun m member => cycleRecords_entries member

end Release

namespace Handles

theorem release_emptied {ε : Type} (w : World) (h : Handles) :
    (Handles.release w h.emptied : Execution ε Handles Unit) = ⟨.ok (), h.emptied, []⟩ := by
  rw [Handles.release, release_makes]
  rfl

/-- A stop goes through: it releases each collaborator there once and in order, warns of each release that fails, leaves
nobody, and leaves nothing for another stop. -/
theorem release_goes_through {ε : Type} (w : World) (h : Handles) :
    let x : Execution ε Handles Unit := Handles.release w h
    let ms := Release.made w h
    x.outcome = .ok () ∧ x.events = ms.flatMap Release.Made.entries ∧
      ms.map (·.release) = [.engine, .service .raop, .service .airplay, .registrar, .audio, .video, .sink].filter
        (·.applies h) ∧
      (∀ m ∈ ms, h.origin? m.release.stage = some .external → m = Release.asked w m.release) ∧
      x.events.filterMap Entry.cycleRecord? = ms.filterMap Release.Made.warning? ∧
      x.state = { h with
        engine := false, sink := none, video := false, audio := false, registrar := none
        registered := if h.registrar.isSome then [] else h.registered } ∧
      ∀ w', (Handles.release w' x.state : Execution ε Handles Unit) = ⟨.ok (), x.state, []⟩ := by
  intro x ms
  have whole : x = ⟨.ok (), h.emptied, ms.flatMap Release.Made.entries⟩ := release_makes w h ε
  rw [whole]
  exact ⟨rfl, rfl, Release.made_releases w h, fun m => Release.made_of_external, Release.cycleRecords_made w h, rfl,
    fun w' => release_emptied w' h⟩

end Handles

end CastLaunch
