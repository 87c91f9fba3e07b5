import CastLaunch.Proofs.Configuration.Agreement

/-!
What refuses a configuration.  The values of a launch section are checked one after the
other, and so are those of the options: the first that its check refuses decides the
outcome.  Values that pass their checks make a draft within the bounds, whatever they are
combined with, so that the check of the whole has nothing left to refuse.
-/

namespace CastLaunch
open CastLaunch.Text

def firstRefused {κ : Type} (accepts : κ → Bool) (given : List κ) : Option κ := given.find? fun k => !accepts k

/-- The first of the given values that is refused decides the result; without one there is a result as `P` says. -/
def Decided {κ ε α : Type} (accepts : κ → Bool) (refusal : κ → ε) (P : α → Prop) (given : List κ)
    (x : Except ε α) : Prop :=
  match firstRefused accepts given with
  | some k => x = .error (refusal k)
  | none => ∃ a, x = .ok a ∧ P a

namespace Decided

variable {κ ε α β : Type} {accepts : κ → Bool} {refusal : κ → ε} {P : α → Prop} {Q : β → Prop} {given later : List κ}
  {x : Except ε α}

theorem firstRefused_append (given later : List κ) :
    firstRefused accepts (given ++ later) = (firstRefused accepts given).or (firstRefused accepts later) :=
  List.find?_append

theorem ok {a : α} (made : x = .ok a) (sound : P a) : Decided accepts refusal P [] x := ⟨a, made, sound⟩

theorem accepted {k : κ} {a : α} (passes : accepts k = true) (made : x = .ok a) (sound : P a) :
    Decided accepts refusal P [k] x := by
  rw [Decided, firstRefused, List.find?_singleton, passes]
  exact ⟨a, made, sound⟩

theorem refused {k : κ} (fails : accepts k = false) (refuses : x = .error (refusal k)) :
    Decided accepts refusal P [k] x := by
  rw [Decided, firstRefused, List.find?_singleton, fails]
  exact refuses

theorem bind {f : α → Except ε β} (first : Decided accepts refusal P given x)
    (behind : ∀ a, P a → Decided accepts refusal Q later (f a)) :
    Decided accepts refusal Q (given ++ later) (x >>= f) := by
  rw [Decided] at first
  rw [Decided, firstRefused_append]
  cases found : firstRefused accepts given with
  | some k =>
    rw [found] at first
    rw [first]
    rfl
  | none =>
    rw [found] at first
    obtain ⟨a, rfl, sound⟩ := first
    exact behind a sound

theorem map {f : α → β} (first : Decided accepts refusal P given x) (behind : ∀ a, P a → Q (f a)) :
    Decided accepts refusal Q given (x.map f) := by
  rw [Decided] at first ⊢
  cases found : firstRefused accepts given with
  | some k =>
    rw [found] at first
    rw [first]
    rfl
  | none =>
    rw [found] at first
    obtain ⟨a, rfl, sound⟩ := first
    exact ⟨f a, rfl, behind a sound⟩

/-- Another refusal describes the same result where it says the same of the value that decides. -/
theorem iff_refusal {other : κ → ε} (decided : Decided accepts refusal P given x) :
    Decided accepts other P given x ↔ ∀ k, firstRefused accepts given = some k → refusal k = other k := by
  rw [Decided] at decided ⊢
  cases found : firstRefused accepts given with
  | some k =>
    rw [found] at decided
    rw [decided]
    simp
  | none =>
    rw [found] at decided
    exact iff_of_true decided nofun

end Decided

/-! A draft within the bounds, which the check of the whole lets through. -/

structure Draft.Within (d : Draft) : Prop where
  name : allBlank d.name = false
  videoSink : allBlank d.videoSink = false
  audioSink : allBlank d.audioSink = false
  width : 0 ≤ d.width ∧ d.width ≤ Limits.maxExtent
  height : 0 ≤ d.height ∧ d.height ≤ Limits.maxExtent
  refresh : 0 ≤ d.refresh ∧ d.refresh ≤ Limits.maxRefresh
  maxFps : 0 ≤ d.maxFps ∧ d.maxFps ≤ Limits.maxFps
  idleTimeout : 0 ≤ d.idleTimeout
  tcp : ∃ t : PortTriple, t.Valid ∧ d.tcp = t.toList.map Int.ofNat
  udp : ∃ t : PortTriple, t.Valid ∧ d.udp = t.toList.map Int.ofNat

theorem Draft.Within.validate {d : Draft} (within : d.Within) : ∃ c : LaunchConfig, d.validate = .ok c ∧ c.Valid := by
  obtain ⟨tcp, tcpValid, tcpSame⟩ := within.tcp
  obtain ⟨udp, udpValid, udpSame⟩ := within.udp
  let c : LaunchConfig :=
    { name := d.name, width := d.width.toNat, height := d.height.toNat, refresh := d.refresh.toNat
      maxFps := d.maxFps.toNat, overscanned := d.overscanned, tcp, udp, flip := d.flip, turn := d.turn
      videoSink := d.videoSink, audioSink := d.audioSink, debugLog := d.debugLog
      idleTimeout := d.idleTimeout.toNat, randomIdentifier := d.randomIdentifier }
  have valid : c.Valid :=
    { name := within.name
      videoSink := within.videoSink
      audioSink := within.audioSink
      width := Int.toNat_le.mpr within.width.2
      height := Int.toNat_le.mpr within.height.2
      refresh := Int.toNat_le.mpr within.refresh.2
      maxFps := Int.toNat_le.mpr within.maxFps.2
      tcp := tcpValid
      udp := udpValid }
  have same : c.toDraft = d := by
    simp only [LaunchConfig.toDraft, c, Int.toNat_of_nonneg within.width.1, Int.toNat_of_nonneg within.height.1,
      Int.toNat_of_nonneg within.refresh.1, Int.toNat_of_nonneg within.maxFps.1,
      Int.toNat_of_nonneg within.idleTimeout, ← tcpSame, ← udpSame]
  exact ⟨c, by rw [← same, Draft.validate_toDraft valid], valid⟩

namespace Draft

theorem Within.decided {κ ε : Type} {accepts : κ → Bool} {refusal : κ → ε} {d : Draft} {f : ConfigError → ε}
    (within : d.Within) : Decided accepts refusal LaunchConfig.Valid [] (d.validate.mapError f) := by
  obtain ⟨c, made, valid⟩ := within.validate
  exact .ok (by rw [made]; rfl) valid

theorem getD_within {α : Type} {o : Option α} {f : α → Int} {d maximum : Int} (default : 0 ≤ d ∧ d ≤ maximum)
    (given : ∀ a, o = some a → 0 ≤ f a ∧ f a ≤ maximum) :
    0 ≤ (o.map f).getD d ∧ (o.map f).getD d ≤ maximum := by
  cases o with
  | none => exact default
  | some a => exact given a rfl

theorem getD_nonneg {o : Option Nat} {d : Int} (default : 0 ≤ d) : 0 ≤ (o.map Int.ofNat).getD d := by
  cases o with
  | none => exact default
  | some n => exact Int.natCast_nonneg n

theorem natCast_within {n maximum : Nat} (h : n ≤ maximum) : 0 ≤ (n : Int) ∧ (n : Int) ≤ maximum :=
  ⟨Int.natCast_nonneg n, Int.ofNat_le.mpr h⟩

end Draft

theorem LaunchConfig.Valid.within {c : LaunchConfig} (valid : c.Valid) : c.toDraft.Within where
  name := valid.name
  videoSink := valid.videoSink
  audioSink := valid.audioSink
  width := Draft.natCast_within valid.width
  height := Draft.natCast_within valid.height
  refresh := Draft.natCast_within valid.refresh
  maxFps := Draft.natCast_within valid.maxFps
  idleTimeout := Int.natCast_nonneg _
  tcp := ⟨c.tcp, valid.tcp, rfl⟩
  udp := ⟨c.udp, valid.udp, rfl⟩

theorem Geometry.Bounded.refreshOr_within {g : Geometry} (bounded : g.Bounded) {given : Int}
    (inherited : 0 ≤ given ∧ given ≤ Limits.maxRefresh) :
    0 ≤ g.refreshOr given ∧ g.refreshOr given ≤ Limits.maxRefresh :=
  Draft.getD_within inherited fun r named => Draft.natCast_within (bounded.refresh r named)

theorem visible_getD {own : Option String} {inherited : String} (visible : allBlank inherited = false)
    (given : ∀ s, own = some s → allBlank s = false) : allBlank (own.getD inherited) = false :=
  Settings.Readings.getD_of_all (P := fun s => allBlank s = false) visible given

/-- Whether the text passes the check of the option that carries it. -/
def TextKey.accepts : TextKey → String → Bool
  | name, s | videoSink, s | audioSink, s => (Selector.read? s).isSome
  | display, s => (Geometry.read? s.toList).isSome
  | fps, s => (Count.read? Limits.maxFps s.toList).isSome
  | flip, s => (Flip.read? s).isSome
  | rotate, s => (Turn.read? s).isSome
  | ports, s | tcpPorts, s | udpPorts, s => (PortGroup.readTriple? s).isSome
  | idleTimeout, s => (Count.read? 0 s.toList).isSome

namespace Settings

/-- A count of seconds, or the zero that stands for none. -/
def seconds? (text : String) : Option Nat := if text = "0" then some 0 else Count.read? 0 text.toList

theorem seconds_eq : seconds = checked (fun flag => .count flag 0) seconds? := by
  funext flag text
  rw [seconds, checked, seconds?]
  split
  · rfl
  · exact congrFun (congrFun (Count.parse_eq 0) flag) text

/-- The keys of a launch section. -/
inductive LaunchKey where
  | text (k : TextKey)
  | truth (k : TruthKey)
  deriving DecidableEq, Repr

namespace LaunchKey

def key : LaunchKey → String
  | text k => k.key
  | truth k => k.key

/-- The keys in the order in which their values are checked. -/
def order : List LaunchKey :=
  [text .name, text .display, text .fps, truth .overscan, text .flip, text .rotate, text .ports, text .tcpPorts,
    text .udpPorts, text .videoSink, text .audioSink, truth .debugLog, text .idleTimeout, truth .randomIdentifier]

def inSection (k : LaunchKey) : String := "server." ++ k.key

def reason : LaunchKey → Reason
  | text k => k.reason k.inSection
  | truth _ => .notBoolean

/-- Whether a value under the key passes its check.  A number too long to write has no text to be checked. -/
def accepts : LaunchKey → Value → Bool
  | text .idleTimeout, v => v.isWritable && (seconds? v.plain).isSome
  | text k, v => v.isWritable && k.accepts v.plain
  | truth _, .bool _ => true
  | truth _, _ => false

end LaunchKey

structure Given where
  key : LaunchKey
  value : Value

namespace Given

def accepted (g : Given) : Bool := g.key.accepts g.value

/-- The error that names the key and the value. -/
def fault (g : Given) : ConfigError := ⟨g.key.inSection, g.value.plain, g.key.reason⟩

def refusal (g : Given) : SettingsError :=
  if g.value.isWritable then .invalid g.fault else .numeral .tooLongToWrite

theorem refusal_of_writable {g : Given} (writable : g.value.isWritable = true) : g.refusal = .invalid g.fault :=
  if_pos writable

theorem refusal_of_not_writable {g : Given} (long : g.value.isWritable = false) :
    g.refusal = .numeral .tooLongToWrite :=
  if_neg (by simp [long])

end Given

variable {entries : List (Value × Value)}

def givenUnder (entries : List (Value × Value)) (k : LaunchKey) : List Given :=
  ((Value.find? k.key entries).map (Given.mk k)).toList

/-- The values of a section in the order of their checks. -/
def given (entries : List (Value × Value)) : List Given := LaunchKey.order.flatMap (givenUnder entries)

/-- The values of the section decide its outcome one by one, each refused value with the given error. -/
def DecidedBy (refusal : Given → SettingsError) (entries : List (Value × Value)) : Prop :=
  Decided Given.accepted refusal LaunchConfig.Valid (given entries) (launchSection (.table entries))

theorem entry_decided {α : Type} {P : α → Prop} (k : LaunchKey) {check : String → Value → Except SettingsError α}
    (each : ∀ v, Decided Given.accepted Given.refusal P [⟨k, v⟩] (check k.inSection v)) :
    Decided Given.accepted Given.refusal (fun o : Option α => ∀ a, o = some a → P a) (givenUnder entries k)
      (entry entries k.key check) := by
  rw [givenUnder, entry]
  cases Value.find? k.key entries with
  | none => exact .ok rfl (by simp)
  | some v =>
    refine (each v).map fun a sound b same => ?_
    cases same
    exact sound

theorem text_decided {α : Type} {P : α → Prop} {check : String → String → Except ConfigError α}
    {read : String → Option α} (k : TextKey) (reads : check = checked k.reason read)
    (accepts : ∀ v, (LaunchKey.text k).accepts v = (v.isWritable && (read v.plain).isSome))
    (bounds : ∀ {s a}, read s = some a → P a) :
    Decided Given.accepted Given.refusal (fun o : Option α => ∀ a, o = some a → P a) (givenUnder entries (.text k))
      (entry entries k.key (textual check)) := by
  refine entry_decided (.text k) fun v => ?_
  have passes : Given.accepted ⟨.text k, v⟩ = (v.isWritable && (read v.plain).isSome) := accepts v
  rw [textual, entryText, Value.written, reads]
  cases writable : v.isWritable with
  | false => exact .refused (by rw [passes, writable]; rfl) (by rw [Given.refusal_of_not_writable writable]; rfl)
  | true =>
    show Decided _ _ _ _ ((checked k.reason read k.inSection v.plain).mapError SettingsError.invalid)
    rw [checked]
    cases value : read v.plain with
    | none => exact .refused (by rw [passes, writable, value]; rfl) (by rw [Given.refusal_of_writable writable]; rfl)
    | some a => exact .accepted (by rw [passes, writable, value]; rfl) rfl (bounds value)

theorem truth_decided (k : TruthKey) :
    Decided Given.accepted Given.refusal (fun o : Option Bool => ∀ b, o = some b → True)
      (givenUnder entries (.truth k)) (entry entries k.key truth) := by
  refine entry_decided (.truth k) fun v => ?_
  unfold truth
  split
  · next b => exact .accepted rfl rfl trivial
  · next other =>
    have fails : Given.accepted ⟨.truth k, v⟩ = false := by
      unfold Given.accepted LaunchKey.accepts
      split <;> simp_all
    rw [entryText, Value.written]
    cases writable : v.isWritable with
    | false => exact .refused fails (by rw [Given.refusal_of_not_writable writable]; rfl)
    | true => exact .refused fails (by rw [Given.refusal_of_writable writable]; rfl)

/-- The values of a section with known keys only. -/
theorem launchOfEntries_decided :
    Decided Given.accepted Given.refusal LaunchConfig.Valid (given entries) (launchOfEntries entries) := by
  simp only [given, LaunchKey.order, List.flatMap_cons, List.flatMap_nil]
  -- The checks come in the order of the keys; the bounds that each leaves behind carry the draft at the end.
  refine (text_decided .name Selector.parse_eq (fun _ => rfl) Selector.read?_bounds).bind fun name nameSound => ?_
  refine (text_decided .display Geometry.parse_eq (fun _ => rfl)
    Geometry.read?_bounds).bind fun geometry geometrySound => ?_
  refine (text_decided .fps (Count.parse_eq _) (fun _ => rfl)
    (Count.read?_bounds (by decide))).bind fun fps fpsSound => ?_
  refine (truth_decided .overscan).bind fun overscan _ => ?_
  refine (text_decided .flip Flip.parse_eq (fun _ => rfl) fun _ => trivial).bind fun flip _ => ?_
  refine (text_decided .rotate Turn.parse_eq (fun _ => rfl) fun _ => trivial).bind fun turn _ => ?_
  refine (text_decided .ports PortGroup.parseTriple_eq (fun _ => rfl)
    PortGroup.readTriple?_valid).bind fun ports portsSound => ?_
  refine (text_decided .tcpPorts PortGroup.parseTriple_eq (fun _ => rfl)
    PortGroup.readTriple?_valid).bind fun tcp tcpSound => ?_
  refine (text_decided .udpPorts PortGroup.parseTriple_eq (fun _ => rfl)
    PortGroup.readTriple?_valid).bind fun udp udpSound => ?_
  refine (text_decided .videoSink Selector.parse_eq (fun _ => rfl)
    Selector.read?_bounds).bind fun videoSink videoSound => ?_
  refine (text_decided .audioSink Selector.parse_eq (fun _ => rfl)
    Selector.read?_bounds).bind fun audioSink audioSound => ?_
  refine (truth_decided .debugLog).bind fun debugLog _ => ?_
  refine (text_decided .idleTimeout seconds_eq (fun _ => rfl) fun _ => trivial).bind fun idle _ => ?_
  refine (truth_decided .randomIdentifier).bind fun random _ => ?_
  exact Draft.Within.decided
    { name := visible_getD (by decide) nameSound
      videoSink := visible_getD (by decide) videoSound
      audioSink := visible_getD (by decide) audioSound
      width := Draft.getD_within (by decide) fun g given => Draft.natCast_within (geometrySound g given).width
      height := Draft.getD_within (by decide) fun g given => Draft.natCast_within (geometrySound g given).height
      refresh := Draft.getD_within (by decide) fun g given => (geometrySound g given).refreshOr_within (by decide)
      maxFps := Draft.getD_within (by decide) fun n given => Draft.natCast_within (fpsSound n given)
      idleTimeout := Draft.getD_nonneg (by decide)
      tcp := ⟨_, Readings.triple_valid tcpSound portsSound, rfl⟩
      udp := ⟨_, Readings.triple_valid udpSound portsSound, rfl⟩ }

theorem decidedBy_refusal (known : ∀ e ∈ entries, isLaunchKey e.1 = true) : DecidedBy Given.refusal entries := by
  rw [DecidedBy, launchSection_of_known known]
  exact launchOfEntries_decided

/-- Every refusal names its key and value, unless the value has no text. -/
theorem decidedBy_fault_iff (known : ∀ e ∈ entries, isLaunchKey e.1 = true) :
    DecidedBy (fun g => .invalid g.fault) entries ↔
      ∀ g, firstRefused Given.accepted (given entries) = some g → g.value.isWritable = true := by
  rw [DecidedBy, (decidedBy_refusal known).iff_refusal]
  refine forall₂_congr fun g _ => ?_
  cases writable : g.value.isWritable with
  | false => simp [Given.refusal_of_not_writable writable]
  | true => simp [Given.refusal_of_writable writable]

theorem Given.not_accepted_of_long {k : TextKey} {v : Value} (long : v.isWritable = false) :
    Given.accepted ⟨.text k, v⟩ = false := by
  cases k <;> simp [Given.accepted, LaunchKey.accepts, long]

theorem DecidedBy.long_name {v : Value} (decided : DecidedBy Given.refusal [(.text "name", v)])
    (long : v.isWritable = false) : launchSection (.table [(.text "name", v)]) = .error (.numeral .tooLongToWrite) := by
  have only : given [(.text "name", v)] = [⟨.text .name, v⟩] := rfl
  rw [DecidedBy, only, Decided, firstRefused, List.find?_singleton, Given.not_accepted_of_long long] at decided
  exact decided.trans (congrArg _ (Given.refusal_of_not_writable long))

end Settings

end CastLaunch
