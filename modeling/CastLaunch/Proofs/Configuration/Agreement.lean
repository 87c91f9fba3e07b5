import CastLaunch.CommandLine.Overrides
import CastLaunch.Proofs.Configuration.Entries

/-!
A launch section beside the options of the command line.  A section of plain texts and
truth values amounts to options: each key has one that carries the same text.  Read in
either way the values make the same configuration over the defaults, or the same key is
refused.
-/

namespace CastLaunch
open CastLaunch.Text CastLaunch.CommandLine

/-- Both computations succeed, with results in the one relation, or both fail, with errors in the other. -/
inductive Agree {ε ε' α β : Type} (E : ε → ε' → Prop) (R : α → β → Prop) : Except ε α → Except ε' β → Prop
  | ok {a : α} {b : β} (same : R a b) : Agree E R (.ok a) (.ok b)
  | error {e : ε} {e' : ε'} (same : E e e') : Agree E R (.error e) (.error e')

theorem Agree.bind {ε ε' α β γ δ : Type} {E : ε → ε' → Prop} {R : α → β → Prop} {S : γ → δ → Prop}
    {x : Except ε α} {y : Except ε' β} {f : α → Except ε γ} {g : β → Except ε' δ}
    (first : Agree E R x y) (behind : ∀ a b, R a b → Agree E S (f a) (g b)) : Agree E S (x >>= f) (y >>= g) := by
  cases first with
  | ok same => exact behind _ _ same
  | error same => exact .error same

theorem Agree.eq_ok {ε ε' α : Type} {E : ε → ε' → Prop} {x : Except ε α} {y : Except ε' α} {a : α}
    (same : Agree E Eq x y) (made : x = .ok a) : y = .ok a := by
  cases same with
  | ok same => exact congrArg Except.ok (same.symm.trans (Except.ok.inj made))
  | error => cases made

theorem Agree.after {ε ε' α β δ : Type} {E : ε → ε' → Prop} {S : β → δ → Prop} {x : Except ε α} {a : α}
    {f : α → Except ε β} {y : Except ε' δ} (done : x = .ok a) (behind : Agree E S (f a) y) : Agree E S (x >>= f) y := by
  rw [done]
  exact behind

namespace Settings

variable {entries : List (Value × Value)}

/-- The port options, those for one transport behind the one for both. -/
def occurrences (entries : List (Value × Value)) : List (List String) :=
  ((text? entries .ports).map fun s => [s]).toList ++
    (((text? entries .tcpPorts).map fun s => ["tcp", s]).toList ++
      ((text? entries .udpPorts).map fun s => ["udp", s]).toList)

/-- The options that say what the section says. -/
def options (entries : List (Value × Value)) : Arguments :=
  let value := fun k => (text? entries k).map OptValue.text
  { name := value .name
    display := value .display
    fps := value .fps
    flip := value .flip
    turn := value .rotate
    ports := if occurrences entries = [] then none else some (occurrences entries)
    videoSink := value .videoSink
    audioSink := value .audioSink
    idleTimeout := value .idleTimeout
    overscan := isSet entries .overscan
    randomIdentifier := isSet entries .randomIdentifier
    debugToggles := if isSet entries .debugLog then 1 else 0 }

/-- Both errors refuse the text under one key.  A transport's name instead of ports is an occurrence of the port option
without a list. -/
inductive SameKey (entries : List (Value × Value)) : SettingsError → OverrideError → Prop
  | text (k : TextKey) {s : String} (given : Value.find? k.key entries = some (.text s)) :
      SameKey entries (.invalid ⟨k.inSection, s, k.reason k.inSection⟩) (.invalid ⟨k.option, s, k.reason k.option⟩)
  | transport {s : String} (word : s = "tcp" ∨ s = "udp")
      (given : Value.find? TextKey.ports.key entries = some (.text s)) :
      SameKey entries (.invalid ⟨TextKey.ports.inSection, s, TextKey.ports.reason TextKey.ports.inSection⟩)
        (.invalid ⟨TextKey.ports.option ++ " " ++ s, "", .onePortList⟩)

/-- Both readings give the same value, and a value that is there is within bounds. -/
def Same {α : Type} (P : α → Prop) (a b : Option α) : Prop := a = b ∧ ∀ v, a = some v → P v

theorem agree_text {α : Type} {P : α → Prop} {check : String → String → Except ConfigError α}
    {read : String → Option α} {missing : Reason} (plain : ∀ e ∈ entries, PlainEntry e) (k : TextKey)
    (reads : check = checked k.reason read) (bounds : ∀ {s v}, read s = some v → P v) :
    Agree (SameKey entries) (Same P) (entry entries k.key (textual check))
      (OptValue.read k.option missing (check k.option) ((text? entries k).map .text)) := by
  rw [entry_textual plain, reads]
  cases given : text? entries k with
  | none => exact .ok ⟨rfl, nofun⟩
  | some s =>
    show Agree _ _ (((checked k.reason read k.inSection s).mapError SettingsError.invalid).map some)
      (Except.asOverride ((checked k.reason read k.option s).map some))
    rw [checked, checked]
    cases value : read s with
    | none => exact .error (.text k (find?_of_text? given))
    | some v =>
      refine .ok ⟨rfl, fun w same => ?_⟩
      cases same
      exact bounds value

theorem agree_geometry (plain : ∀ e ∈ entries, PlainEntry e) :
    Agree (SameKey entries) (Same Geometry.Bounded) (entry entries TextKey.display.key (textual Geometry.parse))
      (OptValue.readGeometry ((text? entries .display).map .text)) := by
  have same : OptValue.readGeometry ((text? entries .display).map .text) =
      OptValue.read "-s" (.geometry "-s") (Geometry.parse "-s") ((text? entries .display).map .text) := by
    cases text? entries .display <;> rfl
  rw [same]
  exact agree_text plain .display Geometry.parse_eq Geometry.read?_bounds

theorem entry_timeout (plain : ∀ e ∈ entries, PlainEntry e) :
    entry entries TextKey.idleTimeout.key (textual seconds) =
      entry entries TextKey.idleTimeout.key (textual fun flag => Count.parse flag 0) := by
  rw [entry_textual plain, entry_textual plain]
  cases given : text? entries .idleTimeout with
  | none => rfl
  | some s =>
    show ((seconds _ s).mapError SettingsError.invalid).map some = _
    rw [seconds, if_neg (text?_timeout plain given)]

theorem agree_timeout (plain : ∀ e ∈ entries, PlainEntry e) :
    Agree (SameKey entries) (Same fun _ => True) (entry entries TextKey.idleTimeout.key (textual seconds))
      (OptValue.read "-t" (.count "-t" 0) (Count.parse "-t" 0) ((text? entries .idleTimeout).map .text)) := by
  rw [entry_timeout plain]
  exact agree_text plain .idleTimeout (Count.parse_eq 0) fun _ => trivial

/-! The port options are applied from left to right, so that those for one transport win. -/

theorem asOverride_bind {α β : Type} (x : Except ConfigError α) (f : α → Except ConfigError β) :
    Except.asOverride (x >>= f) = Except.asOverride x >>= fun a => Except.asOverride (f a) := by
  cases x <;> rfl

theorem apply_append (p : PortPair) (first later : List (List String)) :
    Except.asOverride (PortPair.apply p (first ++ later)) =
      Except.asOverride (PortPair.apply p first) >>= fun q => Except.asOverride (PortPair.apply q later) := by
  rw [PortPair.apply, List.foldlM_append, asOverride_bind]
  rfl

theorem apply_single (p : PortPair) (words : List String) : PortPair.apply p [words] = p.occurrence words := by
  show (p.occurrence words >>= pure) = _
  exact bind_pure _

theorem occurrence_ports {p : PortPair} {s : String} (tcp : s ≠ "tcp") (udp : s ≠ "udp") :
    p.occurrence [s] = (PortGroup.parseTriple "-p" s).map fun group => ⟨group, group⟩ := by
  rw [PortPair.occurrence]
  · rfl
  · exact tcp
  · exact udp

/-- The ports that the three options choose together. -/
def chosen (group tcp udp : Option PortTriple) : PortPair :=
  ⟨(tcp.or group).getD .dynamic, (udp.or group).getD .dynamic⟩

/-- The ports of an entry and an occurrence of the port option choose alike, as `result` says for each choice. -/
theorem agree_occurrence (plain : ∀ e ∈ entries, PlainEntry e) (k : TextKey)
    (reason : k.reason = fun _ => .portGroup Limits.portGroupSize) (result : Option PortTriple → PortPair)
    {words : String → List String} (reads : ∀ s, text? entries k = some s →
      (result none).occurrence (words s) = (PortGroup.parseTriple k.option s).map fun t => result (some t)) :
    Agree (SameKey entries) (fun group pair => pair = result group ∧ ∀ t, group = some t → t.Valid)
      (entry entries k.key (textual PortGroup.parseTriple))
      (Except.asOverride (PortPair.apply (result none) ((text? entries k).map words).toList)) := by
  rw [entry_textual plain]
  cases given : text? entries k with
  | none => exact .ok ⟨rfl, nofun⟩
  | some s =>
    show Agree _ _ (((PortGroup.parseTriple k.inSection s).mapError SettingsError.invalid).map some)
      (Except.asOverride (PortPair.apply (result none) [words s]))
    rw [apply_single, reads s given, PortGroup.parseTriple_eq, ← reason, checked, checked]
    cases value : PortGroup.readTriple? s with
    | none => exact .error (.text k (find?_of_text? given))
    | some t =>
      refine .ok ⟨rfl, fun t' same => ?_⟩
      cases same
      exact PortGroup.readTriple?_valid value

/-- A transport's name is no list of ports to the section, and to the options a transport without a list. -/
theorem agree_ports (plain : ∀ e ∈ entries, PlainEntry e) :
    Agree (SameKey entries) (fun group pair => pair = chosen group none none ∧ ∀ t, group = some t → t.Valid)
      (entry entries TextKey.ports.key (textual PortGroup.parseTriple))
      (Except.asOverride (PortPair.apply (chosen none none none) ((text? entries .ports).map fun s => [s]).toList)) := by
  by_cases word : text? entries .ports = some "tcp" ∨ text? entries .ports = some "udp"
  · rw [entry_textual plain]
    rcases word with given | given <;> rw [given]
    · exact .error (.transport (.inl rfl) (find?_of_text? given))
    · exact .error (.transport (.inr rfl) (find?_of_text? given))
  · rw [not_or] at word
    refine agree_occurrence plain .ports rfl (fun group => chosen group none none) fun s given => occurrence_ports ?_ ?_
    · rintro rfl
      exact word.1 given
    · rintro rfl
      exact word.2 given

/-- What a launch section says, value by value. -/
structure Readings where
  name : Option String
  geometry : Option Geometry
  fps : Option Nat
  flip : Option Flip
  turn : Option Turn
  group : Option PortTriple
  tcp : Option PortTriple
  udp : Option PortTriple
  videoSink : Option String
  audioSink : Option String
  idle : Option Nat
  overscan : Bool
  debugLog : Bool
  random : Bool

namespace Readings

structure Sound (r : Readings) : Prop where
  name : ∀ s, r.name = some s → allBlank s = false
  geometry : ∀ g, r.geometry = some g → g.Bounded
  fps : ∀ n, r.fps = some n → n ≤ Limits.maxFps
  group : ∀ t, r.group = some t → t.Valid
  tcp : ∀ t, r.tcp = some t → t.Valid
  udp : ∀ t, r.udp = some t → t.Valid
  videoSink : ∀ s, r.videoSink = some s → allBlank s = false
  audioSink : ∀ s, r.audioSink = some s → allBlank s = false

/-- The geometry without one: every extent is left to the engine. -/
def shape (r : Readings) : Geometry := r.geometry.getD ⟨0, 0, none⟩

/-- The configuration that the values make over the defaults. -/
def config (r : Readings) : LaunchConfig where
  name := r.name.getD Limits.defaultName
  width := r.shape.width
  height := r.shape.height
  refresh := r.shape.refresh.getD 0
  maxFps := r.fps.getD 0
  overscanned := r.overscan
  tcp := (chosen r.group r.tcp r.udp).tcp
  udp := (chosen r.group r.tcp r.udp).udp
  flip := r.flip.getD .none
  turn := r.turn.getD .none
  videoSink := r.videoSink.getD Limits.defaultVideoSink
  audioSink := r.audioSink.getD Limits.defaultAudioSink
  debugLog := r.debugLog
  idleTimeout := r.idle.getD 0
  randomIdentifier := r.random

theorem getD_of_all {α : Type} {P : α → Prop} {o : Option α} {d : α} (default : P d) (given : ∀ v, o = some v → P v) :
    P (o.getD d) := by
  cases o with
  | none => exact default
  | some v => exact given v rfl

theorem triple_valid {own group : Option PortTriple} (ownSound : ∀ t, own = some t → t.Valid)
    (groupSound : ∀ t, group = some t → t.Valid) : ((own.or group).getD .dynamic).Valid := by
  refine getD_of_all (.inl rfl) fun t given => ?_
  rcases Option.or_eq_some_iff.mp given with own | ⟨-, both⟩
  · exact ownSound t own
  · exact groupSound t both

theorem Sound.config_valid {r : Readings} (sound : r.Sound) : r.config.Valid :=
  have shape : r.shape.Bounded := getD_of_all ⟨by decide, by decide, nofun⟩ sound.geometry
  { name := getD_of_all (by decide) sound.name
    videoSink := getD_of_all (by decide) sound.videoSink
    audioSink := getD_of_all (by decide) sound.audioSink
    width := shape.width
    height := shape.height
    refresh := getD_of_all (by decide) shape.refresh
    maxFps := getD_of_all (by decide) sound.fps
    tcp := triple_valid sound.tcp sound.group
    udp := triple_valid sound.udp sound.group }

/-- The draft of the configuration, each number as its option gives it. -/
theorem toDraft_config (r : Readings) : r.config.toDraft =
    { name := r.name.getD Limits.defaultName
      width := (r.geometry.map fun g => (g.width : Int)).getD 0
      height := (r.geometry.map fun g => (g.height : Int)).getD 0
      refresh := (r.geometry.map fun g => g.refreshOr 0).getD 0
      maxFps := (r.fps.map Int.ofNat).getD 0
      overscanned := r.overscan
      tcp := (chosen r.group r.tcp r.udp).tcp.toList.map Int.ofNat
      udp := (chosen r.group r.tcp r.udp).udp.toList.map Int.ofNat
      flip := r.flip.getD .none
      turn := r.turn.getD .none
      videoSink := r.videoSink.getD Limits.defaultVideoSink
      audioSink := r.audioSink.getD Limits.defaultAudioSink
      debugLog := r.debugLog
      idleTimeout := (r.idle.map Int.ofNat).getD 0
      randomIdentifier := r.random } := by
  obtain ⟨name, geometry, fps, flip, turn, group, tcp, udp, videoSink, audioSink, idle, overscan, debugLog, random⟩ := r
  have count : ∀ n : Option Nat, ((n.getD 0 : Nat) : Int) = (n.map Int.ofNat).getD 0 := by
    intro n
    cases n <;> rfl
  cases geometry with
  | none =>
    simp only [config, LaunchConfig.toDraft, shape, count]
    rfl
  | some g =>
    simp only [config, LaunchConfig.toDraft, shape, count, Option.getD_some]
    rfl

end Readings

theorem agree_validate {c : LaunchConfig} (valid : c.Valid) {d d' : Draft} (first : d = c.toDraft)
    (second : d' = c.toDraft) :
    Agree (SameKey entries) Eq (d.validate.mapError .invalid) (Except.asOverride d'.validate) := by
  rw [first, second, Draft.validate_toDraft valid]
  exact .ok rfl

theorem getD_occurrences : (options entries).ports.getD [] = occurrences entries := by
  rw [options]
  split
  · next none => exact none.symm
  · rfl

theorem odd_debugToggles : (options entries).debugToggles % 2 = 1 ↔ isSet entries .debugLog = true := by
  rw [options]
  cases isSet entries .debugLog <;> simp

/-- A section of plain entries and the options that say the same make the same configuration, or both refuse the
same text. -/
theorem section_agrees_with_options (plain : ∀ e ∈ entries, PlainEntry e) :
    Agree (SameKey entries) Eq (launchSection (.table entries)) ((options entries).configure {} none) := by
  obtain ⟨overscan, readOverscan, overscanGiven⟩ := entry_truth plain .overscan
  obtain ⟨debugLog, readDebugLog, debugGiven⟩ := entry_truth plain .debugLog
  obtain ⟨random, readRandom, randomGiven⟩ := entry_truth plain .randomIdentifier
  rw [launchSection_table plain]
  -- Both read the values in one order, so they are settled one by one; only the truth values are read on one side alone.
  refine (agree_text plain .name Selector.parse_eq Selector.read?_bounds).bind ?_
  rintro name _ ⟨rfl, nameSound⟩
  refine (agree_geometry plain).bind ?_
  rintro geometry _ ⟨rfl, geometrySound⟩
  refine (agree_text plain .fps (Count.parse_eq _) (Count.read?_bounds (by decide))).bind ?_
  rintro fps _ ⟨rfl, fpsSound⟩
  refine Agree.after readOverscan ?_
  refine (agree_text plain .flip Flip.parse_eq fun _ => trivial).bind ?_
  rintro flip _ ⟨rfl, -⟩
  refine (agree_text plain .rotate Turn.parse_eq fun _ => trivial).bind ?_
  rintro turn _ ⟨rfl, -⟩
  simp only [getD_occurrences, occurrences, apply_append, bind_assoc]
  refine (agree_ports plain).bind ?_
  rintro group _ ⟨rfl, groupSound⟩
  refine (agree_occurrence plain .tcpPorts rfl (fun tcp => chosen group tcp none) fun _ _ => rfl).bind ?_
  rintro tcp _ ⟨rfl, tcpSound⟩
  refine (agree_occurrence plain .udpPorts rfl (fun udp => chosen group tcp udp) fun _ _ => rfl).bind ?_
  rintro udp _ ⟨rfl, udpSound⟩
  refine (agree_text plain .videoSink Selector.parse_eq Selector.read?_bounds).bind ?_
  rintro videoSink _ ⟨rfl, videoSound⟩
  refine (agree_text plain .audioSink Selector.parse_eq Selector.read?_bounds).bind ?_
  rintro audioSink _ ⟨rfl, audioSound⟩
  refine Agree.after readDebugLog ?_
  refine (agree_timeout plain).bind ?_
  rintro idle _ ⟨rfl, -⟩
  refine Agree.after readRandom ?_
  have sound : Readings.Sound
      { name, geometry, fps, flip, turn, group, tcp, udp, videoSink, audioSink, idle
        overscan := isSet entries .overscan
        debugLog := isSet entries .debugLog
        random := isSet entries .randomIdentifier } :=
    ⟨nameSound, geometrySound, fpsSound, groupSound, tcpSound, udpSound, videoSound, audioSound⟩
  refine agree_validate sound.config_valid ?_ ?_
  · rw [overscanGiven, debugGiven, randomGiven, Readings.toDraft_config]
    rfl
  · rw [Readings.toDraft_config]
    congr 1
    case e_maxFps => cases fps <;> rfl
    case e_overscanned => exact Bool.or_false _
    case e_debugLog =>
      show (if (options entries).debugToggles % 2 = 1 then true else false) = isSet entries .debugLog
      simp only [odd_debugToggles, Bool.if_true_left, Bool.decide_eq_true, Bool.or_false]
    case e_idleTimeout => cases idle <;> rfl
    case e_randomIdentifier => exact Bool.or_false _

/-- Ports for both transports behind ports for one, which win all the same. -/
def overriding : List (Value × Value) := [(.text "tcp_ports", .text "6000"), (.text "ports", .text "7100")]

theorem section_agrees_with_options_overriding :
    (∀ e ∈ overriding, PlainEntry e) ∧
      launchSection (.table overriding) = .ok { tcp := ⟨6000, 6001, 6002⟩, udp := ⟨7100, 7101, 7102⟩ } ∧
      (options overriding).configure {} none = .ok { tcp := ⟨6000, 6001, 6002⟩, udp := ⟨7100, 7101, 7102⟩ } := by
  have plain : ∀ e ∈ overriding, PlainEntry e := by
    rw [overriding, List.forall_mem_cons, List.forall_mem_singleton]
    exact ⟨.text .tcpPorts "6000" nofun, .text .ports "7100" nofun⟩
  have made : launchSection (.table overriding) = .ok { tcp := ⟨6000, 6001, 6002⟩, udp := ⟨7100, 7101, 7102⟩ } := rfl
  exact ⟨plain, made, (section_agrees_with_options plain).eq_ok made⟩

/-- A transport's name in place of the ports: its option lacks a list. -/
example : (options [(.text "ports", .text "tcp")]).configure {} none =
    .error (.invalid ⟨"-p tcp", "", .onePortList⟩) := rfl

end Settings

end CastLaunch
