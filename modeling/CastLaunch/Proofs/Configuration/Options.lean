import CastLaunch.Proofs.Configuration.Refusals

/-!
What refuses the options of a command line.  They are checked in a fixed order, the port
options among themselves as they come.  The values that no option replaces are those of a
base within the bounds, and a host name behind the name leaves it as visible as it was.
-/

namespace CastLaunch
open CastLaunch.Text

namespace CommandLine

/-- What the options give to be checked. -/
inductive Supplied where
  | value (k : TextKey) (v : OptValue)
  | ports (words : List String)
  deriving DecidableEq, Repr

/-- The name of a port option that sets one transport or both, and the list behind it. -/
def portList : List String → String × List String
  | "tcp" :: r => ("-p tcp", r)
  | "udp" :: r => ("-p udp", r)
  | words => ("-p", words)

def acceptsList : List String → Bool
  | [s] => TextKey.ports.accepts s
  | _ => false

def listFault (flag : String) (given : List String) : ConfigError :=
  ⟨flag, String.intercalate " " given, if given.length = 1 then .portGroup Limits.portGroupSize else .onePortList⟩

namespace Supplied

def accepted : Supplied → Bool
  | value _ .empty => false
  | value k (.text s) => k.accepts s
  | ports [] => true
  | ports words => acceptsList (portList words).2

/-- The error that names the option and the value. -/
def fault : Supplied → ConfigError
  | value k .empty => ⟨k.option, "[]", k.reason k.option⟩
  | value k (.text s) => ⟨k.option, s, k.reason k.option⟩
  | ports words => listFault (portList words).1 (portList words).2

def refusal : Supplied → OverrideError
  | value .display .empty => .shape (.noPart "list" "partition")
  | g => .invalid g.fault

theorem refusal_of_ne {g : Supplied} (other : g ≠ value .display .empty) : g.refusal = .invalid g.fault := by
  unfold refusal
  split
  · exact absurd rfl other
  · rfl

end Supplied

def suppliedValue (k : TextKey) (o : Option OptValue) : List Supplied := (o.map (.value k)).toList

/-- The values of the options in the order of their checks. -/
def Arguments.supplied (a : Arguments) : List Supplied :=
  suppliedValue .name a.name ++ (suppliedValue .display a.display ++ (suppliedValue .fps a.fps ++
    (suppliedValue .flip a.flip ++ (suppliedValue .rotate a.turn ++ ((a.ports.getD []).map .ports ++
      (suppliedValue .videoSink a.videoSink ++ (suppliedValue .audioSink a.audioSink ++
        (suppliedValue .idleTimeout a.idleTimeout ++ []))))))))

/-- The values of the options decide the outcome one by one, each refused value with the given error. -/
def Arguments.DecidedBy (refusal : Supplied → OverrideError) (a : Arguments) (base : LaunchConfig)
    (host : Option String) : Prop :=
  Decided Supplied.accepted refusal LaunchConfig.Valid a.supplied (a.configure base host)

theorem supplied_text_decided {α : Type} {P : α → Prop} {check : String → String → Except ConfigError α}
    {read : String → Option α} (k : TextKey) (reads : check = checked k.reason read)
    (accepts : ∀ s, k.accepts s = (read s).isSome) (bounds : ∀ {s a}, read s = some a → P a) (s : String) :
    Decided Supplied.accepted Supplied.refusal (fun o : Option α => ∀ a, o = some a → P a)
      (suppliedValue k (some (.text s))) (Except.asOverride ((check k.option s).map some)) := by
  have passes : Supplied.accepted (.value k (.text s)) = (read s).isSome := accepts s
  rw [reads, checked]
  cases value : read s with
  | none => exact .refused (by rw [passes, value]; rfl) (by rw [Supplied.refusal_of_ne (by simp)]; rfl)
  | some a =>
    refine .accepted (by rw [passes, value]; rfl) rfl fun b same => ?_
    cases same
    exact bounds value

theorem supplied_decided {α : Type} {P : α → Prop} {check : String → String → Except ConfigError α}
    {read : String → Option α} (k : TextKey) (other : k ≠ .display) (reads : check = checked k.reason read)
    (accepts : ∀ s, k.accepts s = (read s).isSome) (bounds : ∀ {s a}, read s = some a → P a) (o : Option OptValue) :
    Decided Supplied.accepted Supplied.refusal (fun o : Option α => ∀ a, o = some a → P a) (suppliedValue k o)
      (OptValue.read k.option (k.reason k.option) (check k.option) o) := by
  rcases o with - | s | -
  · exact .ok rfl nofun
  · exact supplied_text_decided k reads accepts bounds s
  · exact .refused rfl (by rw [Supplied.refusal_of_ne (by simp [other])]; rfl)

theorem supplied_geometry_decided (o : Option OptValue) :
    Decided Supplied.accepted Supplied.refusal (fun o : Option Geometry => ∀ g, o = some g → g.Bounded)
      (suppliedValue .display o) (OptValue.readGeometry o) := by
  rcases o with - | s | -
  · exact .ok rfl nofun
  · exact supplied_text_decided .display Geometry.parse_eq (fun _ => rfl) Geometry.read?_bounds s
  · exact .refused rfl rfl

/-! The port options.  Each sets ports of its own or the legacy ports, whatever was set before. -/

def PortPair.Valid (p : PortPair) : Prop := p.tcp.Valid ∧ p.udp.Valid

/-- The ports of one list, for the transport that the first word names or for both. -/
def PortPair.placed (p : PortPair) (first : String) (t : PortTriple) : PortPair :=
  match first with
  | "tcp" => { p with tcp := t }
  | "udp" => { p with udp := t }
  | _ => ⟨t, t⟩

theorem PortPair.placed_valid {p : PortPair} (valid : p.Valid) (first : String) {t : PortTriple} (sound : t.Valid) :
    (p.placed first t).Valid := by
  unfold placed
  split
  · exact ⟨sound, valid.2⟩
  · exact ⟨valid.1, sound⟩
  · exact ⟨sound, sound⟩

theorem PortPair.occurrence_cons (p : PortPair) (first : String) (r : List String) :
    p.occurrence (first :: r) = match portList (first :: r) with
      | (flag, [s]) => (PortGroup.parseTriple flag s).map (p.placed first)
      | (flag, given) => .error ⟨flag, String.intercalate " " given, .onePortList⟩ := by
  have map_eq : ∀ (f : PortTriple → PortPair) (x : Except ConfigError PortTriple),
      (x >>= fun t => pure (f t)) = x.map f := fun f x => by cases x <;> rfl
  by_cases tcp : first = "tcp"
  · subst tcp
    rcases r with - | ⟨s, - | ⟨t, rest⟩⟩
    · rfl
    · exact map_eq (p.placed "tcp") _
    · rfl
  by_cases udp : first = "udp"
  · subst udp
    rcases r with - | ⟨s, - | ⟨t, rest⟩⟩
    · rfl
    · exact map_eq (p.placed "udp") _
    · rfl
  have list : portList (first :: r) = ("-p", first :: r) := by simp [portList, tcp, udp]
  have both : p.placed first = fun t => ⟨t, t⟩ := by funext t; simp [placed]
  rw [list, both]
  rcases r with - | ⟨s, rest⟩
  · rw [Settings.occurrence_ports tcp udp]
  · simp [PortPair.occurrence, tcp, udp]

theorem occurrence_decided {p : PortPair} (valid : p.Valid) (words : List String) :
    Decided Supplied.accepted Supplied.refusal PortPair.Valid [.ports words]
      (Except.asOverride (p.occurrence words)) := by
  rcases words with - | ⟨first, r⟩
  · exact .accepted rfl rfl ⟨by decide, by decide⟩
  have passes : Supplied.accepted (.ports (first :: r)) = acceptsList (portList (first :: r)).2 := rfl
  have error : Supplied.refusal (.ports (first :: r)) =
      .invalid (listFault (portList (first :: r)).1 (portList (first :: r)).2) := rfl
  rw [PortPair.occurrence_cons]
  generalize portList (first :: r) = list at passes error
  obtain ⟨flag, given⟩ := list
  rcases given with - | ⟨s, - | ⟨t, rest⟩⟩
  · exact .refused passes (by rw [error]; rfl)
  · simp only [PortGroup.parseTriple_eq, checked]
    cases value : PortGroup.readTriple? s with
    | none => exact .refused (passes.trans (congrArg Option.isSome value)) (by rw [error]; rfl)
    | some t =>
      exact .accepted (passes.trans (congrArg Option.isSome value)) rfl
        (PortPair.placed_valid valid first (PortGroup.readTriple?_valid value))
  · exact .refused passes (by rw [error]; rfl)

theorem apply_decided {p : PortPair} (valid : p.Valid) (occurrences : List (List String)) :
    Decided Supplied.accepted Supplied.refusal PortPair.Valid (occurrences.map .ports)
      (Except.asOverride (p.apply occurrences)) := by
  induction occurrences generalizing p with
  | nil => exact .ok rfl valid
  | cons words later ih =>
    have split : Except.asOverride (p.apply (words :: later)) =
        Except.asOverride (p.occurrence words) >>= fun q => Except.asOverride (q.apply later) :=
      Settings.asOverride_bind ..
    rw [split]
    exact (occurrence_decided valid words).bind fun q sound => ih sound

theorem hostedName_visible {name : String} (visible : allBlank name = false) (host : Option String) :
    allBlank (hostedName name host) = false := by
  unfold hostedName
  split
  · split
    · exact visible
    · rw [allBlank] at visible ⊢
      simp [visible]
  · exact visible

theorem asOverride_eq {α : Type} (x : Except ConfigError α) : Except.asOverride x = x.mapError .invalid := by
  cases x <;> rfl

variable {base : LaunchConfig}

theorem Arguments.decidedBy_refusal (a : Arguments) (valid : base.Valid) (host : Option String) :
    a.DecidedBy Supplied.refusal base host := by
  have inherited := valid.within
  -- Each option is either given, with a value that its check has bounded, or left to the base.
  refine (supplied_decided .name nofun Selector.parse_eq (fun _ => rfl)
    Selector.read?_bounds a.name).bind fun name nameSound => ?_
  refine (supplied_geometry_decided a.display).bind fun geometry geometrySound => ?_
  refine (supplied_decided .fps nofun (Count.parse_eq _) (fun _ => rfl)
    (Count.read?_bounds (by decide)) a.fps).bind fun fps fpsSound => ?_
  refine (supplied_decided .flip nofun Flip.parse_eq (fun _ => rfl) (fun _ => trivial) a.flip).bind fun flip _ => ?_
  refine (supplied_decided .rotate nofun Turn.parse_eq (fun _ => rfl) (fun _ => trivial) a.turn).bind fun turn _ => ?_
  refine (apply_decided ⟨valid.tcp, valid.udp⟩ (a.ports.getD [])).bind fun ports portsSound => ?_
  refine (supplied_decided .videoSink nofun Selector.parse_eq (fun _ => rfl)
    Selector.read?_bounds a.videoSink).bind fun videoSink videoSound => ?_
  refine (supplied_decided .audioSink nofun Selector.parse_eq (fun _ => rfl)
    Selector.read?_bounds a.audioSink).bind fun audioSink audioSound => ?_
  refine (supplied_decided .idleTimeout nofun (Count.parse_eq 0) (fun _ => rfl)
    (fun _ => trivial) a.idleTimeout).bind fun idle _ => ?_
  rw [asOverride_eq]
  exact Draft.Within.decided
    { name := hostedName_visible (visible_getD valid.name nameSound) host
      videoSink := visible_getD valid.videoSink videoSound
      audioSink := by
        show allBlank (if a.audioOff then Limits.sinkDisabled else audioSink.getD base.audioSink) = false
        split
        · decide
        · exact visible_getD valid.audioSink audioSound
      width := Draft.getD_within inherited.width fun g given => Draft.natCast_within (geometrySound g given).width
      height := Draft.getD_within inherited.height fun g given => Draft.natCast_within (geometrySound g given).height
      refresh := Draft.getD_within inherited.refresh fun g given =>
        (geometrySound g given).refreshOr_within inherited.refresh
      maxFps := by
        rcases fps with - | n
        · exact inherited.maxFps
        · exact Draft.natCast_within (fpsSound n rfl)
      idleTimeout := by
        rcases idle with - | n
        · exact inherited.idleTimeout
        · exact Int.natCast_nonneg n
      tcp := ⟨_, portsSound.1, rfl⟩
      udp := ⟨_, portsSound.2, rfl⟩ }

/-- Every refusal names its option and value, unless a geometry has no text. -/
theorem Arguments.decidedBy_fault_iff (a : Arguments) (valid : base.Valid) (host : Option String) :
    a.DecidedBy (fun g => .invalid g.fault) base host ↔
      firstRefused Supplied.accepted a.supplied ≠ some (.value .display .empty) := by
  rw [DecidedBy, (a.decidedBy_refusal valid host).iff_refusal]
  constructor
  · intro named same
    exact absurd (named _ same) (by simp [Supplied.refusal])
  · rintro texts g same
    exact Supplied.refusal_of_ne fun empty => texts (by rw [same, empty])

end CommandLine

open CommandLine in
/-- The first value of a section that its check refuses ends the section, and the first option that its check refuses
the configuration over a base; without one the result is within the bounds.  The refusal names the value or option,
except for a number too long to write and a geometry without a text. -/
theorem refusals_named_iff {entries : List (Value × Value)} (known : ∀ e ∈ entries, Settings.isLaunchKey e.1 = true)
    {base : LaunchConfig} (valid : base.Valid) (a : Arguments) (host : Option String) :
    (Settings.DecidedBy Settings.Given.refusal entries ∧
      (Settings.DecidedBy (fun g => .invalid g.fault) entries ↔
        ∀ g, firstRefused Settings.Given.accepted (Settings.given entries) = some g → g.value.isWritable = true)) ∧
    a.DecidedBy Supplied.refusal base host ∧
      (a.DecidedBy (fun g => .invalid g.fault) base host ↔
        firstRefused Supplied.accepted a.supplied ≠ some (.value .display .empty)) :=
  ⟨⟨Settings.decidedBy_refusal known, Settings.decidedBy_fault_iff known⟩, a.decidedBy_refusal valid host,
    a.decidedBy_fault_iff valid host⟩

/-- The first number that is too long to write.  Its digits are never worked out. -/
@[irreducible]
def unwritten : Value := .int (Nat.pow 10 longestNumeral)

theorem unwritten_long : unwritten.isWritable = false := by
  rw [unwritten, Value.isWritable, Text.isWritable, Int.natAbs_natCast]
  exact decide_eq_false (Nat.lt_irrefl _)

open CommandLine in
/-- A name that is too long to write, and a separator attached to the geometry option. -/
theorem refusals_named_iff_textless :
    (∀ e ∈ [(Value.text "name", unwritten)], Settings.isLaunchKey e.1 = true) ∧ ({} : LaunchConfig).Valid ∧
      Settings.launchSection (.table [(.text "name", unwritten)]) = .error (.numeral .tooLongToWrite) ∧
      Arguments.parse ["-s--"] = .ok { display := some .empty } ∧
      Arguments.configure { display := some .empty } {} none = .error (.shape (.noPart "list" "partition")) := by
  have known : ∀ e ∈ [(Value.text "name", unwritten)], Settings.isLaunchKey e.1 = true := by decide
  have valid : ({} : LaunchConfig).Valid :=
    ⟨by decide, by decide, by decide, by decide, by decide, by decide, by decide, .inl rfl, .inl rfl⟩
  have decided := refusals_named_iff known valid { display := some .empty } none
  exact ⟨known, valid, decided.1.1.long_name unwritten_long, by decide, decided.2.1⟩

end CastLaunch
