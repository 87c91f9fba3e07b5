import CastLaunch.Proofs.CommandLine.Transports
import CastLaunch.Proofs.Configuration.Geometries
import CastLaunch.Proofs.Configuration.Saved

/-!
What the options make of a base.  Each field of the configuration has its value from the options that own it, or
else from the base, and a host name follows the name.  So a field stays what it is as long as its own options say
the same, whatever becomes of the others.
-/

namespace CastLaunch
open CastLaunch.Text

/-! The check of a draft changes no value. -/

theorem exists_of_bind_ok {ε α β : Type} {x : Except ε α} {f : α → Except ε β} {b : β} (made : x >>= f = .ok b) :
    ∃ a, x = .ok a ∧ f a = .ok b := by
  cases x with
  | error => cases made
  | ok a => exact ⟨a, rfl, made⟩

theorem Decided.firstRefused_of_ok {κ ε α : Type} {accepts : κ → Bool} {refusal : κ → ε} {P : α → Prop} {given : List κ}
    {a : α} (decided : Decided accepts refusal P given (.ok a)) : firstRefused accepts given = none := by
  rw [Decided] at decided
  split at decided
  · cases decided
  · assumption

theorem cast_of_checkRange {flag label : String} {value maximum : Int} {n : Nat}
    (ok : checkRange flag label value maximum = .ok n) : (n : Int) = value := by
  unfold checkRange at ok
  split at ok
  · next bounds =>
    cases ok
    exact Int.toNat_of_nonneg bounds.1
  · cases ok

theorem cast_of_checkTimeout {seconds : Int} {n : Nat} (ok : checkTimeout seconds = .ok n) : (n : Int) = seconds := by
  unfold checkTimeout at ok
  split at ok
  · next positive =>
    cases ok
    exact Int.toNat_of_nonneg positive
  · cases ok

theorem cast_of_checkTriple {flag : String} {ports : List Int} {t : PortTriple} (ok : checkTriple flag ports = .ok t) :
    t.toList.map Int.ofNat = ports := by
  unfold checkTriple at ok
  split at ok
  · next a b c =>
    split at ok
    · next zero =>
      cases ok
      exact zero.symm
    · split at ok
      · next bounds =>
        cases ok
        have back : ∀ p ∈ [a, b, c], Int.ofNat p.toNat = p := by
          intro p member
          have inside := List.all_eq_true.mp bounds.1 p member
          simp only [Bool.and_eq_true, decide_eq_true_eq] at inside
          exact Int.toNat_of_nonneg (by omega)
        exact (List.map_congr_left back).trans (List.map_id' [a, b, c])
      · cases ok
  · cases ok

theorem Draft.toDraft_of_validate {d : Draft} {c : LaunchConfig} (ok : d.validate = .ok c) : c.toDraft = d := by
  obtain ⟨name, named, ok⟩ := exists_of_bind_ok ok
  obtain ⟨videoSink, video, ok⟩ := exists_of_bind_ok ok
  obtain ⟨audioSink, audio, ok⟩ := exists_of_bind_ok ok
  obtain ⟨width, wide, ok⟩ := exists_of_bind_ok ok
  obtain ⟨height, high, ok⟩ := exists_of_bind_ok ok
  obtain ⟨refresh, fast, ok⟩ := exists_of_bind_ok ok
  obtain ⟨maxFps, frames, ok⟩ := exists_of_bind_ok ok
  obtain ⟨idleTimeout, idle, ok⟩ := exists_of_bind_ok ok
  obtain ⟨tcp, tcpPorts, ok⟩ := exists_of_bind_ok ok
  obtain ⟨udp, udpPorts, ok⟩ := exists_of_bind_ok ok
  cases ok
  simp only [LaunchConfig.toDraft, ← (Selector.parse_ok_iff.mp named).2, ← (Selector.parse_ok_iff.mp video).2,
    ← (Selector.parse_ok_iff.mp audio).2, cast_of_checkRange wide, cast_of_checkRange high, cast_of_checkRange fast,
    cast_of_checkRange frames, cast_of_checkTimeout idle, cast_of_checkTriple tcpPorts, cast_of_checkTriple udpPorts]

namespace CommandLine

namespace OptValue

variable {α : Type} {read : String → Option α} {inherited v w : α} {o : Option OptValue}

/-- The value of an option, read from its text or inherited when the option is not given. -/
def Gives (read : String → Option α) (inherited : α) : Option OptValue → α → Prop
  | none, v => v = inherited
  | some (.text s), v => read s = some v
  | some .empty, _ => False

theorem Gives.unique (first : Gives read inherited o v) (second : Gives read inherited o w) : v = w := by
  rcases o with - | s | -
  · exact first.trans second.symm
  · exact Option.some.inj (first.symm.trans second)
  · exact first.elim

theorem gives_of_checked {reason : String → Reason} {flag s : String} {r : Option α}
    (made : Except.asOverride ((checked reason read flag s).map some) = .ok r) :
    Gives read inherited (some (.text s)) (r.getD inherited) := by
  rw [checked] at made
  cases value : read s with
  | none =>
    rw [value] at made
    cases made
  | some a =>
    rw [value] at made
    cases made
    exact value

theorem gives_of_read {flag : String} {why : Reason} {check : String → String → Except ConfigError α}
    {reason : String → Reason} {r : Option α} (reads : check = checked reason read)
    (made : OptValue.read flag why (check flag) o = .ok r) (inherited : α) :
    Gives read inherited o (r.getD inherited) := by
  rcases o with - | s | -
  · cases made
    rfl
  · rw [reads] at made
    exact gives_of_checked made
  · cases made

theorem gives_of_readGeometry {r : Option Geometry} (made : OptValue.readGeometry o = .ok r) (inherited : Geometry) :
    Gives (fun s => Geometry.read? s.toList) inherited o (r.getD inherited) := by
  rcases o with - | s | -
  · cases made
    rfl
  · rw [readGeometry, Geometry.parse_eq] at made
    exact gives_of_checked made
  · cases made

theorem exists_read_of_gives {flag : String} {why : Reason} {check : String → String → Except ConfigError α}
    {reason : String → Reason} (gives : Gives read inherited o v) (reads : check = checked reason read) :
    ∃ r, OptValue.read flag why (check flag) o = .ok r := by
  rcases o with - | s | -
  · exact ⟨none, rfl⟩
  · have given : read s = some v := gives
    refine ⟨some v, ?_⟩
    rw [reads, OptValue.read, checked, given]
    rfl
  · exact gives.elim

/-- An option that gives a value is not refused. -/
theorem Gives.firstRefused_eq_none (gives : Gives read inherited o v) (k : TextKey)
    (accepts : ∀ s, k.accepts s = (read s).isSome) :
    firstRefused Supplied.accepted (suppliedValue k o) = none := by
  rcases o with - | s | -
  · rfl
  · have given : read s = some v := gives
    have passes : Supplied.accepted (.value k (.text s)) = true := by
      rw [Supplied.accepted, accepts, given]
      rfl
    show firstRefused _ [_] = none
    rw [firstRefused, List.find?_singleton, passes]
    rfl
  · exact gives.elim

end OptValue

open OptValue

/-- What each option makes of the base. -/
structure Arguments.Overrides (a : Arguments) (base : LaunchConfig) (host : Option String) (c : LaunchConfig) :
    Prop where
  name : ∃ own, Gives Selector.read? base.name a.name own ∧
    c.name = if host.getD "" = "" then own else own ++ "@" ++ host.getD ""
  display : ∃ g, Gives (fun s => Geometry.read? s.toList) ⟨base.width, base.height, none⟩ a.display g ∧
    c.width = g.width ∧ c.height = g.height ∧ c.refresh = g.refresh.getD base.refresh
  maxFps : Gives (fun s => Count.read? Limits.maxFps s.toList) base.maxFps a.fps c.maxFps
  overscanned : c.overscanned = (a.overscan || base.overscanned)
  flip : Gives Flip.read? base.flip a.flip c.flip
  turn : Gives Turn.read? base.turn a.turn c.turn
  ports : PortPair.apply ⟨base.tcp, base.udp⟩ (a.ports.getD []) = .ok ⟨c.tcp, c.udp⟩
  videoSink : Gives Selector.read? base.videoSink a.videoSink c.videoSink
  audioSink : ∃ own, Gives Selector.read? base.audioSink a.audioSink own ∧
    c.audioSink = if a.audioOff then Limits.sinkDisabled else own
  randomIdentifier : c.randomIdentifier = (a.randomIdentifier || base.randomIdentifier)
  debugLog : c.debugLog ≠ base.debugLog ↔ a.debugToggles % 2 = 1
  idleTimeout : Gives (fun s => Count.read? 0 s.toList) base.idleTimeout a.idleTimeout c.idleTimeout

/-- Two command lines beside each other: a field on which the options that own it agree is the same. -/
structure Framed (a b : Arguments) (host host' : Option String) (c d : LaunchConfig) : Prop where
  name : a.name = b.name → host = host' → c.name = d.name
  display : a.display = b.display → c.width = d.width ∧ c.height = d.height ∧ c.refresh = d.refresh
  maxFps : a.fps = b.fps → c.maxFps = d.maxFps
  overscanned : a.overscan = b.overscan → c.overscanned = d.overscanned
  flip : a.flip = b.flip → c.flip = d.flip
  turn : a.turn = b.turn → c.turn = d.turn
  ports : ∀ t : Transport, (a.ports.getD []).filter t.isAddressed = (b.ports.getD []).filter t.isAddressed →
    PortPair.ports ⟨c.tcp, c.udp⟩ t = PortPair.ports ⟨d.tcp, d.udp⟩ t
  videoSink : a.videoSink = b.videoSink → c.videoSink = d.videoSink
  audioSink : a.audioSink = b.audioSink → a.audioOff = b.audioOff → c.audioSink = d.audioSink
  randomIdentifier : a.randomIdentifier = b.randomIdentifier → c.randomIdentifier = d.randomIdentifier
  debugLog : a.debugToggles % 2 = b.debugToggles % 2 → c.debugLog = d.debugLog
  idleTimeout : a.idleTimeout = b.idleTimeout → c.idleTimeout = d.idleTimeout

variable {a b : Arguments} {base c d : LaunchConfig} {host host' : Option String}

theorem hostedName_eq (name : String) (host : Option String) :
    hostedName name host = if host.getD "" = "" then name else name ++ "@" ++ host.getD "" := by
  cases host <;> rfl

theorem eq_of_map_toList {t u : PortTriple} (same : t.toList.map Int.ofNat = u.toList.map Int.ofNat) : t = u := by
  have lists : t.toList = u.toList := List.map_injective_iff.mpr (fun _ _ => Int.ofNat.inj) same
  exact Option.some.inj ((PortTriple.ofList?_toList t).symm.trans (lists ▸ PortTriple.ofList?_toList u))

theorem natCast_getD {n inherited : Nat} {o : Option Nat}
    (same : (n : Int) = (o.map fun m => (m : Int)).getD inherited) : n = o.getD inherited := by
  cases o <;> exact Int.ofNat.inj same

theorem extents_of_casts {geometry : Option Geometry}
    (width : (c.width : Int) = (geometry.map fun g => (g.width : Int)).getD base.width)
    (height : (c.height : Int) = (geometry.map fun g => (g.height : Int)).getD base.height)
    (refresh : (c.refresh : Int) = (geometry.map fun g => g.refreshOr base.refresh).getD (base.refresh : Int)) :
    let g := geometry.getD ⟨base.width, base.height, none⟩
    c.width = g.width ∧ c.height = g.height ∧ c.refresh = g.refresh.getD base.refresh := by
  cases geometry with
  | none => exact ⟨Int.ofNat.inj width, Int.ofNat.inj height, Int.ofNat.inj refresh⟩
  | some g =>
    obtain ⟨w, h, rate⟩ := g
    refine ⟨Int.ofNat.inj width, Int.ofNat.inj height, ?_⟩
    cases rate <;> exact Int.ofNat.inj refresh

theorem asOverride_eq_ok_iff {α : Type} {x : Except ConfigError α} {v : α} :
    Except.asOverride x = .ok v ↔ x = .ok v := by
  cases x <;> simp [Except.asOverride]

theorem overrides_of_ok (made : a.configure base host = .ok c) : a.Overrides base host c := by
  -- A configuration tells what each check before it gave, and its own draft is what was made of that.
  obtain ⟨name, nameRead, made⟩ := exists_of_bind_ok made
  obtain ⟨geometry, geometryRead, made⟩ := exists_of_bind_ok made
  obtain ⟨fps, fpsRead, made⟩ := exists_of_bind_ok made
  obtain ⟨flip, flipRead, made⟩ := exists_of_bind_ok made
  obtain ⟨turn, turnRead, made⟩ := exists_of_bind_ok made
  obtain ⟨ports, portsRead, made⟩ := exists_of_bind_ok made
  obtain ⟨videoSink, videoRead, made⟩ := exists_of_bind_ok made
  obtain ⟨audioSink, audioRead, made⟩ := exists_of_bind_ok made
  obtain ⟨idle, idleRead, made⟩ := exists_of_bind_ok made
  have draft := Draft.toDraft_of_validate (asOverride_eq_ok_iff.mp made)
  have tcp : c.tcp = ports.tcp := eq_of_map_toList (congrArg Draft.tcp draft)
  have udp : c.udp = ports.udp := eq_of_map_toList (congrArg Draft.udp draft)
  exact
    { name := ⟨_, gives_of_read Selector.parse_eq nameRead _, (congrArg Draft.name draft).trans (hostedName_eq _ host)⟩
      display := ⟨_, gives_of_readGeometry geometryRead _,
        extents_of_casts (congrArg Draft.width draft) (congrArg Draft.height draft) (congrArg Draft.refresh draft)⟩
      maxFps := by
        rw [natCast_getD (congrArg Draft.maxFps draft)]
        exact gives_of_read (Count.parse_eq _) fpsRead _
      overscanned := congrArg Draft.overscanned draft
      flip := by
        rw [show c.flip = flip.getD base.flip from congrArg Draft.flip draft]
        exact gives_of_read Flip.parse_eq flipRead _
      turn := by
        rw [show c.turn = turn.getD base.turn from congrArg Draft.turn draft]
        exact gives_of_read Turn.parse_eq turnRead _
      ports := by
        rw [tcp, udp]
        exact asOverride_eq_ok_iff.mp portsRead
      videoSink := by
        rw [show c.videoSink = videoSink.getD base.videoSink from congrArg Draft.videoSink draft]
        exact gives_of_read Selector.parse_eq videoRead _
      audioSink := ⟨_, gives_of_read Selector.parse_eq audioRead _, congrArg Draft.audioSink draft⟩
      randomIdentifier := congrArg Draft.randomIdentifier draft
      debugLog := by
        rw [show c.debugLog = if a.debugToggles % 2 = 1 then !base.debugLog else base.debugLog from
          congrArg Draft.debugLog draft]
        split <;> simp_all
      idleTimeout := by
        rw [natCast_getD (congrArg Draft.idleTimeout draft)]
        exact gives_of_read (Count.parse_eq 0) idleRead _ }

theorem Arguments.Overrides.framed (first : a.Overrides base host c) (second : b.Overrides base host' d) :
    Framed a b host host' c d where
  name same there := by
    obtain ⟨own, gives, named⟩ := first.name
    obtain ⟨own', gives', named'⟩ := second.name
    rw [same] at gives
    rw [named, named', gives.unique gives', there]
  display same := by
    obtain ⟨g, gives, width, height, refresh⟩ := first.display
    obtain ⟨g', gives', width', height', refresh'⟩ := second.display
    rw [same] at gives
    rw [width, height, refresh, width', height', refresh', gives.unique gives']
    exact ⟨rfl, rfl, rfl⟩
  maxFps same := first.maxFps.unique (same ▸ second.maxFps)
  overscanned same := by rw [first.overscanned, second.overscanned, same]
  flip same := first.flip.unique (same ▸ second.flip)
  turn same := first.turn.unique (same ▸ second.turn)
  ports t same := by
    obtain ⟨p, alone, own⟩ := PortPair.apply_filter first.ports t
    obtain ⟨q, alone', own'⟩ := PortPair.apply_filter second.ports t
    rw [same, alone'] at alone
    cases alone
    exact own.symm.trans own'
  videoSink same := first.videoSink.unique (same ▸ second.videoSink)
  audioSink same off := by
    obtain ⟨own, gives, set⟩ := first.audioSink
    obtain ⟨own', gives', set'⟩ := second.audioSink
    rw [same] at gives
    rw [set, set', gives.unique gives', off]
  randomIdentifier same := by rw [first.randomIdentifier, second.randomIdentifier, same]
  debugLog same := by
    have flipped := first.debugLog
    rw [same, ← second.debugLog] at flipped
    revert flipped
    cases c.debugLog <;> cases d.debugLog <;> cases base.debugLog <;> decide
  idleTimeout same := first.idleTimeout.unique (same ▸ second.idleTimeout)

theorem Arguments.Overrides.unique (first : a.Overrides base host c) (second : a.Overrides base host d) : c = d := by
  have framed := first.framed second
  obtain ⟨width, height, refresh⟩ := framed.display rfl
  have tcp : c.tcp = d.tcp := framed.ports .tcp rfl
  have udp : c.udp = d.udp := framed.ports .udp rfl
  cases c
  cases d
  simp only [LaunchConfig.mk.injEq]
  exact ⟨framed.name rfl rfl, width, height, refresh, framed.maxFps rfl, framed.overscanned rfl, tcp, udp,
    framed.flip rfl, framed.turn rfl, framed.videoSink rfl, framed.audioSink rfl rfl, framed.debugLog rfl,
    framed.idleTimeout rfl, framed.randomIdentifier rfl⟩

/-- Options that override a base are not refused. -/
theorem Arguments.Overrides.firstRefused_eq_none (overrides : a.Overrides base host c) (valid : base.Valid) :
    firstRefused Supplied.accepted a.supplied = none := by
  obtain ⟨own, name, -⟩ := overrides.name
  obtain ⟨g, display, -⟩ := overrides.display
  obtain ⟨sink, audioSink, -⟩ := overrides.audioSink
  have ports : firstRefused Supplied.accepted ((a.ports.getD []).map .ports) = none := by
    have decided := apply_decided (p := ⟨base.tcp, base.udp⟩) ⟨valid.tcp, valid.udp⟩ (a.ports.getD [])
    rw [overrides.ports] at decided
    exact decided.firstRefused_of_ok
  simp only [supplied, Decided.firstRefused_append, name.firstRefused_eq_none .name fun _ => rfl,
    display.firstRefused_eq_none .display fun _ => rfl, overrides.maxFps.firstRefused_eq_none .fps fun _ => rfl,
    overrides.flip.firstRefused_eq_none .flip fun _ => rfl,
    overrides.turn.firstRefused_eq_none .rotate fun _ => rfl, ports,
    overrides.videoSink.firstRefused_eq_none .videoSink fun _ => rfl,
    audioSink.firstRefused_eq_none .audioSink fun _ => rfl,
    overrides.idleTimeout.firstRefused_eq_none .idleTimeout fun _ => rfl]
  rfl

theorem configure_eq_ok_iff (valid : base.Valid) : a.configure base host = .ok c ↔ a.Overrides base host c := by
  refine ⟨overrides_of_ok, fun overrides => ?_⟩
  -- As nothing is refused there is a configuration, and no other one is what the options say.
  have decided := a.decidedBy_refusal valid host
  rw [Arguments.DecidedBy, Decided, overrides.firstRefused_eq_none valid] at decided
  obtain ⟨d, made, -⟩ := decided
  rw [made, (overrides_of_ok made).unique overrides]

/-- Without an option every field is inherited. -/
theorem overrides_nothing (unnamed : host.getD "" = "") : Arguments.Overrides {} base host base where
  name := ⟨base.name, rfl, (if_pos unnamed).symm⟩
  display := ⟨_, rfl, rfl, rfl, rfl⟩
  maxFps := rfl
  overscanned := rfl
  flip := rfl
  turn := rfl
  ports := rfl
  videoSink := rfl
  audioSink := ⟨base.audioSink, rfl, rfl⟩
  randomIdentifier := rfl
  debugLog := by simp
  idleTimeout := rfl

/-- Switching audio off is the sink that stands for none, as long as another sink that is given is not refused. -/
theorem configure_audioOff {own : String} (gives : Gives Selector.read? base.audioSink a.audioSink own) :
    Arguments.configure { a with audioOff := true } base host =
      Arguments.configure { a with audioSink := some (.text "0"), audioOff := false } base host := by
  obtain ⟨sink, read⟩ : ∃ sink, OptValue.read "-as" .blank (Selector.parse "-as") a.audioSink = .ok sink :=
    exists_read_of_gives gives Selector.parse_eq
  have zero : OptValue.read "-as" .blank (Selector.parse "-as") (some (.text "0")) = .ok (some "0") := rfl
  simp only [Arguments.configure, read, zero]
  rfl

/-- Over a valid base the options make the configuration that they say field by field, or none at all.  A refresh
rate is set by an at sign only, no option and no host name leave the base as it is, switching audio off amounts to
its sink, and whatever becomes of the other options, a field stays the same as long as its own say the same. -/
theorem Arguments.configure_overrides (valid : base.Valid) (a : Arguments) (host : Option String) :
    (∀ c, a.configure base host = .ok c ↔ a.Overrides base host c) ∧
      (∀ s g, Geometry.read? s = some g ↔ Geometry.Spelled s g) ∧
      (∀ s g, Geometry.read? s = some g → (g.refresh ≠ none ↔ '@' ∈ s)) ∧
      (host.getD "" = "" → Arguments.configure {} base host = .ok base) ∧
      (∀ own, Gives Selector.read? base.audioSink a.audioSink own →
        Arguments.configure { a with audioOff := true } base host =
          Arguments.configure { a with audioSink := some (.text "0"), audioOff := false } base host) ∧
      ∀ b host' c d, a.configure base host = .ok c → b.configure base host' = .ok d → Framed a b host host' c d := by
  refine ⟨fun c => configure_eq_ok_iff valid, fun s g => Geometry.read?_eq_some_iff, fun s g read => ?_,
    fun unnamed => ?_, fun own => configure_audioOff, fun b host' c d made made' => ?_⟩
  · exact (Geometry.read?_eq_some_iff.mp read).refresh_iff
  · exact (configure_eq_ok_iff valid).mpr (overrides_nothing unnamed)
  · exact (overrides_of_ok made).framed (overrides_of_ok made')

/-- A geometry without a rate, ports for one transport, and three toggles over a base with all values set. -/
theorem Arguments.configure_overrides_turnedAround :
    let a : Arguments :=
      { name := some (.text "Attic"), display := some (.text "1280x720"), ports := some [["tcp", "7000"]]
        audioOff := true, debugToggles := 3 }
    let c : LaunchConfig :=
      { turnedAround with
        name := "Attic@loft", width := 1280, height := 720, tcp := ⟨7000, 7001, 7002⟩, audioSink := "0"
        debugLog := false }
    turnedAround.Valid ∧ a.configure turnedAround (some "loft") = .ok c ∧ a.Overrides turnedAround (some "loft") c ∧
      Arguments.configure {} turnedAround (some "") = .ok turnedAround ∧
      Arguments.configure { a with audioSink := some (.text "0"), audioOff := false } turnedAround (some "loft") =
        .ok c ∧
      Framed a {} (some "loft") (some "") c turnedAround := by
  intro a c
  have valid : turnedAround.Valid :=
    ⟨by decide, by decide, by decide, by decide, by decide, by decide, by decide, by decide, by decide⟩
  have made : a.configure turnedAround (some "loft") = .ok c := by decide
  obtain ⟨made_iff, -, -, -, off, frames⟩ := Arguments.configure_overrides valid a (some "loft")
  obtain ⟨-, -, -, inherits, -, -⟩ := Arguments.configure_overrides valid {} (some "")
  have inherited := inherits rfl
  have silent := off turnedAround.audioSink rfl
  exact ⟨valid, made, (made_iff c).mp made, inherited, silent.symm.trans made,
    frames {} (some "") c turnedAround made inherited⟩

end CommandLine

end CastLaunch
