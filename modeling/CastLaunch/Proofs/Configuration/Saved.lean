import CastLaunch.Proofs.Configuration.Written
import Mathlib.Data.List.Nodup

/-!
A configuration written as a launch section.  What differs from the engine's own choice is
written under its key in the form of its option, and the section read back, with its entries in
any order, is the configuration again.
-/

namespace CastLaunch
open CastLaunch.Text

/-- The value, unless it is the one that stands for none. -/
def unless? {α : Type} [DecidableEq α] (none? a : α) : Option α := if a = none? then none else some a

theorem getD_unless? {α : Type} [DecidableEq α] (none? a : α) : (unless? none? a).getD none? = a := by
  unfold unless?
  split
  · next same => exact same.symm
  · rfl

theorem unless?_eq_some_iff {α : Type} [DecidableEq α] {none? a b : α} :
    unless? none? a = some b ↔ a ≠ none? ∧ a = b := by
  unfold unless?
  split <;> simp_all

namespace Value

variable {entries : List (Value × Value)} {key : String}

theorem find?_of_mem {v : Value} (apart : (entries.map (·.1)).Nodup) (member : (.text key, v) ∈ entries) :
    find? key entries = some v := by
  induction entries with
  | nil => cases member
  | cons e rest ih =>
    obtain ⟨k, w⟩ := e
    obtain ⟨first, later⟩ := List.nodup_cons.mp apart
    rcases List.mem_cons.mp member with same | behind
    · cases same
      rw [find?, if_pos rfl]
    · have other : k ≠ .text key := fun same => first (same ▸ List.mem_map_of_mem (f := (·.1)) behind)
      cases k with
      | text s =>
        rw [find?, if_neg fun same => other (congrArg Value.text same)]
        exact ih later behind
      | _ => exact ih later behind

theorem find?_of_not_mem (absent : ∀ v, (.text key, v) ∉ entries) : find? key entries = none :=
  Option.eq_none_iff_forall_ne_some.mpr fun v found => absent v (Settings.mem_of_find? found)

end Value

namespace Settings.LaunchKey

theorem key_injective {k k' : LaunchKey} (same : k.key = k'.key) : k = k' := by
  cases k with
  | text k =>
    cases k' with
    | text k' => exact congrArg text (TextKey.key_injective same)
    | truth k' => exact absurd same (k.key_ne k')
  | truth k =>
    cases k' with
    | text k' => exact absurd same.symm (k'.key_ne k)
    | truth k' => revert same; cases k <;> cases k' <;> decide

theorem isLaunchKey (k : LaunchKey) : Settings.isLaunchKey (.text k.key) = true := by
  cases k with
  | text k => exact k.isLaunchKey
  | truth k => exact k.isLaunchKey

theorem mem_order (k : LaunchKey) : k ∈ order := by
  cases k with
  | text k => cases k <;> decide
  | truth k => cases k <;> decide

end Settings.LaunchKey

namespace LaunchConfig
open Settings

/-- The geometry as it is written, when the engine does not choose it. -/
def geometry? (c : LaunchConfig) : Option Geometry :=
  (unless? 0 c.width).map fun width => ⟨width, c.height, unless? 0 c.refresh⟩

/-- What is written under a key of texts. -/
def savedText (c : LaunchConfig) : TextKey → Option String
  | .name => some c.name
  | .display => c.geometry?.map Geometry.written
  | .fps => (unless? 0 c.maxFps).map natText
  | .flip => (unless? .none c.flip).map Flip.letter
  | .rotate => (unless? .none c.turn).map Turn.letter
  | .ports => none
  | .tcpPorts => (unless? .dynamic c.tcp).map PortGroup.written
  | .udpPorts => (unless? .dynamic c.udp).map PortGroup.written
  | .videoSink => some c.videoSink
  | .audioSink => some c.audioSink
  | .idleTimeout => some (natText c.idleTimeout)

def savedTruth (c : LaunchConfig) : TruthKey → Bool
  | .overscan => c.overscanned
  | .debugLog => c.debugLog
  | .randomIdentifier => c.randomIdentifier

def saved (c : LaunchConfig) : LaunchKey → Option Value
  | .text k => (c.savedText k).map .text
  | .truth k => some (.bool (c.savedTruth k))

/-- The launch section of the configuration. -/
def entries (c : LaunchConfig) : List (Value × Value) :=
  LaunchKey.order.filterMap fun k => (c.saved k).map fun v => (.text k.key, v)

variable {c : LaunchConfig} {table : List (Value × Value)}

theorem mem_entries_iff {k : LaunchKey} {v : Value} : (.text k.key, v) ∈ c.entries ↔ c.saved k = some v := by
  constructor
  · intro member
    obtain ⟨k', -, given⟩ := List.mem_filterMap.mp member
    obtain ⟨w, kept, same⟩ := Option.map_eq_some_iff.mp given
    obtain ⟨names, rfl⟩ := Prod.mk.inj same
    rw [← LaunchKey.key_injective (Value.text.inj names)]
    exact kept
  · intro kept
    exact List.mem_filterMap.mpr ⟨k, k.mem_order, by rw [kept]; rfl⟩

theorem keys_of_entries : ∀ e ∈ c.entries, ∃ k : LaunchKey, e.1 = .text k.key := by
  intro e member
  obtain ⟨k, -, given⟩ := List.mem_filterMap.mp member
  obtain ⟨v, -, rfl⟩ := Option.map_eq_some_iff.mp given
  exact ⟨k, rfl⟩

theorem nodup_entries (c : LaunchConfig) : (c.entries.map (·.1)).Nodup := by
  rw [entries, List.map_filterMap]
  refine List.Nodup.filterMap ?_ (by decide : LaunchKey.order.Nodup)
  intro k k' key member member'
  simp only [Option.mem_def, Option.map_map, Option.map_eq_some_iff] at member member'
  obtain ⟨v, -, rfl⟩ := member
  obtain ⟨v', -, same⟩ := member'
  exact LaunchKey.key_injective (Value.text.inj same.symm)

/-- Whatever the order of the entries, each key has what was written under it. -/
theorem find?_entries (same : table.Perm c.entries) (k : LaunchKey) : Value.find? k.key table = c.saved k := by
  have apart : (table.map (·.1)).Nodup := (same.map _).nodup_iff.mpr c.nodup_entries
  cases kept : c.saved k with
  | none =>
    refine Value.find?_of_not_mem fun v member => ?_
    rw [mem_entries_iff.mp (same.mem_iff.mp member)] at kept
    cases kept
  | some v => exact Value.find?_of_mem apart (same.mem_iff.mpr (mem_entries_iff.mpr kept))

/-- The values that reading the section gives. -/
def readings (c : LaunchConfig) : Readings where
  name := some c.name
  geometry := c.geometry?
  fps := unless? 0 c.maxFps
  flip := unless? .none c.flip
  turn := unless? .none c.turn
  group := none
  tcp := unless? .dynamic c.tcp
  udp := unless? .dynamic c.udp
  videoSink := some c.videoSink
  audioSink := some c.audioSink
  idle := some c.idleTimeout
  overscan := c.overscanned
  debugLog := c.debugLog
  random := c.randomIdentifier

/-- A configuration that options can express: the engine chooses the whole geometry or no extent, and the
timeout has no more digits than are read. -/
structure Expressible (c : LaunchConfig) : Prop where
  valid : c.Valid
  geometry : c.width = 0 ∧ c.height = 0 ∧ c.refresh = 0 ∨ 0 < c.width ∧ 0 < c.height
  idleTimeout : c.idleTimeout < Nat.pow 10 Limits.countDigits

namespace Expressible

theorem config_readings (expressible : c.Expressible) : c.readings.config = c := by
  have shape : c.readings.shape.width = c.width ∧ c.readings.shape.height = c.height ∧
      c.readings.shape.refresh.getD 0 = c.refresh := by
    rcases expressible.geometry with ⟨width, height, refresh⟩ | ⟨width, height⟩
    · simp [Readings.shape, readings, geometry?, unless?, width, height, refresh]
    · have set : unless? 0 c.width = some c.width := unless?_eq_some_iff.mpr ⟨Nat.ne_of_gt width, rfl⟩
      simp [Readings.shape, readings, geometry?, set, getD_unless?]
  obtain ⟨width, height, refresh⟩ := shape
  unfold Readings.config
  rw [width, height, refresh]
  simp [readings, Settings.chosen, getD_unless?]

theorem geometry?_expressible (expressible : c.Expressible) {g : Geometry} (set : c.geometry? = some g) :
    g.Expressible := by
  obtain ⟨width, given, rfl⟩ := Option.map_eq_some_iff.mp set
  obtain ⟨positive, rfl⟩ := unless?_eq_some_iff.mp given
  rcases expressible.geometry with ⟨zero, -⟩ | ⟨wide, high⟩
  · exact absurd zero positive
  · refine ⟨⟨wide, expressible.valid.width⟩, ⟨high, expressible.valid.height⟩, fun r named => ?_⟩
    obtain ⟨nonzero, rfl⟩ := unless?_eq_some_iff.mp named
    exact ⟨Nat.pos_of_ne_zero nonzero, expressible.valid.refresh⟩

end Expressible

/-- An entry gives `o` when the text written under its key is read as that. -/
theorem entry_text {α : Type} {check : String → String → Except ConfigError α} {read : String → Option α}
    {o : Option α} (same : table.Perm c.entries) (k : TextKey) (reads : check = checked k.reason read)
    (value : (c.savedText k).map read = o.map some) : entry table k.key (textual check) = .ok o := by
  have given : Value.find? k.key table = (c.savedText k).map .text := find?_entries same (.text k)
  rw [entry, given, reads]
  cases text : c.savedText k with
  | none =>
    rw [text] at value
    cases o with
    | none => rfl
    | some a => cases value
  | some s =>
    rw [text] at value
    cases o with
    | none => cases value
    | some a =>
      have same : read s = some a := Option.some.inj value
      show ((checked k.reason read k.inSection s).mapError SettingsError.invalid).map some = _
      rw [checked, same]
      rfl

theorem entry_truth (same : table.Perm c.entries) (k : TruthKey) :
    entry table k.key truth = .ok (some (c.savedTruth k)) := by
  have given : Value.find? k.key table = some (.bool (c.savedTruth k)) := find?_entries same (.truth k)
  rw [entry, given]
  rfl

theorem map_read_unless? {α : Type} [DecidableEq α] {none? a : α} {write : α → String} {read : String → Option α}
    (back : a ≠ none? → read (write a) = some a) :
    ((unless? none? a).map write).map read = (unless? none? a).map some := by
  by_cases same : a = none?
  · simp [unless?, same]
  · simp [unless?, same, back same]

theorem bind_of_ok {ε α β : Type} {x : Except ε α} {a : α} (made : x = .ok a) (f : α → Except ε β) :
    (x >>= f) = f a := by
  rw [made]
  rfl

namespace Expressible

theorem read_geometry (expressible : c.Expressible) :
    (c.savedText .display).map (fun s => Geometry.read? s.toList) = c.readings.geometry.map some := by
  show (c.geometry?.map Geometry.written).map _ = c.geometry?.map some
  cases set : c.geometry? with
  | none => rfl
  | some g => exact congrArg some (Geometry.read?_written (expressible.geometry?_expressible set))

theorem read_fps (expressible : c.Expressible) :
    (c.savedText .fps).map (fun s => Count.read? Limits.maxFps s.toList) = c.readings.fps.map some := by
  have cap := expressible.valid.maxFps
  refine map_read_unless? fun given => ?_
  exact Count.read?_natText (Nat.pos_of_ne_zero given) (Nat.lt_of_le_of_lt cap (by decide)) (.inr cap)

theorem read_ports {t : PortTriple} (valid : t.Valid) :
    ((unless? .dynamic t).map PortGroup.written).map PortGroup.readTriple? = (unless? .dynamic t).map some := by
  refine map_read_unless? fun configured => ?_
  rcases valid with dynamic | ⟨bounds, distinct⟩
  · exact absurd dynamic configured
  · exact PortGroup.readTriple?_written bounds distinct

theorem launchOfEntries (expressible : c.Expressible) (same : table.Perm c.entries) :
    launchOfEntries table = .ok c := by
  have valid := expressible.valid
  have visible : ∀ {s}, allBlank s = false → (some s).map Selector.read? = (some s).map some := fun h =>
    congrArg some (Selector.read?_of_not_blank h)
  have flip : (c.savedText .flip).map Flip.read? = c.readings.flip.map some := map_read_unless? Flip.read?_letter
  have turn : (c.savedText .rotate).map Turn.read? = c.readings.turn.map some := map_read_unless? Turn.read?_letter
  have tcp : (c.savedText .tcpPorts).map PortGroup.readTriple? = c.readings.tcp.map some := read_ports valid.tcp
  have udp : (c.savedText .udpPorts).map PortGroup.readTriple? = c.readings.udp.map some := read_ports valid.udp
  have idle : (c.savedText .idleTimeout).map seconds? = c.readings.idle.map some :=
    congrArg some (seconds?_natText expressible.idleTimeout)
  -- The values are read in the order of the keys, each back from what was written.
  refine (bind_of_ok (entry_text same .name Selector.parse_eq (visible valid.name)) _).trans ?_
  refine (bind_of_ok (entry_text same .display Geometry.parse_eq expressible.read_geometry) _).trans ?_
  refine (bind_of_ok (entry_text same .fps (Count.parse_eq _) expressible.read_fps) _).trans ?_
  refine (bind_of_ok (entry_truth same .overscan) _).trans ?_
  refine (bind_of_ok (entry_text same .flip Flip.parse_eq flip) _).trans ?_
  refine (bind_of_ok (entry_text same .rotate Turn.parse_eq turn) _).trans ?_
  refine (bind_of_ok (entry_text same .ports (o := c.readings.group) PortGroup.parseTriple_eq rfl) _).trans ?_
  refine (bind_of_ok (entry_text same .tcpPorts PortGroup.parseTriple_eq tcp) _).trans ?_
  refine (bind_of_ok (entry_text same .udpPorts PortGroup.parseTriple_eq udp) _).trans ?_
  refine (bind_of_ok (entry_text same .videoSink Selector.parse_eq (visible valid.videoSink)) _).trans ?_
  refine (bind_of_ok (entry_text same .audioSink Selector.parse_eq (visible valid.audioSink)) _).trans ?_
  refine (bind_of_ok (entry_truth same .debugLog) _).trans ?_
  refine (bind_of_ok (entry_text same .idleTimeout seconds_eq idle) _).trans ?_
  refine (bind_of_ok (entry_truth same .randomIdentifier) _).trans ?_
  have draft := c.readings.toDraft_config
  rw [expressible.config_readings] at draft
  have validated := Draft.validate_toDraft valid
  rw [draft] at validated
  exact congrArg (Except.mapError SettingsError.invalid) validated

end Expressible

end LaunchConfig

/-- Settings with the launch section of an expressible configuration, in any order, hold that configuration. -/
theorem ofEntries_saved {c : LaunchConfig} (expressible : c.Expressible) {table : List (Value × Value)}
    (same : table.Perm c.entries) : Settings.ofEntries [(.text "server", .table table)] = .ok { launch := c } := by
  have known : ∀ e ∈ table, Settings.isLaunchKey e.1 = true := by
    intro e member
    obtain ⟨k, key⟩ := LaunchConfig.keys_of_entries e (same.mem_iff.mp member)
    rw [key]
    exact k.isLaunchKey
  have read : Settings.launchSection (.table table) = .ok c :=
    (Settings.launchSection_of_known known).trans (expressible.launchOfEntries same)
  have named : (Value.text "name", Value.text c.name) ∈ table :=
    same.mem_iff.mpr (LaunchConfig.mem_entries_iff.mpr rfl : (.text (Settings.LaunchKey.text .name).key, _) ∈ c.entries)
  cases table with
  | nil => cases named
  | cons e rest => exact LaunchConfig.bind_of_ok read _

/-- A configuration in which every value is set. -/
def turnedAround : LaunchConfig :=
  { name := "Den", width := 1920, height := 1080, refresh := 60, maxFps := 30, overscanned := true
    tcp := ⟨7100, 7000, 7001⟩, udp := ⟨65535, 1024, 6000⟩, flip := .both, turn := .left, videoSink := "0"
    debugLog := true, idleTimeout := 9999999999, randomIdentifier := true }

theorem ofEntries_saved_turnedAround :
    turnedAround.Expressible ∧ turnedAround.entries.reverse.Perm turnedAround.entries ∧
      Value.find? "display" turnedAround.entries.reverse = some (.text "1920x1080@60") ∧
      Settings.ofEntries [(.text "server", .table turnedAround.entries.reverse)] = .ok { launch := turnedAround } := by
  have expressible : turnedAround.Expressible :=
    { valid := ⟨by decide, by decide, by decide, by decide, by decide, by decide, by decide, by decide, by decide⟩
      geometry := .inr (by decide)
      idleTimeout := by decide }
  have same := List.reverse_perm turnedAround.entries
  exact ⟨expressible, same, rfl, ofEntries_saved expressible same⟩

end CastLaunch
