import CastLaunch.Proofs.Configuration.Checks
import CastLaunch.Settings.Sections

/-!
The entries of a launch section.  A key holds either a text, which passes through the
check of its option, or a truth value, which is never refused.  A section of such
entries has no unknown keys and is read entry by entry.
-/

namespace CastLaunch
open CastLaunch.Text

/-- The keys of a launch section that hold texts. -/
inductive TextKey where
  | name
  | display
  | fps
  | flip
  | rotate
  | ports
  | tcpPorts
  | udpPorts
  | videoSink
  | audioSink
  | idleTimeout
  deriving DecidableEq, Repr

namespace TextKey

def key : TextKey → String
  | name => "name"
  | display => "display"
  | fps => "fps"
  | flip => "flip"
  | rotate => "rotate"
  | ports => "ports"
  | tcpPorts => "tcp_ports"
  | udpPorts => "udp_ports"
  | videoSink => "video_sink"
  | audioSink => "audio_sink"
  | idleTimeout => "idle_timeout"

def inSection (k : TextKey) : String := "server." ++ k.key

/-- The option that carries the text on a command line. -/
def option : TextKey → String
  | name => "-n"
  | display => "-s"
  | fps => "-fps"
  | flip => "-f"
  | rotate => "-r"
  | ports => "-p"
  | tcpPorts => "-p tcp"
  | udpPorts => "-p udp"
  | videoSink => "-vs"
  | audioSink => "-as"
  | idleTimeout => "-t"

/-- Why the text is refused, under the name that it was given by. -/
def reason : TextKey → String → Reason
  | name, _ | videoSink, _ | audioSink, _ => .blank
  | display, flag => .geometry flag
  | fps, flag => .count flag Limits.maxFps
  | flip, _ => .flip
  | rotate, _ => .rotation
  | ports, _ | tcpPorts, _ | udpPorts, _ => .portGroup Limits.portGroupSize
  | idleTimeout, flag => .count flag 0

end TextKey

/-- The keys of a launch section that hold truth values. -/
inductive TruthKey where
  | overscan
  | debugLog
  | randomIdentifier
  deriving DecidableEq, Repr

def TruthKey.key : TruthKey → String
  | overscan => "overscan"
  | debugLog => "debug_log"
  | randomIdentifier => "random_identifier"

theorem TextKey.key_ne (k : TextKey) (k' : TruthKey) : k.key ≠ k'.key := by
  cases k <;> cases k' <;> decide

theorem TextKey.key_injective {k k' : TextKey} (h : k.key = k'.key) : k = k' := by
  revert h
  cases k <;> cases k' <;> decide

theorem TextKey.isLaunchKey (k : TextKey) : Settings.isLaunchKey (.text k.key) = true := by
  cases k <;> decide

theorem TruthKey.isLaunchKey (k : TruthKey) : Settings.isLaunchKey (.text k.key) = true := by
  cases k <;> decide

/-- An entry with the text of an option, or with a truth value.  A timeout of zero has no option. -/
inductive PlainEntry : Value × Value → Prop
  | text (k : TextKey) (s : String) (set : k = .idleTimeout → s ≠ "0") : PlainEntry (.text k.key, .text s)
  | truth (k : TruthKey) (b : Bool) : PlainEntry (.text k.key, .bool b)

theorem PlainEntry.timeout {s : String} (h : PlainEntry (.text TextKey.idleTimeout.key, .text s)) : s ≠ "0" := by
  generalize key : TextKey.idleTimeout.key = name at h
  cases h with
  | text k s set => exact set (TextKey.key_injective key).symm

namespace Settings

variable {entries : List (Value × Value)}

def text? (entries : List (Value × Value)) (k : TextKey) : Option String :=
  match Value.find? k.key entries with
  | some (.text s) => some s
  | _ => none

def isSet (entries : List (Value × Value)) (k : TruthKey) : Bool :=
  match Value.find? k.key entries with
  | some (.bool b) => b
  | _ => false

theorem mem_of_find? {key : String} {v : Value} (h : Value.find? key entries = some v) : (.text key, v) ∈ entries := by
  induction entries with
  | nil => cases h
  | cons e rest ih =>
    obtain ⟨k, w⟩ := e
    cases k
    case text s =>
      rw [Value.find?] at h
      split at h
      · next same =>
        cases h
        exact List.mem_cons.mpr (.inl (by rw [same]))
      · exact List.mem_cons_of_mem _ (ih h)
    all_goals exact List.mem_cons_of_mem _ (ih h)

theorem find?_text (plain : ∀ e ∈ entries, PlainEntry e) (k : TextKey) :
    Value.find? k.key entries = (text? entries k).map .text := by
  rw [text?]
  cases found : Value.find? k.key entries with
  | none => rfl
  | some v =>
    generalize key : k.key = s at found
    have entry := plain _ (mem_of_find? found)
    cases entry with
    | text k' s => rfl
    | truth k' b => exact absurd key (k.key_ne k')

theorem find?_truth (plain : ∀ e ∈ entries, PlainEntry e) (k : TruthKey) :
    Value.find? k.key entries = none ∧ isSet entries k = false ∨
      Value.find? k.key entries = some (.bool (isSet entries k)) := by
  rw [isSet]
  cases found : Value.find? k.key entries with
  | none => exact .inl ⟨rfl, rfl⟩
  | some v =>
    generalize key : k.key = s at found
    have entry := plain _ (mem_of_find? found)
    cases entry with
    | text k' s => exact absurd key.symm (k'.key_ne k)
    | truth k' b => exact .inr rfl

theorem find?_of_text? {k : TextKey} {s : String} (given : text? entries k = some s) :
    Value.find? k.key entries = some (.text s) := by
  rw [text?] at given
  split at given
  · next found =>
    cases given
    exact found
  · cases given

theorem text?_timeout (plain : ∀ e ∈ entries, PlainEntry e) {s : String} (given : text? entries .idleTimeout = some s) :
    s ≠ "0" :=
  (plain _ (mem_of_find? (find?_of_text? given))).timeout

theorem entry_textual {α : Type} (plain : ∀ e ∈ entries, PlainEntry e) (k : TextKey)
    (check : String → String → Except ConfigError α) :
    entry entries k.key (textual check) = match text? entries k with
      | none => .ok none
      | some s => ((check k.inSection s).mapError .invalid).map some := by
  rw [entry, find?_text plain]
  cases text? entries k <;> rfl

theorem entry_truth (plain : ∀ e ∈ entries, PlainEntry e) (k : TruthKey) :
    ∃ o, entry entries k.key truth = .ok o ∧ o.getD false = isSet entries k := by
  rw [entry]
  rcases find?_truth plain k with ⟨missing, unset⟩ | given
  · rw [missing, unset]
    exact ⟨none, rfl, rfl⟩
  · rw [given]
    exact ⟨some (isSet entries k), rfl, rfl⟩

theorem launchSection_of_known (known : ∀ e ∈ entries, isLaunchKey e.1 = true) :
    launchSection (.table entries) = launchOfEntries entries := by
  have unknown : (entries.map (·.1)).filter (fun k => !isLaunchKey k) = [] := by
    refine List.filter_eq_nil_iff.mpr fun key member => ?_
    obtain ⟨e, within, rfl⟩ := List.mem_map.mp member
    simp [known e within]
  simp only [launchSection, elements, Except.mapError, bind, Except.bind, unknown, distinct, List.foldl_nil]

theorem launchSection_table (plain : ∀ e ∈ entries, PlainEntry e) :
    launchSection (.table entries) = launchOfEntries entries := by
  refine launchSection_of_known fun e within => ?_
  cases plain e within with
  | text k s => exact k.isLaunchKey
  | truth k b => exact k.isLaunchKey

end Settings

end CastLaunch
