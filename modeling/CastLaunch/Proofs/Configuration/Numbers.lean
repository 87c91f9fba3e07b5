import CastLaunch.Proofs.Configuration.Agreement
import CastLaunch.Proofs.Yaml.Digits
import CastLaunch.Settings.File

/-!
Numbers in a settings file and on the command line.  Without quotes a file reads digits as
a number first, and hands on how that number is written; an option hands on the digits as
they stand.  So the two agree, except for octal numerals: a zero in front of digits up to
seven means base eight in a file and nothing to an option.
-/

namespace CastLaunch
open CastLaunch.Text CastLaunch.CommandLine

/-- The keys of a launch section that hold a single number. -/
inductive NumberKey where
  | fps
  | ports
  | idleTimeout
  deriving DecidableEq, Repr

namespace NumberKey

def textKey : NumberKey → TextKey
  | fps => .fps
  | ports => .ports
  | idleTimeout => .idleTimeout

/-- How many digits are read. -/
def digits : NumberKey → Nat
  | fps | idleTimeout => Limits.countDigits
  | ports => Limits.portDigits

/-- Whether the number is within the bounds; with a port the two behind it have to be. -/
def Takes : NumberKey → Nat → Prop
  | fps, n => 0 < n ∧ n ≤ Limits.maxFps
  | ports, n => Limits.lowestPort ≤ n ∧ n + 2 ≤ Limits.highestPort
  | idleTimeout, n => 0 < n ∧ n < Nat.pow 10 Limits.countDigits

instance (k : NumberKey) (n : Nat) : Decidable (k.Takes n) := by
  cases k <;> unfold Takes <;> infer_instance

/-- The configuration with the number and the defaults otherwise. -/
def config : NumberKey → Nat → LaunchConfig
  | fps, n => { maxFps := n }
  | ports, n => { tcp := ⟨n, n + 1, n + 2⟩, udp := ⟨n, n + 1, n + 2⟩ }
  | idleTimeout, n => { idleTimeout := n }

/-- The command line with the option alone. -/
def options (k : NumberKey) (t : String) : Arguments :=
  match k with
  | fps => { fps := some (.text t) }
  | ports => { ports := some [[t]] }
  | idleTimeout => { idleTimeout := some (.text t) }

/-- The number of the digits, if the key takes it. -/
def number? (k : NumberKey) (t : List Char) : Option Nat :=
  if t.length ≤ k.digits ∧ k.Takes (decimalNat t) then some (decimalNat t) else none

/-- What the key makes of digits: the configuration with their decimal number. -/
def reads (k : NumberKey) (t : List Char) : Option LaunchConfig := (k.number? t).map k.config

variable {k : NumberKey} {t : List Char}

theorem config_injective {n m : Nat} (same : k.config n = k.config m) : n = m := by
  cases k with
  | fps => exact congrArg LaunchConfig.maxFps same
  | ports => exact congrArg (fun c => c.tcp.first) same
  | idleTimeout => exact congrArg LaunchConfig.idleTimeout same

theorem triple_valid {n : Nat} (takes : ports.Takes n) : (PortTriple.mk n (n + 1) (n + 2)).Valid := by
  obtain ⟨low, high⟩ := takes
  refine .inr ⟨?_, by simp [PortTriple.toList]⟩
  simp only [PortTriple.toList, List.forall_mem_cons, List.not_mem_nil, false_imp_iff, implies_true, and_true]
  omega

theorem config_valid {n : Nat} (takes : k.Takes n) : (k.config n).Valid := by
  have blank : allBlank Limits.defaultName = false ∧ allBlank Limits.defaultVideoSink = false ∧
      allBlank Limits.defaultAudioSink = false := by decide
  obtain ⟨name, video, audio⟩ := blank
  have zero := fun m : Nat => Nat.zero_le m
  have dynamic : PortTriple.dynamic.Valid := .inl rfl
  cases k with
  | fps => exact ⟨name, video, audio, zero _, zero _, zero _, takes.2, dynamic, dynamic⟩
  | ports => exact ⟨name, video, audio, zero _, zero _, zero _, zero _, triple_valid takes, triple_valid takes⟩
  | idleTimeout => exact ⟨name, video, audio, zero _, zero _, zero _, zero _, dynamic, dynamic⟩

theorem takes_of_number? {n : Nat} (read : k.number? t = some n) : k.Takes n := by
  rw [number?] at read
  split at read
  · next fits =>
    cases read
    exact fits.2
  · cases read

/-! The readers of option values, applied to digits. -/

theorem number?_of_filter {most : Nat} {p : Nat → Bool} (given : t ≠ []) (digits : ∀ c ∈ t, isAsciiDigit c = true)
    (takes : t.length ≤ k.digits → (p (decimalNat t) = true ↔ k.Takes (decimalNat t))) (same : most = k.digits) :
    (unsigned? most t).filter p = k.number? t := by
  rw [unsigned?_digits given digits, number?, same]
  by_cases short : t.length ≤ k.digits
  · simp only [short, if_true, true_and, Option.filter_some, takes short]
  · simp only [short, if_false, false_and, Option.filter_none]

theorem read?_fps (given : t ≠ []) (digits : ∀ c ∈ t, isAsciiDigit c = true) :
    Count.read? Limits.maxFps t = fps.number? t := by
  refine number?_of_filter given digits (fun _ => ?_) rfl
  have capped : ¬(Limits.maxFps : Int) ≤ 0 := by decide
  simp only [Takes, Bool.and_eq_true, bne_iff_ne, Bool.or_eq_true, decide_eq_true_eq, capped, false_or]
  omega

theorem read?_idleTimeout (given : t ≠ []) (digits : ∀ c ∈ t, isAsciiDigit c = true) :
    Count.read? 0 t = idleTimeout.number? t := by
  refine number?_of_filter given digits (fun short => ?_) rfl
  have low : decimalNat t < Nat.pow 10 Limits.countDigits :=
    Nat.lt_of_lt_of_le (decimalNat_lt digits) (Nat.pow_le_pow_right (by decide) short)
  simp only [Takes, Bool.and_eq_true, bne_iff_ne, Bool.or_eq_true, decide_eq_true_eq, Int.le_refl, true_or, and_true,
    low, Nat.pos_iff_ne_zero]

theorem complete?_single (n : Nat) : PortGroup.complete? Limits.portGroupSize [n] =
    if n + 2 ≤ Limits.highestPort then some [n, n + 1, n + 2] else none := by
  have distinct : [n, n + 1, n + 2].Nodup := by simp
  show (if n + 2 ≤ Limits.highestPort ∧ [n, n + 1, n + 2].Nodup then _ else _) = _
  simp only [distinct, and_true]
  rfl

/-- The digits of a port alone: the two behind it follow. -/
theorem readTriple?_ports (given : t ≠ []) (digits : ∀ c ∈ t, isAsciiDigit c = true) :
    PortGroup.readTriple? (String.ofList t) = (ports.number? t).map fun n => ⟨n, n + 1, n + 2⟩ := by
  have token : t.splitOn ',' = [t] := List.splitOn_eq_singleton fun member => by
    cases digits ',' member
  have alone : PortGroup.read? Limits.portGroupSize t =
      (PortGroup.port? t).bind fun n => PortGroup.complete? Limits.portGroupSize [n] := by
    rw [PortGroup.read?, token]
    cases read : PortGroup.port? t <;> simp [read, Limits.portGroupSize]
  have port : PortGroup.port? t =
      (if t.length ≤ ports.digits then some (decimalNat t) else none).filter PortGroup.inRange :=
    congrArg (Option.filter _) (unsigned?_digits given digits _)
  rw [PortGroup.readTriple?, String.toList_ofList, alone, port, number?]
  by_cases short : t.length ≤ ports.digits
  · by_cases takes : ports.Takes (decimalNat t)
    · obtain ⟨low, high⟩ := takes
      have inside : PortGroup.inRange (decimalNat t) = true := PortGroup.inRange_iff.mpr ⟨low, by omega⟩
      rw [if_pos short, if_pos ⟨short, low, high⟩, Option.filter_some, if_pos inside, Option.bind_some,
        complete?_single, if_pos high]
      rfl
    · rw [if_pos short, if_neg fun both => takes both.2]
      by_cases inside : PortGroup.inRange (decimalNat t) = true
      · have high : ¬decimalNat t + 2 ≤ Limits.highestPort := fun high =>
          takes ⟨(PortGroup.inRange_iff.mp inside).1, high⟩
        rw [Option.filter_some, if_pos inside, Option.bind_some, complete?_single, if_neg high]
        rfl
      · rw [Option.filter_some, if_neg inside]
        rfl
  · rw [if_neg short, if_neg fun both => short both.1]
    rfl

/-! Either way the digits pass through the one check, and the number alone is set. -/

theorem toOption_bind {ε α : Type} {x : Except ε α} {f : α → Except ε LaunchConfig} (make : Nat → α)
    (read : x.toOption = (k.number? t).map make) (made : ∀ n, k.Takes n → f (make n) = .ok (k.config n)) :
    (x >>= f).toOption = k.reads t := by
  rw [reads]
  cases number : k.number? t with
  | none =>
    rw [number] at read
    cases x with
    | error e => rfl
    | ok a => cases read
  | some n =>
    rw [number] at read
    cases x with
    | error e => cases read
    | ok a =>
      cases read
      exact congrArg Except.toOption (made n (takes_of_number? number))

theorem toOption_read {α : Type} {check : String → String → Except ConfigError α} {reason : String → Reason}
    {read : String → Option α} {flag s : String} {missing : Reason} (reads : check = checked reason read) :
    (OptValue.read flag missing (check flag) (some (.text s))).toOption = (read s).map some := by
  rw [reads]
  show (Except.asOverride ((checked reason read flag s).map some)).toOption = _
  rw [checked]
  cases read s <;> rfl

theorem number?_of_long (long : k.digits < t.length) : k.number? t = none :=
  if_neg fun both => Nat.not_le_of_lt long both.1

/-- The value is handed on as the digits, or cannot be written and has more digits than are read. -/
def HandsOn (k : NumberKey) (v : Value) (t : List Char) : Prop :=
  (Settings.entryText v).toOption = some (String.ofList t) ∨
    (Settings.entryText v).toOption = none ∧ k.digits < t.length

theorem toOption_textual {α : Type} {check : String → String → Except ConfigError α} {reason : String → Reason}
    {read : String → Option α} (make : Nat → α) {flag : String} {v : Value} (reads : check = checked reason read)
    (text : k.HandsOn v t) (value : read (String.ofList t) = (k.number? t).map make) :
    ((Settings.textual check flag v).map some).toOption = (k.number? t).map fun n => some (make n) := by
  rw [Settings.textual]
  cases written : Settings.entryText v with
  | error e =>
    rcases text with given | ⟨-, long⟩
    · rw [written] at given
      cases given
    · rw [number?_of_long long]
      rfl
  | ok s =>
    rcases text with given | ⟨missing, -⟩
    · rw [written] at given
      cases given
      rw [reads]
      show (((checked reason read flag (String.ofList t)).mapError SettingsError.invalid).map some).toOption = _
      rw [checked, value]
      cases k.number? t <;> rfl
    · rw [written] at missing
      cases missing

theorem validate_config {n : Nat} (takes : k.Takes n) : (k.config n).toDraft.validate = .ok (k.config n) :=
  Draft.validate_toDraft (config_valid takes)

/-- The option with digits. -/
theorem configure_options (given : t ≠ []) (digits : ∀ c ∈ t, isAsciiDigit c = true) :
    ((k.options (String.ofList t)).configure {} none).toOption = k.reads t := by
  have validated : ∀ n, k.Takes n → Except.asOverride (k.config n).toDraft.validate = .ok (k.config n) :=
    fun n takes => congrArg Except.asOverride (validate_config takes)
  cases k with
  | fps =>
    show (OptValue.read "-fps" _ (Count.parse "-fps" Limits.maxFps) (some (.text (String.ofList t))) >>= fun fps =>
      Except.asOverride (Draft.validate { maxFps := (fps.map fun n => (n : Int)).getD 0 })).toOption = _
    refine toOption_bind some ((toOption_read (Count.parse_eq _)).trans ?_) validated
    rw [String.toList_ofList, read?_fps given digits]
  | idleTimeout =>
    show (OptValue.read "-t" _ (Count.parse "-t" 0) (some (.text (String.ofList t))) >>= fun idle =>
      Except.asOverride (Draft.validate { idleTimeout := (idle.map fun n => (n : Int)).getD 0 })).toOption = _
    refine toOption_bind some ((toOption_read (Count.parse_eq _)).trans ?_) validated
    rw [String.toList_ofList, read?_idleTimeout given digits]
  | ports =>
    show (Except.asOverride (PortPair.apply ⟨.dynamic, .dynamic⟩ [[String.ofList t]]) >>= fun ports =>
      Except.asOverride (Draft.validate
        { tcp := ports.tcp.toList.map Int.ofNat, udp := ports.udp.toList.map Int.ofNat })).toOption = _
    refine toOption_bind (fun n => ⟨⟨n, n + 1, n + 2⟩, ⟨n, n + 1, n + 2⟩⟩) ?_ validated
    have tcp : String.ofList t ≠ "tcp" := Yaml.ofList_ne_of_all digits (by decide)
    have udp : String.ofList t ≠ "udp" := Yaml.ofList_ne_of_all digits (by decide)
    rw [Settings.apply_single, Settings.occurrence_ports tcp udp, PortGroup.parseTriple_eq, checked,
      readTriple?_ports given digits]
    cases ports.number? t <;> rfl

/-- A section with digits as its one entry. -/
theorem launchOfEntries_single (given : t ≠ []) (digits : ∀ c ∈ t, isAsciiDigit c = true)
    (nonzero : k = .idleTimeout → decimalNat t ≠ 0) {v : Value} (text : k.HandsOn v t) :
    (Settings.launchOfEntries [(.text k.textKey.key, v)]).toOption = k.reads t := by
  have validated : ∀ n, k.Takes n →
      (k.config n).toDraft.validate.mapError SettingsError.invalid = .ok (k.config n) :=
    fun n takes => congrArg (Except.mapError SettingsError.invalid) (validate_config takes)
  cases k with
  | fps =>
    show ((Settings.textual (fun flag => Count.parse flag Limits.maxFps) "server.fps" v).map some >>= fun fps =>
      (Draft.validate { maxFps := (fps.map Int.ofNat).getD 0 }).mapError SettingsError.invalid).toOption = _
    refine toOption_bind _ (toOption_textual id (Count.parse_eq _) text ?_) validated
    rw [String.toList_ofList, read?_fps given digits, Option.map_id]
    rfl
  | ports =>
    show ((Settings.textual PortGroup.parseTriple "server.ports" v).map some >>= fun group =>
      let ports := (group.getD .dynamic).toList.map Int.ofNat
      (Draft.validate { tcp := ports, udp := ports }).mapError SettingsError.invalid).toOption = _
    exact toOption_bind _ (toOption_textual _ PortGroup.parseTriple_eq text (readTriple?_ports given digits)) validated
  | idleTimeout =>
    show ((Settings.textual Settings.seconds "server.idle_timeout" v).map some >>= fun idle =>
      (Draft.validate { idleTimeout := (idle.map Int.ofNat).getD 0 }).mapError SettingsError.invalid).toOption = _
    refine toOption_bind _ (toOption_textual id Settings.seconds_eq text ?_) validated
    have counted : String.ofList t ≠ "0" := by
      intro zero
      have same : t = ['0'] := String.toList_ofList.symm.trans (congrArg String.toList zero)
      exact nonzero rfl (congrArg decimalNat same)
    rw [Settings.seconds?, if_neg counted, String.toList_ofList, read?_idleTimeout given digits, Option.map_id]
    rfl

/-! The file hands on the text of the value, which has other digits when the numeral is octal. -/

/-- The digits that a file hands on. -/
def inFile (t : List Char) : List Char := if Yaml.isOctal t = true then Nat.toDigits 10 (Yaml.octalNat t) else t

theorem inFile_given (given : t ≠ []) : inFile t ≠ [] := by
  rw [inFile]
  split
  · exact List.length_pos_iff.mp Nat.length_toDigits_pos
  · exact given

theorem inFile_digits (digits : ∀ c ∈ t, isAsciiDigit c = true) : ∀ c ∈ inFile t, isAsciiDigit c = true := by
  rw [inFile]
  split
  · exact isAsciiDigit_toDigits
  · exact digits

theorem decimalNat_inFile_of_octal (octal : Yaml.isOctal t = true) : decimalNat (inFile t) = Yaml.octalNat t := by
  rw [inFile, if_pos octal, decimalNat_toDigits]

theorem inFile_nonzero (nonzero : decimalNat t ≠ 0) : decimalNat (inFile t) ≠ 0 := by
  by_cases octal : Yaml.isOctal t = true
  · rw [decimalNat_inFile_of_octal octal]
    exact fun zero => nonzero (Yaml.decimalNat_eq_zero (Yaml.isOctalDigit_of_isOctal octal) zero)
  · rwa [inFile, if_neg octal]

/-- The text of digits in a file, unless their number cannot be read or written. -/
def text? (t : List Char) : Option String :=
  (Yaml.resolve (String.ofList t)).toOption.bind fun v => (Settings.entryText v).toOption

theorem entryText_nat (n : Nat) : (Settings.entryText (.int n)).toOption =
    if (Nat.toDigits 10 n).length ≤ longestNumeral then some (String.ofList (Nat.toDigits 10 n)) else none := by
  have same : Value.isWritable (.int n) = isWritable n := by simp only [Value.isWritable]
  rw [Settings.entryText, Value.written, same]
  by_cases short : (Nat.toDigits 10 n).length ≤ longestNumeral
  · rw [if_pos short, if_pos ((isWritable_iff n).mpr short)]
    simp [Except.mapError, Except.toOption, Value.plain, Value.shown, intText, natText]
  · rw [if_neg short, if_neg fun writable => short ((isWritable_iff n).mp writable)]
    rfl

theorem text?_of_resolve {v : Value} (resolved : Yaml.resolve (String.ofList t) = .ok v) :
    text? t = (Settings.entryText v).toOption := by
  rw [text?, resolved]
  rfl

theorem text?_of_nat {n : Nat} (resolved : Yaml.resolve (String.ofList t) = .ok (.int n)) :
    text? t = some (String.ofList (Nat.toDigits 10 n)) ∨
      text? t = none ∧ longestNumeral < (Nat.toDigits 10 n).length := by
  rw [text?_of_resolve resolved, entryText_nat]
  split
  · exact .inl rfl
  · next long => exact .inr ⟨rfl, Nat.lt_of_not_le long⟩

theorem text?_eq (given : t ≠ []) (digits : ∀ c ∈ t, isAsciiDigit c = true) :
    text? t = some (String.ofList (inFile t)) ∨ text? t = none ∧ longestNumeral < (inFile t).length := by
  have resolved := Yaml.resolve_digits given digits
  rw [inFile]
  by_cases octal : Yaml.isOctal t = true
  · rw [if_pos octal] at resolved
    rw [if_pos octal]
    exact text?_of_nat resolved
  · rw [if_neg octal] at resolved
    rw [if_neg octal]
    by_cases first : t.head? = some '0'
    · rw [if_pos first] at resolved
      exact .inl (text?_of_resolve resolved)
    · rw [if_neg first, limitedNat] at resolved
      split at resolved
      · next long =>
        rw [text?, resolved]
        exact .inr ⟨rfl, long⟩
      · have again := text?_of_nat resolved
        rwa [toDigits_decimalNat given digits first] at again

/-- The file with the digits under the key of the launch section. -/
def file (k : NumberKey) (t : List Char) (indent : Nat) (last : List Char) : Yaml.Nest where
  outer := "server".toList
  indent := indent
  inner := k.textKey.key.toList
  value := t
  last := last

theorem isKey_server : Yaml.IsWord "server".toList ∧ "server".toList.length ≤ 1024 :=
  ⟨⟨by decide, List.all_eq_true.mp (by decide)⟩, by decide⟩

theorem isKey_textKey (k : NumberKey) :
    Yaml.IsWord k.textKey.key.toList ∧ k.textKey.key.toList.length ≤ 1024 := by
  cases k <;> exact ⟨⟨by decide, List.all_eq_true.mp (by decide)⟩, by decide⟩

theorem file_valid {indent : Nat} {last : List Char} (given : t ≠ []) (digits : ∀ c ∈ t, isAsciiDigit c = true)
    (indented : 0 < indent) (ends : last = [] ∨ last = ['\n']) : (k.file t indent last).Valid where
  outer := isKey_server
  indent := indented
  inner := isKey_textKey k
  value := Yaml.isWord_of_digits given digits
  last := ends

theorem resolve_server :
    Yaml.resolve (String.ofList "server".toList) = .ok (.text (String.ofList "server".toList)) := rfl

theorem resolve_key (k : NumberKey) :
    Yaml.resolve (String.ofList k.textKey.key.toList) = .ok (.text (String.ofList k.textKey.key.toList)) := by
  cases k <;> rfl

theorem ofEntries_server (e : Value × Value) (rest : List (Value × Value)) :
    Settings.ofEntries [(.text "server", .table (e :: rest))] =
      (Settings.launchSection (.table (e :: rest))).map fun launch => { launch } := by
  show (Settings.launchSection (.table (e :: rest)) >>= fun launch => .ok ({ launch } : Settings)) = _
  cases Settings.launchSection (.table (e :: rest)) <;> rfl

variable {indent : Nat} {last : List Char} {s : Surroundings} {path : FileName}

theorem load_text (valid : (k.file t indent last).Valid) :
    Yaml.load (k.file t indent last).text = (Yaml.resolve (String.ofList t)).map fun v =>
      .table [(.text "server", .table [(.text k.textKey.key, v)])] := by
  have loaded := valid.load resolve_server (resolve_key k)
  simpa only [file, String.ofList_toList] using loaded

theorem load_file (valid : (k.file t indent last).Valid) (found : Settings.findFile s = .ok (some path))
    (holds : Settings.bytesOf s path.text = .ok (k.file t indent last).bytes) :
    (Settings.load s).toOption.map Settings.launch = (Yaml.resolve (String.ofList t)).toOption.bind fun v =>
      (Settings.launchOfEntries [(.text k.textKey.key, v)]).toOption := by
  have read : Settings.load s = ((Yaml.load (k.file t indent last).text).mapError FileError.unloadable >>=
      Settings.ofValue path.text) := by
    rw [Settings.load, Settings.loadBy_of_found found holds valid.decode, valid.unifyBreaks]
  rw [read, load_text valid]
  cases Yaml.resolve (String.ofList t) with
  | error e => rfl
  | ok v =>
    have known : Settings.launchSection (.table [(.text k.textKey.key, v)]) =
        Settings.launchOfEntries [(.text k.textKey.key, v)] :=
      Settings.launchSection_of_known (by simpa using k.textKey.isLaunchKey)
    show ((Settings.ofEntries [(.text "server", .table [(.text k.textKey.key, v)])]).mapError
      FileError.settings).toOption.map Settings.launch = (Settings.launchOfEntries [(.text k.textKey.key, v)]).toOption
    rw [ofEntries_server, known]
    cases Settings.launchOfEntries [(.text k.textKey.key, v)] <;> rfl

theorem digits_le (k : NumberKey) : k.digits ≤ longestNumeral := by
  cases k <;> decide

/-- The file reads the digits that it hands on. -/
theorem load_reads (given : t ≠ []) (digits : ∀ c ∈ t, isAsciiDigit c = true)
    (nonzero : k = .idleTimeout → decimalNat t ≠ 0) (valid : (k.file t indent last).Valid)
    (found : Settings.findFile s = .ok (some path))
    (holds : Settings.bytesOf s path.text = .ok (k.file t indent last).bytes) :
    (Settings.load s).toOption.map Settings.launch = k.reads (inFile t) := by
  have text := text?_eq given digits
  have short := digits_le k
  rw [load_file valid found holds]
  cases resolved : Yaml.resolve (String.ofList t) with
  | error e =>
    rcases text with known | ⟨-, long⟩
    · rw [text?, resolved] at known
      cases known
    · rw [reads, number?_of_long (Nat.lt_of_le_of_lt short long)]
      rfl
  | ok v =>
    rw [text?_of_resolve resolved] at text
    have handed : k.HandsOn v (inFile t) := text.imp_right fun ⟨missing, long⟩ =>
      ⟨missing, Nat.lt_of_le_of_lt short long⟩
    exact launchOfEntries_single (inFile_given given) (inFile_digits digits)
      (fun timeout => inFile_nonzero (nonzero timeout)) handed

/-- The numeral is octal, has more than one digit that counts or more digits than an option may have, and is taken in
one base or the other. -/
def Misread (k : NumberKey) (t : List Char) : Prop :=
  Yaml.isOctal t = true ∧ (8 ≤ decimalNat t ∨ k.digits < t.length) ∧
    (k.Takes (Yaml.octalNat t) ∨ t.length ≤ k.digits ∧ k.Takes (decimalNat t))

instance (k : NumberKey) (t : List Char) : Decidable (k.Misread t) := by unfold Misread; infer_instance

theorem length_toDigits_of_takes {n : Nat} (takes : k.Takes n) : (Nat.toDigits 10 n).length ≤ k.digits := by
  cases k with
  | fps => exact (length_toDigits_le_iff (by decide) n).mpr (Nat.lt_of_le_of_lt takes.2 (by decide))
  | ports =>
    have high : n ≤ Limits.highestPort := Nat.le_of_add_right_le takes.2
    exact (length_toDigits_le_iff (by decide) n).mpr (Nat.lt_of_le_of_lt high (by decide))
  | idleTimeout => exact (length_toDigits_le_iff (by decide) n).mpr takes.2

theorem reads_of_taken (short : t.length ≤ k.digits) (takes : k.Takes (decimalNat t)) :
    k.reads t = some (k.config (decimalNat t)) := by
  rw [reads, number?, if_pos ⟨short, takes⟩]
  rfl

theorem reads_of_refused (refused : ¬(t.length ≤ k.digits ∧ k.Takes (decimalNat t))) : k.reads t = none := by
  rw [reads, number?, if_neg refused]
  rfl

/-- What the file hands on for an octal numeral is as short as can be, so the value alone decides. -/
theorem inFile_taken_iff (octal : Yaml.isOctal t = true) :
    (inFile t).length ≤ k.digits ∧ k.Takes (decimalNat (inFile t)) ↔ k.Takes (Yaml.octalNat t) := by
  rw [decimalNat_inFile_of_octal octal, inFile, if_pos octal]
  exact ⟨fun both => both.2, fun takes => ⟨length_toDigits_of_takes takes, takes⟩⟩

/-- A single digit counts, and there are no more zeros than may stand before it. -/
theorem reads_inFile_of_single (octal : Yaml.isOctal t = true) (single : decimalNat t < 8)
    (brief : t.length ≤ k.digits) : k.reads (inFile t) = k.reads t := by
  have value : Yaml.octalNat t = decimalNat t :=
    (Yaml.octalNat_decimalNat (Yaml.isOctalDigit_of_isOctal octal)).2.mpr single
  have same : (inFile t).length ≤ k.digits ∧ k.Takes (decimalNat (inFile t)) ↔ k.Takes (decimalNat t) := by
    rw [inFile_taken_iff octal, value]
  by_cases taken : k.Takes (decimalNat t)
  · obtain ⟨short, takes⟩ := same.mpr taken
    rw [reads_of_taken short takes, reads_of_taken brief taken, decimalNat_inFile_of_octal octal, value]
  · rw [reads_of_refused fun both => taken (same.mp both), reads_of_refused fun both => taken both.2]

theorem Misread.reads_ne (misread : k.Misread t) : k.reads (inFile t) ≠ k.reads t := by
  obtain ⟨octal, beyond, taken⟩ := misread
  intro same
  by_cases both : t.length ≤ k.digits ∧ k.Takes (decimalNat t)
  · have read : k.reads (inFile t) = some (k.config (decimalNat t)) := same.trans (reads_of_taken both.1 both.2)
    by_cases kept : (inFile t).length ≤ k.digits ∧ k.Takes (decimalNat (inFile t))
    · rw [reads_of_taken kept.1 kept.2, decimalNat_inFile_of_octal octal] at read
      have value := config_injective (Option.some.inj read)
      have single := (Yaml.octalNat_decimalNat (Yaml.isOctalDigit_of_isOctal octal)).2.mp value
      have brief := both.1
      omega
    · rw [reads_of_refused kept] at read
      cases read
  · obtain ⟨short, takes⟩ := (inFile_taken_iff octal).mpr (taken.resolve_right both)
    rw [reads_of_taken short takes, reads_of_refused both] at same
    cases same

/-- Digits are read alike exactly when they are not misread: an octal numeral has another value unless a single digit
counts, and its zeros count among the digits of an option only. -/
theorem reads_inFile_iff : k.reads (inFile t) = k.reads t ↔ ¬k.Misread t := by
  refine ⟨fun same misread => misread.reads_ne same, fun agreed => ?_⟩
  by_cases octal : Yaml.isOctal t = true
  · by_cases beyond : 8 ≤ decimalNat t ∨ k.digits < t.length
    · obtain ⟨other, refused⟩ := not_or.mp fun taken => agreed ⟨octal, beyond, taken⟩
      rw [reads_of_refused fun both => other ((inFile_taken_iff octal).mp both), reads_of_refused refused]
    · obtain ⟨single, brief⟩ := not_or.mp beyond
      exact reads_inFile_of_single octal (Nat.lt_of_not_le single) (Nat.le_of_not_lt brief)
  · rw [inFile, if_neg octal]

/-- A file with digits under the key reads the digits that it hands on, and the option reads the digits as they stand.
The two agree, in what they make and in whether they make anything, unless the numeral is misread. -/
theorem agrees_with_option_iff (given : t ≠ []) (digits : ∀ c ∈ t, isAsciiDigit c = true)
    (nonzero : k = .idleTimeout → decimalNat t ≠ 0) (indented : 0 < indent) (ends : last = [] ∨ last = ['\n'])
    (found : Settings.findFile s = .ok (some path))
    (holds : Settings.bytesOf s path.text = .ok (k.file t indent last).bytes) :
    (Settings.load s).toOption.map Settings.launch = k.reads (inFile t) ∧
      ((k.options (String.ofList t)).configure {} none).toOption = k.reads t ∧
      ((Settings.load s).toOption.map Settings.launch = ((k.options (String.ofList t)).configure {} none).toOption ↔
        ¬k.Misread t) := by
  have valid := file_valid given digits indented ends (k := k)
  have file := load_reads given digits nonzero valid found holds
  have option := configure_options given digits (k := k)
  refine ⟨file, option, ?_⟩
  rw [file, option]
  exact reads_inFile_iff

/-- A file that asks for ten frames a second with a zero in front. -/
def padded : Surroundings :=
  { files := { entries := [(["uxlaunch.yml"], .file (fps.file ['0', '1', '0'] 2 ['\n']).bytes)] } }

theorem agrees_with_option_padded :
    Settings.findFile padded = .ok (some ⟨"/", ["uxlaunch.yml"]⟩) ∧
      Settings.bytesOf padded "/uxlaunch.yml" = .ok (fps.file ['0', '1', '0'] 2 ['\n']).bytes ∧
      (Settings.load padded).toOption.map Settings.launch = some { maxFps := 8 } ∧
      ((fps.options "010").configure {} none).toOption = some { maxFps := 10 } := by
  have found : Settings.findFile padded = .ok (some ⟨"/", ["uxlaunch.yml"]⟩) := rfl
  have holds : Settings.bytesOf padded "/uxlaunch.yml" = .ok (fps.file ['0', '1', '0'] 2 ['\n']).bytes := by
    have plain : "/uxlaunch.yml".contains '\x00' = false := by simp
    rw [Settings.bytesOf, plain]
    rfl
  have digits : ∀ c ∈ ['0', '1', '0'], isAsciiDigit c = true := List.all_eq_true.mp (by decide)
  have read := agrees_with_option_iff (k := fps) (by decide) digits nofun (by decide) (.inr rfl) found holds
  exact ⟨found, holds, read.1, read.2.1⟩

end NumberKey

end CastLaunch
