import CastLaunch.Proofs.Identifier.Sources
import Mathlib.Data.Set.Operations

/-!
The choice of the identifier.  The first file that is not passed over decides, whatever is behind it: when its text is
an identifier, that one is chosen, and when it is none, one warning says so and an identifier is drawn.  One is also
drawn when all files are passed over, and on request.  Six draws make each local identifier for one receiver, and make
each of them in one way.
-/

namespace CastLaunch
open CastLaunch.Text

namespace DeviceIdentifier

/-! Draws and the identifiers that they make. -/

/-- The draws that an identifier comes from, if it comes from any. -/
def toDraws (d : DeviceIdentifier) : Draws where
  first := ⟨d.firstOctet / 4 % 64, Nat.mod_lt _ (by decide)⟩
  rest := Vector.ofFn fun i => ⟨d.octets.getD (i.val + 1) 0 % 256, Nat.mod_lt _ (by decide)⟩

theorem toDraws_ofDraws (x : Draws) : (ofDraws x).toDraws = x := by
  obtain ⟨first, rest⟩ := x
  have value : (first.val * 4 + 2) / 4 % 64 = first.val := by omega
  simp only [toDraws, ofDraws, firstOctet, List.headD_cons, List.getD_cons_succ, value]
  congr 1
  ext i inside
  simp

theorem ofDraws_injective : Function.Injective ofDraws := Function.LeftInverse.injective toDraws_ofDraws

theorem ofDraws_toDraws {d : DeviceIdentifier} (own : d.isLocal = true) (single : d.isMulticast = false) :
    ofDraws d.toDraws = d := by
  obtain ⟨octets, size, bounded⟩ := d
  cases octets with
  | nil => cases size
  | cons a rest =>
    have small : a < 256 := bounded a List.mem_cons_self
    have five : rest.length = 5 := Nat.succ.inj size
    simp only [isLocal, isMulticast, firstOctet, List.headD_cons, beq_iff_eq, beq_eq_false_iff_ne] at own single
    have first : a / 4 % 64 * 4 + 2 = a := by omega
    have others : (Vector.ofFn fun i : Fin 5 =>
        (⟨rest.getD i.val 0 % 256, Nat.mod_lt _ (by decide)⟩ : Fin 256)).toList.map Fin.val = rest := by
      refine List.ext_getElem (by simp [five]) fun i _ inside => ?_
      have value := bounded _ (List.mem_cons_of_mem a (List.getElem_mem inside))
      simp [inside, Nat.mod_eq_of_lt value]
    simpa [ofDraws, toDraws, firstOctet, first] using others

/-- What draws make are the local identifiers for one receiver. -/
theorem range_ofDraws : Set.range ofDraws = {d | d.isLocal = true ∧ d.isMulticast = false} := by
  ext d
  constructor
  · rintro ⟨x, rfl⟩
    exact ⟨isLocal_ofDraws x, isMulticast_ofDraws x⟩
  · rintro ⟨own, single⟩
    exact ⟨d.toDraws, ofDraws_toDraws own single⟩

end DeviceIdentifier

/-! Files and what they say. -/

namespace AddressFile

/-- Whether the file can be read, and the text is what it holds without the blanks around it, if that is anything. -/
def Tells (f : AddressFile) (text : String) : Prop :=
  text ≠ "" ∧ ∃ content, f.bytes = some (Utf8.encode content) ∧ text = String.ofList (trim (unifyBreaks content))

/-- The warning that the text of the file is no identifier. -/
def ignoring (f : AddressFile) (text : String) : LogRecord :=
  ⟨.warning, .identifier, "Ignoring malformed hardware address in " ++ f.path ++ ": " ++ quoted text⟩

theorem Speaks.tells {f : AddressFile} (speaks : f.Speaks) : ∃ text, f.Tells text := by
  obtain ⟨content, there, more⟩ := speaks
  exact ⟨_, fun none => more (trim_unifyBreaks_eq_nil_iff.mp (String.ofList_injective none)), content, there, rfl⟩

theorem Tells.speaks {f : AddressFile} {text : String} (tells : f.Tells text) : f.Speaks := by
  obtain ⟨given, content, there, rfl⟩ := tells
  exact ⟨content, there, fun blank => given (by rw [trim_unifyBreaks_eq_nil_iff.mpr blank])⟩

theorem Tells.unique {f : AddressFile} {text other : String} (tells : f.Tells text) (also : f.Tells other) :
    text = other := by
  obtain ⟨-, content, there, rfl⟩ := tells
  obtain ⟨-, content', there', rfl⟩ := also
  rw [Utf8.encode_injective (Option.some.inj (there.symm.trans there'))]

end AddressFile

/-- The first of the files that is not passed over is this one, and it tells the text. -/
inductive Decides : List AddressFile → AddressFile → String → Prop where
  | here {f : AddressFile} {rest : List AddressFile} {text : String} (tells : f.Tells text) : Decides (f :: rest) f text
  | later {f g : AddressFile} {rest : List AddressFile} {text : String} (passed : g.IsPassedOver)
      (decides : Decides rest f text) : Decides (g :: rest) f text

variable {files before : List AddressFile} {f : AddressFile} {text : String}

theorem Decides.behind (passed : ∀ g ∈ before, g.IsPassedOver) (tells : f.Tells text) (after : List AddressFile) :
    Decides (before ++ f :: after) f text := by
  induction before with
  | nil => exact .here tells
  | cons g before ih =>
    obtain ⟨first, others⟩ := List.forall_mem_cons.mp passed
    exact .later first (ih others)

theorem Decides.not_passedOver (decides : Decides files f text) : ¬∀ g ∈ files, g.IsPassedOver := by
  induction decides with
  | here tells => exact fun passed => tells.speaks.not_passedOver (passed _ List.mem_cons_self)
  | later _ _ ih => exact fun passed => ih fun g member => passed g (List.mem_cons_of_mem _ member)

theorem Decides.unique {g : AddressFile} {other : String} (decides : Decides files f text)
    (also : Decides files g other) : f = g ∧ text = other := by
  induction decides with
  | here tells =>
    cases also with
    | here tells' => exact ⟨rfl, tells.unique tells'⟩
    | later passed _ => exact absurd passed tells.speaks.not_passedOver
  | later passed _ ih =>
    cases also with
    | here tells' => exact absurd passed tells'.speaks.not_passedOver
    | later _ decides' => exact ih decides'

theorem Decides.exists_iff {P : AddressFile → String → Prop} (decides : Decides files f text) :
    (∃ g other, Decides files g other ∧ P g other) ↔ P f text := by
  constructor
  · rintro ⟨g, other, also, holds⟩
    obtain ⟨rfl, rfl⟩ := decides.unique also
    exact holds
  · exact fun holds => ⟨f, text, decides, holds⟩

theorem passedOver_or_decided (decodable : ∀ f ∈ files, ¬f.IsGarbled) :
    (∀ f ∈ files, f.IsPassedOver) ∨ ∃ f text, Decides files f text := by
  induction files with
  | nil => exact .inl nofun
  | cons f rest ih =>
    obtain ⟨here, later⟩ := List.forall_mem_cons.mp decodable
    rcases f.passedOver_or_garbled_or_speaks with passed | garbled | speaks
    · rcases ih later with all | ⟨g, text, decides⟩
      · exact .inl (List.forall_mem_cons.mpr ⟨passed, all⟩)
      · exact .inr ⟨g, text, .later passed decides⟩
    · exact absurd garbled here
    · obtain ⟨text, tells⟩ := speaks.tells
      exact .inr ⟨f, text, .here tells⟩

namespace DeviceIdentifier

theorem discover_of_all_passedOver (passed : ∀ g ∈ files, g.IsPassedOver) : discover files = .ok (none, []) := by
  induction files with
  | nil => rfl
  | cons g rest ih =>
    obtain ⟨first, others⟩ := List.forall_mem_cons.mp passed
    rw [discover_of_passedOver first, ih others]

theorem discover_of_decides (decides : Decides files f text) :
    discover files = .ok (match parse text with
      | .ok d => (some d, [])
      | .error _ => (none, [f.ignoring text])) := by
  induction decides with
  | here tells =>
    obtain ⟨given, content, there, rfl⟩ := tells
    rw [discover, there]
    simp only [Utf8.decode_eq_ok_iff.mpr rfl, given, if_false]
    cases parse (String.ofList (trim (unifyBreaks content))) <;> rfl
  | later passed _ ih => rw [discover_of_passedOver passed, ih]

end DeviceIdentifier

/-! The choice. -/

namespace Provision

variable (r : RandomSource)

def warnings (p : Provision) : List LogRecord := p.records.filter fun record => record.severity = .warning

/-- The identifier is made of the draws of the source, and is a valid one: local and for one receiver. -/
structure Drawn (p : Provision) (r : RandomSource) : Prop where
  draws : p.draws? = some r.draws
  identifier : p.identifier = .ofDraws r.draws
  size : p.identifier.octets.length = 6
  bounded : ∀ o ∈ p.identifier.octets, o < 256
  own : p.identifier.isLocal = true
  single : p.identifier.isMulticast = false

theorem drawn_random (records : List LogRecord) : (random r records).Drawn r where
  draws := rfl
  identifier := rfl
  size := (DeviceIdentifier.ofDraws r.draws).size
  bounded := (DeviceIdentifier.ofDraws r.draws).bounded
  own := DeviceIdentifier.isLocal_ofDraws r.draws
  single := DeviceIdentifier.isMulticast_ofDraws r.draws

theorem choose_of_passedOver (passed : ∀ f ∈ files, f.IsPassedOver) : choose false files r = .ok (random r []) := by
  simp [choose, DeviceIdentifier.discover_of_all_passedOver passed]

theorem choose_of_identifier {d : DeviceIdentifier} (decides : Decides files f text)
    (read : DeviceIdentifier.parse text = .ok d) : choose false files r = .ok ⟨d, none, []⟩ := by
  simp [choose, DeviceIdentifier.discover_of_decides decides, read]

theorem choose_of_malformed {e : IdentifierError} (decides : Decides files f text)
    (unread : DeviceIdentifier.parse text = .error e) : choose false files r = .ok (random r [f.ignoring text]) := by
  simp [choose, DeviceIdentifier.discover_of_decides decides, unread]

/-- Files that the same file decides with the same text are chosen from alike. -/
theorem choose_congr {others : List AddressFile} (randomize : Bool) (decides : Decides files f text)
    (also : Decides others f text) : choose randomize files r = choose randomize others r := by
  simp only [choose, DeviceIdentifier.discover_of_decides decides, DeviceIdentifier.discover_of_decides also]

/-- The first file that is not passed over decides, unless the choice is to skip the files.  If its text is an
identifier, that one is chosen; if not, there is one warning.  In every other case the identifier is drawn, and is a
local one for one receiver.  What is behind the first file makes no difference.  Six draws make each such identifier in
one way. -/
theorem choose_by_priority (randomize : Bool) (decodable : ∀ f ∈ files, ¬f.IsGarbled) :
    (∃ p, choose randomize files r = .ok p ∧
      (∀ d, p.identifier = d ∧ p.synthesized = false ↔
        randomize = false ∧ ∃ f text, Decides files f text ∧ DeviceIdentifier.parse text = .ok d) ∧
      (p.synthesized = true → p.Drawn r) ∧
      (p.warnings.length ≤ 1 ∧ ∀ w, w ∈ p.warnings ↔ randomize = false ∧
        ∃ f text, Decides files f text ∧ (∃ e, DeviceIdentifier.parse text = .error e) ∧ w = f.ignoring text) ∧
      ∀ before f after text, files = before ++ f :: after → (∀ g ∈ before, g.IsPassedOver) → f.Tells text →
        ∀ others, choose randomize (before ++ f :: others) r = .ok p) ∧
    Function.Injective DeviceIdentifier.ofDraws ∧
    Set.range DeviceIdentifier.ofDraws = {d | d.isLocal = true ∧ d.isMulticast = false} := by
  refine ⟨?_, DeviceIdentifier.ofDraws_injective, DeviceIdentifier.range_ofDraws⟩
  have alike : ∀ p, choose randomize files r = .ok p → ∀ before f after text, files = before ++ f :: after →
      (∀ g ∈ before, g.IsPassedOver) → f.Tells text → ∀ others, choose randomize (before ++ f :: others) r = .ok p := by
    rintro p chosen before f after text rfl passed tells others
    rw [← chosen]
    exact choose_congr r randomize (.behind passed tells others) (.behind passed tells after)
  cases randomize with
  | true =>
    refine ⟨random r [], rfl, fun d => ?_, fun _ => drawn_random r [], ⟨Nat.zero_le 1, fun w => ?_⟩, alike _ rfl⟩
    · simp [synthesized, random]
    · simp [warnings, random]
  | false =>
    rcases passedOver_or_decided decodable with passed | ⟨f, text, decides⟩
    · have chosen := choose_of_passedOver r passed
      have nobody : ∀ f text, ¬Decides files f text := fun f text decides => decides.not_passedOver passed
      refine ⟨_, chosen, fun d => ?_, fun _ => drawn_random r [], ⟨Nat.zero_le 1, fun w => ?_⟩, alike _ chosen⟩
      · simp [synthesized, random, nobody]
      · simp [warnings, random, nobody]
    · cases read : DeviceIdentifier.parse text with
      | ok d =>
        have chosen := choose_of_identifier r decides read
        refine ⟨_, chosen, fun d' => ?_, nofun, ⟨Nat.zero_le 1, fun w => ?_⟩, alike _ chosen⟩
        · simp [decides.exists_iff, synthesized, read]
        · simp [decides.exists_iff, warnings, read]
      | error e =>
        have chosen := choose_of_malformed r decides read
        refine ⟨_, chosen, fun d => ?_, fun _ => drawn_random r _, ⟨Nat.le_refl 1, fun w => ?_⟩, alike _ chosen⟩
        · simp [decides.exists_iff, synthesized, random, read]
        · simp [decides.exists_iff, warnings, random, AddressFile.ignoring, read]

/-- Files of a host: one is missing, one holds a line end, the third an identifier, and the last something else. -/
def interfaces : List AddressFile :=
  [⟨"eth0", none⟩, ⟨"eth1", some (Utf8.encode "\n".toList)⟩, ⟨"wlan0", some (Utf8.encode "b8:27:EB:01:02:03\n".toList)⟩,
    ⟨"wlan1", some (Utf8.encode "none".toList)⟩]

theorem choose_by_priority_interfaces :
    (∀ f ∈ interfaces, ¬f.IsGarbled) ∧ ∃ p, choose false interfaces ⟨fun _ => 0⟩ = .ok p ∧
      p.identifier.octets = [0xb8, 0x27, 0xeb, 1, 2, 3] ∧ p.synthesized = false := by
  have decodable : ∀ f ∈ interfaces, ¬f.IsGarbled := by
    simp [interfaces, AddressFile.IsGarbled]
  obtain ⟨⟨p, chosen, identifier, -⟩, -⟩ := choose_by_priority ⟨fun _ => 0⟩ false decodable
  have read : DeviceIdentifier.parse "b8:27:EB:01:02:03" =
      .ok ⟨[0xb8, 0x27, 0xeb, 1, 2, 3], by decide, by decide⟩ := by decide +kernel
  have decides : Decides interfaces ⟨"wlan0", some (Utf8.encode "b8:27:EB:01:02:03\n".toList)⟩ "b8:27:EB:01:02:03" := by
    refine .later nofun (.later ?_ (.here ⟨by decide, _, rfl, by decide +kernel⟩))
    rintro _ ⟨rfl⟩
    exact ⟨['\n'], rfl, List.forall_mem_singleton.mpr (by decide)⟩
  obtain ⟨same, own⟩ := (identifier _).mpr ⟨rfl, _, _, decides, read⟩
  exact ⟨decodable, p, chosen, by rw [same], own⟩

end Provision

end CastLaunch
