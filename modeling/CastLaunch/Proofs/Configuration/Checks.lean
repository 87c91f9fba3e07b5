import CastLaunch.Config
import Mathlib.Data.List.Induction

/-!
What the checks of a configuration let through.  A check of a single text reads it, and
names the option and the text when it refuses.  Each value that it lets through is
within the bounds of a configuration, and a draft within the bounds passes as a whole.
-/

namespace CastLaunch
open CastLaunch.Text

/-- The check that goes with a reader of texts. -/
def checked {α : Type} (reason : String → Reason) (read : String → Option α) (flag text : String) :
    Except ConfigError α :=
  match read text with
  | some a => .ok a
  | none => .error ⟨flag, text, reason flag⟩

def Selector.read? (text : String) : Option String := if allBlank text then none else some text

def Flip.read? (text : String) : Option Flip :=
  (Orientation.ofToken? text).bind fun
    | .flip f => some f
    | .turn _ => Option.none

def Turn.read? (text : String) : Option Turn :=
  (Orientation.ofToken? text).bind fun
    | .flip _ => Option.none
    | .turn t => some t

def PortGroup.readTriple? (text : String) : Option PortTriple :=
  (read? Limits.portGroupSize text.toList).bind PortTriple.ofList?

theorem Selector.parse_eq : Selector.parse = checked (fun _ => .blank) read? := by
  funext flag text
  rw [parse, checked, read?]
  cases allBlank text <;> rfl

theorem Geometry.parse_eq : Geometry.parse = checked .geometry fun text => read? text.toList := by
  funext flag text
  rw [parse, checked]
  cases read? text.toList <;> rfl

theorem Count.parse_eq (ceiling : Int) :
    (fun flag => Count.parse flag ceiling) =
      checked (fun flag => .count flag ceiling) fun text => read? ceiling text.toList := by
  funext flag text
  rw [parse, checked]
  cases read? ceiling text.toList <;> rfl

theorem Flip.parse_eq : Flip.parse = checked (fun _ => .flip) read? := by
  funext flag text
  rw [parse, checked, read?]
  cases Orientation.ofToken? text with
  | none => rfl
  | some o => cases o <;> rfl

theorem Turn.parse_eq : Turn.parse = checked (fun _ => .rotation) read? := by
  funext flag text
  rw [parse, checked, read?]
  cases Orientation.ofToken? text with
  | none => rfl
  | some o => cases o <;> rfl

theorem PortGroup.parseTriple_eq :
    PortGroup.parseTriple = checked (fun _ => .portGroup Limits.portGroupSize) readTriple? := by
  funext flag text
  rw [parseTriple, checked, readTriple?]
  cases (read? Limits.portGroupSize text.toList).bind PortTriple.ofList? <;> rfl

namespace Text

theorem decimalNat_concat (s : List Char) (c : Char) : decimalNat (s ++ [c]) = decimalNat s * 10 + (c.toNat - 48) := by
  simp [decimalNat]

theorem decimalNat_lt {s : List Char} (digits : ∀ c ∈ s, isAsciiDigit c = true) : decimalNat s < Nat.pow 10 s.length := by
  induction s using List.reverseRecOn with
  | nil => decide
  | append_singleton s c ih =>
    have early := ih fun d member => digits d (by simp [member])
    have last := digits c (by simp)
    simp only [isAsciiDigit, Bool.and_eq_true, decide_eq_true_eq] at last
    have power : Nat.pow 10 (s.length + 1) = Nat.pow 10 s.length * 10 := rfl
    rw [decimalNat_concat, List.length_append, List.length_singleton, power]
    omega

theorem unsigned?_lt {digits n : Nat} {s : List Char} (h : unsigned? digits s = some n) : n < Nat.pow 10 digits := by
  obtain ⟨⟨-, short, all⟩, rfl⟩ := unsigned?_eq_some_iff.mp h
  exact Nat.lt_of_lt_of_le (decimalNat_lt (List.all_eq_true.mp all)) (Nat.pow_le_pow_right (by decide) short)

end Text

theorem Selector.read?_bounds {text s : String} (h : read? text = some s) : allBlank s = false := by
  rw [read?] at h
  cases blank : allBlank text with
  | true => simp [blank] at h
  | false =>
    rw [blank] at h
    cases h
    exact blank

theorem Geometry.extent?_bounds {s : List Char} {n : Nat} (h : extent? s = some n) : n ≤ Limits.maxExtent := by
  have read := (Option.filter_eq_some_iff.mp h).1
  have bound := unsigned?_lt read
  rw [Limits.maxExtent]
  omega

theorem Geometry.refresh?_bounds {s : List Char} {n : Nat} (h : refresh? s = some n) : n ≤ Limits.maxRefresh := by
  have kept := (Option.filter_eq_some_iff.mp h).2
  simp only [Bool.and_eq_true, decide_eq_true_eq] at kept
  exact kept.2

structure Geometry.Bounded (g : Geometry) : Prop where
  width : g.width ≤ Limits.maxExtent
  height : g.height ≤ Limits.maxExtent
  refresh : ∀ r, g.refresh = some r → r ≤ Limits.maxRefresh

theorem Geometry.read?_bounds {s : List Char} {g : Geometry} (h : read? s = some g) : g.Bounded := by
  simp only [read?, Option.bind_eq_bind, Option.bind_eq_some_iff] at h
  obtain ⟨rest, -, width, wide, height, high, last⟩ := h
  cases rate : (splitAtFirst '@' rest).2 with
  | none =>
    rw [rate] at last
    cases last
    exact ⟨extent?_bounds wide, extent?_bounds high, nofun⟩
  | some r =>
    simp only [rate, Option.bind_eq_some_iff] at last
    obtain ⟨refresh, fast, same⟩ := last
    cases same
    refine ⟨extent?_bounds wide, extent?_bounds high, fun r named => ?_⟩
    cases named
    exact refresh?_bounds fast

theorem Count.read?_bounds {ceiling : Nat} {s : List Char} {n : Nat} (capped : 0 < ceiling)
    (h : read? ceiling s = some n) : n ≤ ceiling := by
  have kept := (Option.filter_eq_some_iff.mp h).2
  simp only [Bool.and_eq_true, Bool.or_eq_true, decide_eq_true_eq] at kept
  omega

namespace PortGroup

theorem inRange_iff {p : Nat} : inRange p = true ↔ Limits.lowestPort ≤ p ∧ p ≤ Limits.highestPort := by
  simp [inRange]

theorem port?_bounds {s : List Char} {p : Nat} (h : port? s = some p) : inRange p = true :=
  (Option.filter_eq_some_iff.mp h).2

theorem mapM_port?_bounds {tokens : List (List Char)} {ports : List Nat} (h : tokens.mapM port? = some ports) :
    ∀ p ∈ ports, inRange p = true := by
  induction tokens generalizing ports with
  | nil =>
    cases h
    nofun
  | cons token rest ih =>
    simp only [List.mapM_cons, Option.pure_def, Option.bind_eq_bind, Option.bind_eq_some_iff] at h
    obtain ⟨first, read, others, more, same⟩ := h
    cases same
    intro p member
    rcases List.mem_cons.mp member with rfl | later
    · exact port?_bounds read
    · exact ih more p later

/-- Ports that are filled in follow one in range, and the last of them is still in range. -/
theorem complete?_bounds {count : Nat} {ports all : List Nat} (given : ∀ p ∈ ports, inRange p = true)
    (h : complete? count ports = some all) : (∀ p ∈ all, inRange p = true) ∧ all.Nodup := by
  rw [complete?] at h
  cases last : ports.getLast? with
  | none => rw [last] at h; cases h
  | some p =>
    have low := inRange_iff.mp (given p (List.mem_of_getLast? last))
    simp only [last] at h
    split at h
    · next fits =>
      cases h
      refine ⟨fun q member => ?_, fits.2⟩
      rcases List.mem_append.mp member with early | filled
      · exact given q early
      · obtain ⟨i, small, rfl⟩ := List.mem_map.mp filled
        have missing := List.mem_range.mp small
        rw [inRange_iff]
        omega
    · cases h

theorem readTriple?_valid {text : String} {t : PortTriple} (h : readTriple? text = some t) : t.Valid := by
  simp only [readTriple?, Option.bind_eq_some_iff] at h
  obtain ⟨all, read, three⟩ := h
  have same : all = t.toList := by
    unfold PortTriple.ofList? at three
    split at three
    · cases three
      rfl
    · cases three
  rw [read?] at read
  split at read
  · cases read
  · obtain ⟨ports, tokens, filled⟩ := Option.bind_eq_some_iff.mp read
    obtain ⟨bounds, distinct⟩ := complete?_bounds (mapM_port?_bounds tokens) filled
    rw [same] at bounds distinct
    exact .inr ⟨fun p member => inRange_iff.mp (bounds p member), distinct⟩

end PortGroup

/-! A draft within the bounds passes. -/

theorem Selector.parse_of_not_blank {flag text : String} (h : allBlank text = false) : parse flag text = .ok text :=
  parse_ok_iff.mpr ⟨h, rfl⟩

theorem checkRange_of_le {flag label : String} {n maximum : Nat} (h : n ≤ maximum) :
    checkRange flag label n maximum = .ok n := by
  have inside : (0 : Int) ≤ n ∧ (n : Int) ≤ maximum := by omega
  rw [checkRange, if_pos inside]
  rfl

theorem checkTimeout_of_nat (n : Nat) : checkTimeout n = .ok n := by
  have inside : (0 : Int) ≤ n := by omega
  rw [checkTimeout, if_pos inside]
  rfl

theorem checkTriple_of_valid {flag : String} {t : PortTriple} (valid : t.Valid) :
    checkTriple flag (t.toList.map Int.ofNat) = .ok t := by
  rcases valid with rfl | ⟨bounds, distinct⟩
  · rfl
  · obtain ⟨a, b, c⟩ := t
    have low := bounds a (by simp [PortTriple.toList])
    have configured : [(a : Int), b, c] ≠ [0, 0, 0] := by
      intro same
      have zero : (a : Int) = 0 := (List.cons.inj same).1
      have above : 0 < Limits.lowestPort := by decide
      omega
    have inside : [(a : Int), b, c].all (fun p => decide ((Limits.lowestPort : Int) ≤ p) &&
        decide (p ≤ Limits.highestPort)) = true := by
      simpa [PortTriple.toList] using bounds
    have apart : [(a : Int), b, c].Nodup :=
      List.Pairwise.map Int.ofNat (fun _ _ differ same => differ (Int.ofNat.inj same)) distinct
    exact (if_neg configured).trans (if_pos ⟨inside, apart⟩)

theorem Draft.validate_toDraft {c : LaunchConfig} (valid : c.Valid) : c.toDraft.validate = .ok c := by
  simp only [Draft.validate, LaunchConfig.toDraft, Selector.parse_of_not_blank valid.name,
    Selector.parse_of_not_blank valid.videoSink, Selector.parse_of_not_blank valid.audioSink,
    checkRange_of_le valid.width, checkRange_of_le valid.height, checkRange_of_le valid.refresh,
    checkRange_of_le valid.maxFps, checkTimeout_of_nat, checkTriple_of_valid valid.tcp, checkTriple_of_valid valid.udp]
  rfl

end CastLaunch
