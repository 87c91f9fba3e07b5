import CastLaunch.Proofs.Configuration.Refusals
import Mathlib.Data.List.TakeWhile

/-!
Values as they are written.  A number, a geometry, a group of ports or an orientation that
has been written is read back as what it was, as long as its reader takes that many digits
and the value is within the bounds.  Digits without a leading zero are the writing of the number that
they stand for.
-/

namespace CastLaunch
open CastLaunch.Text

namespace Text

theorem decimalNat_eq_ofDigitChars (s : List Char) : decimalNat s = Nat.ofDigitChars 10 s 0 := by
  rw [decimalNat, Nat.ofDigitChars]
  congr
  funext acc c
  rw [Nat.mul_comm]
  rfl

theorem decimalNat_toDigits (n : Nat) : decimalNat (Nat.toDigits 10 n) = n := by
  rw [decimalNat_eq_ofDigitChars, Nat.ofDigitChars_ten_toDigits]

theorem isAsciiDigit_of_isDigit {c : Char} (digit : c.isDigit = true) : isAsciiDigit c = true := by
  simpa [isAsciiDigit, Char.isDigit, UInt32.le_iff_toNat_le] using digit

theorem isAsciiDigit_toDigits {n : Nat} : ∀ c ∈ Nat.toDigits 10 n, isAsciiDigit c = true := fun _ member =>
  isAsciiDigit_of_isDigit (Nat.isDigit_of_mem_toDigits (by decide) (by decide) member)

theorem digitChar_of_isAsciiDigit {c : Char} (digit : isAsciiDigit c = true) : Nat.digitChar (c.toNat - 48) = c := by
  simp only [isAsciiDigit, Bool.and_eq_true, decide_eq_true_eq] at digit
  refine Char.toNat_inj.mp ?_
  rw [Nat.toNat_digitChar_of_lt_ten (by omega)]
  omega

/-- Digits without a leading zero are written again as they were. -/
theorem toDigits_decimalNat {s : List Char} (given : s ≠ []) (digits : ∀ c ∈ s, isAsciiDigit c = true)
    (first : s.head? ≠ some '0') : Nat.toDigits 10 (decimalNat s) = s := by
  induction s using List.reverseRecOn with
  | nil => exact absurd rfl given
  | append_singleton s c ih =>
    have last : isAsciiDigit c = true := digits c (by simp)
    have small : c.toNat - 48 < 10 := by
      simp only [isAsciiDigit, Bool.and_eq_true, decide_eq_true_eq] at last
      omega
    have single : Nat.toDigits 10 (c.toNat - 48) = [c] := by
      rw [Nat.toDigits_of_lt_base small, digitChar_of_isAsciiDigit last]
    rw [decimalNat_concat]
    by_cases empty : s = []
    · rw [empty]
      simpa [decimalNat] using single
    · have early : s.head? ≠ some '0' := by
        cases s with
        | nil => exact absurd rfl empty
        | cons d r => exact first
      have written := ih empty (fun d member => digits d (by simp [member])) early
      have positive : 0 < decimalNat s := by
        refine Nat.pos_of_ne_zero fun zero => early ?_
        rw [← written, zero]
        rfl
      rw [Nat.mul_comm, ← Nat.toDigits_append_toDigits (by decide) positive small, written, single]

theorem isAsciiDigit_iff {c : Char} : isAsciiDigit c = true ↔ '0' ≤ c ∧ c ≤ '9' := by
  simp only [isAsciiDigit, Bool.and_eq_true, decide_eq_true_eq, Char.le_def, UInt32.le_iff_toNat_le]
  rfl

/-- One to so many ASCII digits, and the number that they stand for. -/
structure Numeral (most : Nat) (s : List Char) (n : Nat) : Prop where
  length : 1 ≤ s.length ∧ s.length ≤ most
  digits : ∀ c ∈ s, '0' ≤ c ∧ c ≤ '9'
  value : Nat.ofDigitChars 10 s 0 = n

theorem unsigned?_eq_some_iff_numeral {most n : Nat} {s : List Char} : unsigned? most s = some n ↔ Numeral most s n := by
  have digits : s.all isAsciiDigit = true ↔ ∀ c ∈ s, '0' ≤ c ∧ c ≤ '9' := by
    rw [List.all_eq_true]
    exact forall₂_congr fun c _ => isAsciiDigit_iff
  rw [unsigned?_eq_some_iff, digits, decimalNat_eq_ofDigitChars]
  constructor
  · rintro ⟨⟨given, short, all⟩, value⟩
    exact ⟨⟨given, short⟩, all, value⟩
  · intro numeral
    exact ⟨⟨numeral.length.1, numeral.length.2, numeral.digits⟩, numeral.value⟩

theorem unsigned?_digits {s : List Char} (given : s ≠ []) (digits : ∀ c ∈ s, isAsciiDigit c = true) (most : Nat) :
    unsigned? most s = if s.length ≤ most then some (decimalNat s) else none := by
  have all := List.all_eq_true.mpr digits
  have some? := List.length_pos_iff.mpr given
  simp only [unsigned?, some?, all, true_and, and_true]

theorem toList_natText (n : Nat) : (natText n).toList = Nat.toDigits 10 n := String.toList_ofList

theorem length_toDigits_le_iff {digits : Nat} (some? : 0 < digits) (n : Nat) :
    (Nat.toDigits 10 n).length ≤ digits ↔ n < Nat.pow 10 digits :=
  Nat.length_toDigits_le_iff (by decide) some?

/-- A number of at most so many digits is read back. -/
theorem unsigned?_natText {digits : Nat} (some? : 0 < digits) (n : Nat) :
    unsigned? digits (natText n).toList = if n < Nat.pow 10 digits then some n else none := by
  have given : Nat.toDigits 10 n ≠ [] := List.length_pos_iff.mp Nat.length_toDigits_pos
  rw [toList_natText, unsigned?_digits given isAsciiDigit_toDigits, decimalNat_toDigits]
  simp only [length_toDigits_le_iff some?]

theorem isWritable_iff (n : Nat) : isWritable n = true ↔ (Nat.toDigits 10 n).length ≤ longestNumeral := by
  rw [isWritable, decide_eq_true_eq, Int.natAbs_natCast, length_toDigits_le_iff (by decide)]

end Text

/-! Counts. -/

theorem Count.read?_natText {ceiling n : Nat} (positive : 0 < n) (fits : n < Nat.pow 10 Limits.countDigits)
    (capped : ceiling = 0 ∨ n ≤ ceiling) : read? ceiling (natText n).toList = some n := by
  rw [read?, unsigned?_natText (by decide), if_pos fits, Option.filter_some, if_pos]
  simp
  omega

theorem natText_eq_zero_iff {n : Nat} : natText n = "0" ↔ n = 0 := by
  constructor
  · intro same
    have value := decimalNat_toDigits n
    rw [← toList_natText, same] at value
    exact value.symm
  · rintro rfl
    rfl

theorem Settings.seconds?_natText {n : Nat} (fits : n < Nat.pow 10 Limits.countDigits) :
    seconds? (natText n) = some n := by
  rw [seconds?]
  split
  · next zero => rw [natText_eq_zero_iff.mp zero]
  · next given =>
    have positive : 0 < n := Nat.pos_of_ne_zero fun zero => given (natText_eq_zero_iff.mpr zero)
    exact Count.read?_natText positive fits (.inl rfl)

/-! Geometry. -/

theorem splitAtFirst_append {c : Char} {s r : List Char} (early : c ∉ s) :
    splitAtFirst c (s ++ c :: r) = (s, some r) := by
  have apart : ∀ d ∈ s, (d != c) = true := fun d member => bne_iff_ne.mpr fun same => early (same ▸ member)
  rw [splitAtFirst, List.dropWhile_append_of_pos apart, List.takeWhile_append_of_pos apart]
  simp

theorem splitAtFirst_of_not_mem {c : Char} {s : List Char} (absent : c ∉ s) : splitAtFirst c s = (s, none) := by
  have apart : ∀ d ∈ s, (d != c) = true := fun d member => bne_iff_ne.mpr fun same => absent (same ▸ member)
  rw [splitAtFirst, List.dropWhile_eq_nil_iff.mpr apart]

theorem not_mem_natText {c : Char} (other : isAsciiDigit c = false) (n : Nat) : c ∉ (natText n).toList := by
  rw [toList_natText]
  intro member
  rw [isAsciiDigit_toDigits c member] at other
  cases other

/-- A geometry that has a written form: no extent is zero, and neither is a refresh rate. -/
structure Geometry.Expressible (g : Geometry) : Prop where
  width : 0 < g.width ∧ g.width ≤ Limits.maxExtent
  height : 0 < g.height ∧ g.height ≤ Limits.maxExtent
  refresh : ∀ r, g.refresh = some r → 0 < r ∧ r ≤ Limits.maxRefresh

namespace Geometry

theorem extent?_natText {n : Nat} (bounds : 0 < n ∧ n ≤ Limits.maxExtent) : extent? (natText n).toList = some n := by
  have fits : n < Nat.pow 10 Limits.geometryDigits := by
    have positive : 0 < Nat.pow 10 Limits.geometryDigits := by decide
    have above := bounds.2
    rw [Limits.maxExtent] at above
    omega
  rw [extent?, unsigned?_natText (by decide), if_pos fits, Option.filter_some, if_pos]
  simp
  omega

theorem refresh?_natText {n : Nat} (bounds : 0 < n ∧ n ≤ Limits.maxRefresh) : refresh? (natText n).toList = some n := by
  have fits : n < Nat.pow 10 Limits.refreshDigits := Nat.lt_of_le_of_lt bounds.2 (by decide)
  rw [refresh?, unsigned?_natText (by decide), if_pos fits, Option.filter_some, if_pos]
  simp
  omega

theorem read?_written {g : Geometry} (expressible : g.Expressible) : read? g.written.toList = some g := by
  obtain ⟨w, h, rate⟩ := g
  obtain ⟨wide, high, fast⟩ := expressible
  have width := extent?_natText wide
  have height := extent?_natText high
  have noX : 'x' ∉ (natText w).toList := not_mem_natText (by decide) w
  have noAt : '@' ∉ (natText h).toList := not_mem_natText (by decide) h
  cases rate with
  | none =>
    have text : (written ⟨w, h, none⟩).toList = (natText w).toList ++ 'x' :: (natText h).toList := by
      simp [written, String.toList_append]
    rw [read?, text, splitAtFirst_append noX]
    simp [splitAtFirst_of_not_mem noAt, width, height]
  | some r =>
    have text : (written ⟨w, h, some r⟩).toList =
        (natText w).toList ++ 'x' :: ((natText h).toList ++ '@' :: (natText r).toList) := by
      simp [written, String.toList_append]
    rw [read?, text, splitAtFirst_append noX]
    simp [splitAtFirst_append noAt, width, height, refresh?_natText (fast r rfl)]

end Geometry

/-! Ports. -/

namespace PortGroup

theorem port?_natText {p : Nat} (fits : inRange p = true) : port? (natText p).toList = some p := by
  have low : p < Nat.pow 10 Limits.portDigits := Nat.lt_of_le_of_lt (inRange_iff.mp fits).2 (by decide)
  rw [port?, unsigned?_natText (by decide), if_pos low, Option.filter_some, if_pos fits]

/-- A full group stays as it is. -/
theorem complete?_full {ports : List Nat} {last : Nat} (ends : ports.getLast? = some last)
    (high : last ≤ Limits.highestPort) (distinct : ports.Nodup) : complete? ports.length ports = some ports := by
  rw [complete?, ends]
  simp only [Nat.sub_self, following, List.range_zero, List.map_nil, List.append_nil, Nat.add_zero]
  exact if_pos ⟨high, distinct⟩

theorem readTriple?_written {t : PortTriple} (bounds : ∀ p ∈ t.toList, Limits.lowestPort ≤ p ∧ p ≤ Limits.highestPort)
    (distinct : t.toList.Nodup) : readTriple? (written t) = some t := by
  have tokens : (written t).toList.splitOn ',' = t.toList.map fun p => (natText p).toList := by
    rw [written, String.toList_intercalate, List.map_map]
    refine List.splitOn_intercalate ',' ?_ (by simp [PortTriple.toList])
    intro l member
    obtain ⟨p, -, rfl⟩ := List.mem_map.mp member
    exact not_mem_natText (by decide) p
  obtain ⟨a, b, c⟩ := t
  have first := port?_natText (inRange_iff.mpr (bounds a (by simp [PortTriple.toList])))
  have second := port?_natText (inRange_iff.mpr (bounds b (by simp [PortTriple.toList])))
  have third := port?_natText (inRange_iff.mpr (bounds c (by simp [PortTriple.toList])))
  have high := (bounds c (by simp [PortTriple.toList])).2
  have ports : (read? Limits.portGroupSize (written ⟨a, b, c⟩).toList) = some [a, b, c] := by
    have all : ([a, b, c].map fun p => (natText p).toList).mapM port? = some [a, b, c] := by
      simp [first, second, third]
    rw [read?, tokens]
    simp only [PortTriple.toList, all]
    exact complete?_full rfl high distinct
  rw [readTriple?, ports]
  rfl

end PortGroup

theorem Flip.read?_letter {f : Flip} (chosen : f ≠ .none) : read? f.letter = some f := by
  cases f with
  | none => exact absurd rfl chosen
  | _ => rfl

theorem Turn.read?_letter {t : Turn} (chosen : t ≠ .none) : read? t.letter = some t := by
  cases t with
  | none => exact absurd rfl chosen
  | _ => rfl

theorem Selector.read?_of_not_blank {s : String} (visible : allBlank s = false) : read? s = some s := by
  rw [read?, visible]
  rfl

end CastLaunch
