import CastLaunch.Proofs.Configuration.Written
import CastLaunch.Proofs.Yaml.Nested

/-!
Digits without quotes.  A zero in front of digits up to seven makes an octal numeral; any
other digits stand for their decimal number, except that an eight or nine behind a leading
zero leaves a text.  As a text the value has the digits again, unless they are octal.
-/

namespace CastLaunch.Yaml
open CastLaunch.Text

def isOctalDigit (c : Char) : Bool := decide ('0' ≤ c) && decide (c ≤ '7')

/-- A zero, and no digit above seven behind it. -/
def isOctal : List Char → Bool
  | '0' :: r => r.all isOctalDigit
  | _ => false

/-- The value of octal digits. -/
def octalNat (s : List Char) : Nat := s.foldl (fun acc c => acc * 8 + (c.toNat - 48)) 0

variable {c d : Char} {t : List Char}

theorem ne_of_isAsciiDigit (digit : isAsciiDigit c = true) (other : isAsciiDigit d = false) : c ≠ d := by
  rintro rfl
  rw [digit] at other
  cases other

theorem isWordChar_of_isAsciiDigit (digit : isAsciiDigit c = true) : isWordChar c = true := by
  have plain : c.isDigit = true := by
    simpa [isAsciiDigit, Char.isDigit, UInt32.le_iff_toNat_le] using digit
  simp [isWordChar, Char.isAlphanum, plain]

theorem isWord_of_digits (given : t ≠ []) (digits : ∀ c ∈ t, isAsciiDigit c = true) : IsWord t :=
  ⟨given, fun c member => isWordChar_of_isAsciiDigit (digits c member)⟩

/-- Digits are none of the words that are not digits. -/
theorem contains_eq_false_of_digits (given : t ≠ []) (digits : ∀ c ∈ t, isAsciiDigit c = true) (words : List String)
    (others : words.all (fun w => !w.toList.all isAsciiDigit || w.toList.isEmpty) = true) :
    words.contains (String.ofList t) = false := by
  rw [List.contains_eq_any_beq, List.any_eq_false]
  rintro w member same
  have other := List.all_eq_true.mp others w member
  rw [← beq_iff_eq.mp same, String.toList_ofList, List.all_eq_true.mpr digits] at other
  simp [given] at other

theorem signed_digits (digits : ∀ c ∈ t, isAsciiDigit c = true) : signed t = (false, t) := by
  unfold signed
  split
  · exact absurd (digits '-' (by simp)) (by decide)
  · exact absurd (digits '+' (by simp)) (by decide)
  · rfl

theorem fractional?_digits (given : t ≠ []) (digits : ∀ c ∈ t, isAsciiDigit c = true) : fractional? t = none := by
  have infinite := contains_eq_false_of_digits given digits [".inf", ".Inf", ".INF"] (by decide)
  have missing := contains_eq_false_of_digits given digits [".nan", ".NaN", ".NAN"] (by decide)
  have point : atPoint? t = none := by
    have none : t.dropWhile (· != '.') = [] := List.dropWhile_eq_nil_iff.mpr fun c member =>
      bne_iff_ne.mpr (ne_of_isAsciiDigit (digits c member) (by decide))
    rw [atPoint?, none]
  simp only [fractional?, signed_digits digits, infinite, missing, point, Bool.false_eq_true, if_false]
  rfl

theorem date?_digits (digits : ∀ c ∈ t, isAsciiDigit c = true) : date? t = none := by
  unfold date?
  split
  · exact absurd (digits '-' (by simp)) (by decide)
  · rfl

theorem dropUnderscores_digits (digits : ∀ c ∈ t, isAsciiDigit c = true) : dropUnderscores t = t :=
  List.filter_eq_self.mpr fun c member => bne_iff_ne.mpr (ne_of_isAsciiDigit (digits c member) (by decide))

theorem isOctalDigit_bounds (octal : isOctalDigit c = true) : 48 ≤ c.toNat ∧ c.toNat ≤ 55 := by
  simpa [isOctalDigit, Char.le_def, UInt32.le_iff_toNat_le] using octal

theorem isAsciiDigit_of_isOctalDigit (octal : isOctalDigit c = true) : isAsciiDigit c = true := by
  have bounds := isOctalDigit_bounds octal
  simp [isAsciiDigit]
  omega

theorem ofDigits?_octal (octal : ∀ c ∈ t, isOctalDigit c = true) : ofDigits? 8 t = some (octalNat t) := by
  have read : ∀ acc, t.foldlM
      (fun acc c => (digitValue? c).bind fun v => if v < 8 then some (acc * 8 + v) else none) acc =
      some (t.foldl (fun acc c => acc * 8 + (c.toNat - 48)) acc) := by
    induction t with
    | nil => exact fun _ => rfl
    | cons c r ih =>
      intro acc
      obtain ⟨first, later⟩ := List.forall_mem_cons.mp octal
      have bounds := isOctalDigit_bounds first
      have value : digitValue? c = some (c.toNat - 48) := if_pos (by omega)
      have small : c.toNat - 48 < 8 := by omega
      rw [List.foldlM_cons, value, Option.bind_some, if_pos small]
      exact ih later _
  exact read 0

theorem unsignedWhole?_octal (octal : isOctal t = true) : unsignedWhole? t = some (.ok (octalNat t)) := by
  unfold unsignedWhole?
  split
  · exact absurd octal (by simp [isOctal, isOctalDigit])
  · exact absurd octal (by simp [isOctal, isOctalDigit])
  · next r _ _ =>
    have digits : ∀ c ∈ r, isOctalDigit c = true := List.all_eq_true.mp octal
    have run : isRun (fun d => decide ('0' ≤ d) && decide (d ≤ '7')) r = true :=
      List.all_eq_true.mpr fun c member => by
        have digit := digits c member
        rw [isOctalDigit] at digit
        simp only [digit, Bool.true_or]
    have plain := dropUnderscores_digits fun c member => isAsciiDigit_of_isOctalDigit (digits c member)
    rw [if_pos run, plain, ofDigits?_octal digits]
    rfl
  · next other =>
    unfold isOctal at octal
    split at octal
    · exact absurd rfl (other _)
    · cases octal

/-- Other digits are read in base ten when no zero leads. -/
theorem unsignedWhole?_decimal (first : t.head? ≠ some '0') (given : t ≠ []) (digits : ∀ c ∈ t, isAsciiDigit c = true) :
    unsignedWhole? t = some ((limitedNat t).mapError .numeral) := by
  have whole : t.splitOn ':' = [t] := List.splitOn_eq_singleton fun member => by
    cases digits ':' member
  unfold unsignedWhole?
  split
  · exact absurd rfl first
  · exact absurd rfl first
  · exact absurd rfl first
  · have run : isDigitRun t = true := by
      obtain ⟨c, r, rfl⟩ := List.exists_cons_of_ne_nil given
      obtain ⟨first, later⟩ := List.forall_mem_cons.mp digits
      have behind : isRun isAsciiDigit r = true := List.all_eq_true.mpr fun d member => by simp [later d member]
      rw [isDigitRun, first, behind]
      rfl
    rw [whole]
    simp only [run, List.all_nil, Bool.and_self, if_true, dropUnderscores_digits digits, sexagesimal, List.foldlM_cons]
    cases limitedNat t <;> simp [Except.mapError]

theorem unsignedWhole?_text (first : t.head? = some '0') (digits : ∀ c ∈ t, isAsciiDigit c = true)
    (decimal : isOctal t = false) : unsignedWhole? t = none := by
  unfold unsignedWhole?
  split
  · exact absurd (digits 'b' (by simp)) (by decide)
  · exact absurd (digits 'x' (by simp)) (by decide)
  · next r _ _ =>
    have same : isRun (fun d => decide ('0' ≤ d) && decide (d ≤ '7')) r = r.all isOctalDigit := by
      rw [Bool.eq_iff_iff, isRun, List.all_eq_true, List.all_eq_true]
      refine forall₂_congr fun c member => ?_
      have plain : (c == '_') = false := beq_eq_false_iff_ne.mpr
        (ne_of_isAsciiDigit (digits c (List.mem_cons_of_mem _ member)) (by decide))
      rw [plain, Bool.or_false, isOctalDigit]
    rw [same]
    exact if_neg (by simpa [isOctal] using decimal)
  · next other =>
    obtain ⟨r, rfl⟩ := List.head?_eq_some_iff.mp first
    exact absurd rfl (other r)

/-- What digits without quotes stand for. -/
theorem resolve_digits (given : t ≠ []) (digits : ∀ c ∈ t, isAsciiDigit c = true) :
    resolve (String.ofList t) =
      if isOctal t = true then .ok (.int (octalNat t))
      else if t.head? = some '0' then .ok (.text (String.ofList t))
      else (limitedNat t).mapError .numeral |>.map fun n => .int (n : Int) := by
  have null := contains_eq_false_of_digits given digits nullWords (by decide)
  have yes := contains_eq_false_of_digits given digits trueWords (by decide)
  have no := contains_eq_false_of_digits given digits falseWords (by decide)
  have sign := contains_eq_false_of_digits given digits ["<<", "="] (by decide)
  have plain : ¬(String.ofList t = "<<" ∨ String.ofList t = "=") := by simpa using sign
  simp only [resolve, null, yes, no, if_neg plain, Bool.false_eq_true, if_false, String.toList_ofList,
    fractional?_digits given digits, whole?, signed_digits digits]
  by_cases octal : isOctal t = true
  · rw [if_pos octal, unsignedWhole?_octal octal]
    rfl
  · rw [if_neg octal]
    by_cases first : t.head? = some '0'
    · rw [if_pos first, unsignedWhole?_text first digits (eq_false_of_ne_true octal), date?_digits digits]
      rfl
    · rw [if_neg first, unsignedWhole?_decimal first given digits]
      cases limitedNat t <;> rfl

theorem octalNat_concat (s : List Char) (c : Char) : octalNat (s ++ [c]) = octalNat s * 8 + (c.toNat - 48) := by
  simp [octalNat]

/-- An octal reading is never more than the decimal one, and as much only for a single digit. -/
theorem octalNat_decimalNat (octal : ∀ c ∈ t, isOctalDigit c = true) :
    octalNat t ≤ decimalNat t ∧ (octalNat t = decimalNat t ↔ decimalNat t < 8) := by
  induction t using List.reverseRecOn with
  | nil => decide
  | append_singleton s c ih =>
    have early := ih fun d member => octal d (by simp [member])
    have bounds := isOctalDigit_bounds (octal c (by simp))
    rw [octalNat_concat, decimalNat_concat]
    omega

theorem decimalNat_eq_zero (octal : ∀ c ∈ t, isOctalDigit c = true) (zero : octalNat t = 0) : decimalNat t = 0 := by
  induction t using List.reverseRecOn with
  | nil => rfl
  | append_singleton s c ih =>
    have early := ih fun d member => octal d (by simp [member])
    rw [octalNat_concat] at zero
    rw [decimalNat_concat]
    omega

theorem isOctalDigit_of_isOctal (octal : isOctal t = true) : ∀ c ∈ t, isOctalDigit c = true := by
  unfold isOctal at octal
  split at octal
  · exact List.forall_mem_cons.mpr ⟨by decide, List.all_eq_true.mp octal⟩
  · cases octal

end CastLaunch.Yaml
