import CastLaunch.Text.Utf8
import Mathlib.Data.List.Basic

/-!
Decoding against encoding.  A first byte that announces others and the bytes that it
announces are the one spelling of a character, and every character has one.  So a text
comes out of decoding exactly when its encoding went in, and bytes that encode no text
are refused.
-/

namespace CastLaunch.Text.Utf8

def encode (s : List Char) : List UInt8 := s.flatMap String.utf8EncodeChar

/-- The bytes that stand for a code point. -/
def spelling (n : Nat) : List Nat :=
  if n ≤ 0x7F then [n]
  else if n ≤ 0x7FF then [n / 64 + 0xC0, n % 64 + 0x80]
  else if n ≤ 0xFFFF then [n / 4096 + 0xE0, n / 64 % 64 + 0x80, n % 64 + 0x80]
  else [n / 262144 + 0xF0, n / 4096 % 64 + 0x80, n / 64 % 64 + 0x80, n % 64 + 0x80]

theorem toNat_encodeChar (c : Char) : (String.utf8EncodeChar c).map UInt8.toNat = spelling c.toNat := by
  have valid : c.toNat.isValidChar := c.valid
  have value : c.val.toNat = c.toNat := rfl
  rw [Nat.isValidChar] at valid
  simp only [String.utf8EncodeChar, spelling, value]
  split_ifs
  all_goals
    simp only [List.map_cons, List.map_nil, UInt8.toNat_ofNat', List.cons.injEq, and_true]
    omega

/-- Whether the bytes can stand behind a first byte that bounds the next one. -/
def Follows : Nat → Nat → List Nat → Prop
  | _, _, [] => True
  | low, high, b :: r => (low ≤ b ∧ b ≤ high) ∧ Follows 0x80 0xBF r

/-- The bits with six more from each byte. -/
def extend (bits : Nat) (more : List Nat) : Nat := more.foldl (fun acc b => acc * 64 + (b - 0x80)) bits

theorem extend_cons (bits b : Nat) (more : List Nat) :
    extend bits (b :: more) = extend (bits * 64 + (b - 0x80)) more :=
  List.foldl_cons ..

theorem tails_eq_ok_iff {owed low high bits n : Nat} {rest behind : List UInt8} :
    tails owed low high bits rest = .ok (n, behind) ↔ ∃ more, rest = more ++ behind ∧ more.length = owed ∧
      Follows low high (more.map UInt8.toNat) ∧ extend bits (more.map UInt8.toNat) = n := by
  induction owed generalizing low high bits rest with
  | zero =>
    rw [tails]
    constructor
    · intro same
      cases same
      exact ⟨[], rfl, rfl, trivial, rfl⟩
    · rintro ⟨more, rfl, none, -, rfl⟩
      obtain rfl := List.length_eq_zero_iff.mp none
      rfl
  | succ owed ih =>
    cases rest with
    | nil =>
      constructor
      · intro same
        cases same
      · rintro ⟨more, none, length, -, -⟩
        obtain ⟨rfl, -⟩ := List.append_eq_nil_iff.mp none.symm
        cases length
    | cons b rest =>
      have step : tails (owed + 1) low high bits (b :: rest) = .ok (n, behind) ↔
          (low ≤ b.toNat ∧ b.toNat ≤ high) ∧
            tails owed 0x80 0xBF (bits * 64 + (b.toNat - 0x80)) rest = .ok (n, behind) := by
        rw [tails]
        split
        · next within =>
          cases tails owed 0x80 0xBF (bits * 64 + (b.toNat - 0x80)) rest <;> simp [within]
        · next outside => simp [outside]
      rw [step, ih]
      constructor
      · rintro ⟨within, more, rfl, length, follows, rfl⟩
        exact ⟨b :: more, rfl, by rw [List.length_cons, length], ⟨within, follows⟩, extend_cons ..⟩
      · rintro ⟨more, split, length, follows, rfl⟩
        cases more with
        | nil => cases length
        | cons c more =>
          obtain ⟨rfl, rfl⟩ := List.cons.inj split
          exact ⟨follows.1, more, rfl, Nat.succ.inj length, follows.2, (extend_cons ..).symm⟩

theorem lead_eq_none_iff {b : Nat} : lead b = none ↔ (0x80 ≤ b ∧ b < 0xC2) ∨ 0xF4 < b := by
  unfold lead
  repeat' split
  all_goals
    simp only [reduceCtorEq, false_iff, true_iff]
    omega

theorem lead_cases {b owed low high bits : Nat} (announced : lead b = some (owed, low, high, bits)) :
    (owed = 0 ∧ b < 0x80 ∧ bits = b) ∨
    (owed = 1 ∧ (0xC2 ≤ b ∧ b < 0xE0) ∧ low = 0x80 ∧ high = 0xBF ∧ bits = b - 0xC0) ∨
    (owed = 2 ∧ (0xE0 ≤ b ∧ b < 0xF0) ∧ (b = 0xE0 ∧ low = 0xA0 ∨ b ≠ 0xE0 ∧ low = 0x80) ∧
      (b = 0xED ∧ high = 0x9F ∨ b ≠ 0xED ∧ high = 0xBF) ∧ bits = b - 0xE0) ∨
    (owed = 3 ∧ (0xF0 ≤ b ∧ b ≤ 0xF4) ∧ (b = 0xF0 ∧ low = 0x90 ∨ b ≠ 0xF0 ∧ low = 0x80) ∧
      (b = 0xF4 ∧ high = 0x8F ∨ b ≠ 0xF4 ∧ high = 0xBF) ∧ bits = b - 0xF0) := by
  unfold lead at announced
  repeat' split at announced
  all_goals cases announced
  all_goals omega

/-- Byte values that are taken for one code point. -/
def Taken (b : Nat) (more : List Nat) (n : Nat) : Prop :=
  ∃ owed low high bits, lead b = some (owed, low, high, bits) ∧ more.length = owed ∧ Follows low high more ∧
    extend bits more = n

theorem spelling_of_taken {b n : Nat} {more : List Nat} (taken : Taken b more n) :
    n.isValidChar ∧ spelling n = b :: more := by
  obtain ⟨owed, low, high, bits, announced, length, follows, value⟩ := taken
  rw [Nat.isValidChar, spelling]
  -- The bounds of the second byte keep the code point out of the shorter forms and the surrogates.
  rcases lead_cases announced with ⟨rfl, first⟩ | ⟨rfl, first⟩ | ⟨rfl, first⟩ | ⟨rfl, first⟩
  · obtain rfl := List.length_eq_zero_iff.mp length
    simp only [extend, List.foldl_nil] at value
    rw [if_pos (by omega)]
    simp only [List.cons.injEq, and_true]
    omega
  · obtain ⟨x, rfl⟩ := List.length_eq_one_iff.mp length
    simp only [Follows, and_true] at follows
    simp only [extend, List.foldl_cons, List.foldl_nil] at value
    rw [if_neg (by omega), if_pos (by omega)]
    simp only [List.cons.injEq, and_true]
    omega
  · obtain ⟨x, y, rfl⟩ := List.length_eq_two.mp length
    simp only [Follows, and_true] at follows
    simp only [extend, List.foldl_cons, List.foldl_nil] at value
    rw [if_neg (by omega), if_neg (by omega), if_pos (by omega)]
    simp only [List.cons.injEq, and_true]
    omega
  · obtain ⟨x, y, z, rfl⟩ := List.length_eq_three.mp length
    simp only [Follows, and_true] at follows
    simp only [extend, List.foldl_cons, List.foldl_nil] at value
    rw [if_neg (by omega), if_neg (by omega), if_neg (by omega)]
    simp only [List.cons.injEq, and_true]
    omega

theorem taken_of_spelling {b n : Nat} {more : List Nat} (valid : n.isValidChar) (spelled : spelling n = b :: more) :
    Taken b more n := by
  rw [Nat.isValidChar] at valid
  unfold spelling at spelled
  rcases announced : lead b with _ | ⟨owed, low, high, bits⟩
  · have wrong := lead_eq_none_iff.mp announced
    repeat' split at spelled
    all_goals
      obtain ⟨first, -⟩ := List.cons.inj spelled
      omega
  · have shape := lead_cases announced
    refine ⟨owed, low, high, bits, announced, ?_⟩
    repeat' split at spelled
    all_goals
      obtain ⟨first, rfl⟩ := List.cons.inj spelled
      simp only [Follows, and_true, true_and, extend, List.foldl_cons, List.foldl_nil, List.length_cons, List.length_nil]
      omega

theorem encodeChar_eq_iff {c : Char} {b : UInt8} {more : List UInt8} :
    String.utf8EncodeChar c = b :: more ↔ Taken b.toNat (more.map UInt8.toNat) c.toNat := by
  have bytewise : Function.Injective UInt8.toNat := fun _ _ => UInt8.toNat_inj.mp
  calc String.utf8EncodeChar c = b :: more
    _ ↔ spelling c.toNat = b.toNat :: more.map UInt8.toNat := by
      rw [← toNat_encodeChar, ← List.map_cons, (List.map_injective_iff.mpr bytewise).eq_iff]
    _ ↔ Taken b.toNat (more.map UInt8.toNat) c.toNat :=
      ⟨taken_of_spelling c.valid, fun taken => (spelling_of_taken taken).2⟩

/-- Decoding takes the bytes of one character at a time. -/
theorem decodeFrom_cons_eq_ok_iff {fuel pos : Nat} {b : UInt8} {rest : List UInt8} {s : List Char} :
    decodeFrom (fuel + 1) pos (b :: rest) = .ok s ↔ ∃ c r more behind, s = c :: r ∧ rest = more ++ behind ∧
      String.utf8EncodeChar c = b :: more ∧ decodeFrom fuel (pos + 1 + more.length) behind = .ok r := by
  simp only [encodeChar_eq_iff]
  constructor
  · intro decoded
    rw [decodeFrom] at decoded
    split at decoded
    · cases decoded
    · next owed low high bits announced =>
      split at decoded
      · next n behind taken =>
        obtain ⟨more, rfl, rfl, follows, value⟩ := tails_eq_ok_iff.mp taken
        have read : Taken b.toNat (more.map UInt8.toNat) n :=
          ⟨_, _, _, _, announced, List.length_map .., follows, value⟩
        cases later : decodeFrom fuel (pos + 1 + more.length) behind with
        | error fault => rw [later] at decoded; cases decoded
        | ok r =>
          rw [later] at decoded
          cases decoded
          obtain ⟨c, rfl⟩ : ∃ c : Char, c.toNat = n := ⟨Char.ofNatAux n (spelling_of_taken read).1, rfl⟩
          rw [Char.ofNat_toNat]
          exact ⟨c, r, more, behind, rfl, rfl, read, later⟩
      · cases decoded
  · rintro ⟨c, r, more, behind, rfl, rfl, ⟨owed, low, high, bits, announced, length, follows, value⟩, later⟩
    obtain rfl := (List.length_map ..).symm.trans length
    have taken : tails more.length low high bits (more ++ behind) = .ok (c.toNat, behind) :=
      tails_eq_ok_iff.mpr ⟨more, rfl, rfl, follows, value⟩
    simp only [decodeFrom, announced, taken, later, Char.ofNat_toNat]
    rfl

theorem encode_cons (c : Char) (r : List Char) : encode (c :: r) = String.utf8EncodeChar c ++ encode r :=
  List.flatMap_cons ..

theorem encode_eq_nil_iff {s : List Char} : encode s = [] ↔ s = [] := by
  rw [encode, List.flatMap_eq_nil_iff]
  constructor
  · intro silent
    exact List.eq_nil_iff_forall_not_mem.mpr fun c member => String.utf8EncodeChar_ne_nil (silent c member)
  · rintro rfl c member
    cases member

theorem encode_of_ascii {s : List Char} (ascii : ∀ c ∈ s, c.toNat < 128) :
    encode s = s.map fun c => UInt8.ofNat c.toNat := by
  induction s with
  | nil => rfl
  | cons c r ih =>
    obtain ⟨first, later⟩ := List.forall_mem_cons.mp ascii
    have small : c.val.toNat ≤ 127 := Nat.le_of_lt_succ first
    rw [encode_cons, ih later, String.utf8EncodeChar]
    simp only [small, if_true]
    rfl

theorem decodeFrom_eq_ok_iff {fuel pos : Nat} {bytes : List UInt8} {s : List Char} (enough : bytes.length ≤ fuel) :
    decodeFrom fuel pos bytes = .ok s ↔ encode s = bytes := by
  -- Every character takes a byte at least, so the fuel outlasts the bytes.
  induction fuel generalizing pos bytes s with
  | zero =>
    obtain rfl := List.length_eq_zero_iff.mp (Nat.le_zero.mp enough)
    rw [decodeFrom, encode_eq_nil_iff, Except.ok.injEq, eq_comm]
  | succ fuel ih =>
    cases bytes with
    | nil => rw [decodeFrom, encode_eq_nil_iff, Except.ok.injEq, eq_comm]
    | cons b rest =>
      rw [decodeFrom_cons_eq_ok_iff]
      constructor
      · rintro ⟨c, r, more, behind, rfl, rfl, spelled, later⟩
        rw [List.length_cons, List.length_append] at enough
        rw [encode_cons, spelled, (ih (by omega)).mp later, List.cons_append]
      · intro encoded
        cases s with
        | nil => cases encoded
        | cons c r =>
          rw [encode_cons] at encoded
          obtain ⟨first, more, spelled⟩ := List.exists_cons_of_ne_nil (String.utf8EncodeChar_ne_nil (c := c))
          rw [spelled, List.cons_append] at encoded
          obtain ⟨rfl, rfl⟩ := List.cons.inj encoded
          rw [List.length_cons, List.length_append] at enough
          exact ⟨c, r, more, encode r, rfl, rfl, spelled, (ih (by omega)).mpr rfl⟩

/-- A text comes out of decoding exactly when its encoding goes in. -/
theorem decode_eq_ok_iff {bytes : List UInt8} {s : List Char} : decode bytes = .ok s ↔ encode s = bytes :=
  decodeFrom_eq_ok_iff (Nat.le_refl _)

theorem encode_injective : Function.Injective encode := fun _ _ same =>
  Except.ok.inj ((decode_eq_ok_iff.mpr same).symm.trans (decode_eq_ok_iff.mpr rfl))

end CastLaunch.Text.Utf8
