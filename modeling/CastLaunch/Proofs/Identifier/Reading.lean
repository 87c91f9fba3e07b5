import CastLaunch.Identifier
import Mathlib.Data.List.Forall2

/-!
Which texts are read as an identifier.  Six pairs of ASCII hexadecimal digits between
colons always are, with the octets that they spell.  A pair may also be one digit beside a
blank or behind a sign, and its digits may be decimal digits of any script.  Texts with such
a pair are all that is read beyond the written form.
-/

namespace CastLaunch
open CastLaunch.Text

namespace Text

/-- The value of an ASCII hexadecimal digit. -/
def hexDigit? (c : Char) : Option Nat := (digitValue? c).bind fun v => if v < 16 then some v else none

theorem decimalValue?_lt {c : Char} {n : Nat} (digit : decimalValue? c = some n) : n < 10 := by
  obtain ⟨origin, found, rfl⟩ := Option.map_eq_some_iff.mp digit
  have within := List.find?_some found
  simp only [Bool.and_eq_true, decide_eq_true_eq] at within
  omega

theorem hexDigit?_digitChar {n : Nat} (small : n < 10) : hexDigit? (Nat.digitChar n) = some n := by
  have all : ∀ m < 10, hexDigit? (Nat.digitChar m) = some m := by decide
  exact all n small

theorem lt_of_hexDigit? {c : Char} {n : Nat} (digit : hexDigit? c = some n) : c.toNat < 127 := by
  obtain ⟨v, value, -⟩ := Option.bind_eq_some_iff.mp digit
  simp only [digitValue?] at value
  repeat' split at value
  all_goals first | omega | cases value

theorem digitStep_eq (acc : Nat) (c : Char) :
    ((digitValue? c).bind fun v => if v < 16 then some (acc * 16 + v) else none) =
      (hexDigit? c).map (acc * 16 + ·) := by
  unfold hexDigit?
  cases digitValue? c with
  | none => rfl
  | some v =>
    simp only [Option.bind_some]
    split <;> rfl

theorem ofDigits?_single (c : Char) : ofDigits? 16 [c] = hexDigit? c := by
  simp only [ofDigits?, digitStep_eq, List.foldlM_cons, List.foldlM_nil]
  cases hexDigit? c <;> simp

theorem ofDigits?_pair (c d : Char) :
    ofDigits? 16 [c, d] = (hexDigit? c).bind fun x => (hexDigit? d).map (x * 16 + ·) := by
  simp only [ofDigits?, digitStep_eq, List.foldlM_cons, List.foldlM_nil]
  cases hexDigit? c <;> cases hexDigit? d <;> simp

end Text

namespace DeviceIdentifier

/-- The value of a character where any digit counts: an ASCII hexadecimal digit or a decimal digit
of another script. -/
def anyDigit? (c : Char) : Option Nat :=
  if c.toNat < 127 then hexDigit? c else if isBlank c then none else decimalValue? c

theorem hexDigit?_plainChar (c : Char) : hexDigit? (plainChar c) = anyDigit? c := by
  unfold plainChar anyDigit?
  split
  · rfl
  · split
    · decide
    · cases digit : decimalValue? c with
      | none => decide
      | some n => exact hexDigit?_digitChar (decimalValue?_lt digit)

theorem anyDigit?_of_padding {c : Char} (blank : isPadding (plainChar c) = true) : anyDigit? c = none := by
  rw [← hexDigit?_plainChar]
  generalize plainChar c = b at blank
  simp only [isPadding, Bool.or_eq_true, beq_iff_eq, Bool.and_eq_true, decide_eq_true_eq] at blank
  rcases blank with rfl | range
  · decide
  · have small : b.toNat ≤ 13 := range.2
    simp only [hexDigit?, digitValue?]
    rw [if_neg (by omega), if_neg (by omega), if_neg (by omega)]
    rfl

theorem plainChar_of_large {c : Char} (large : ¬ c.toNat < 127) :
    plainChar c ∈ ' ' :: '?' :: (List.range 10).map Nat.digitChar := by
  unfold plainChar
  rw [if_neg large]
  split
  · decide
  · cases digit : decimalValue? c with
    | none => decide
    | some n =>
      have member : n ∈ List.range 10 := List.mem_range.mpr (decimalValue?_lt digit)
      exact List.mem_cons_of_mem _ (List.mem_cons_of_mem _ (List.mem_map_of_mem member))

theorem plainChar_eq_iff {c sign : Char} (small : sign.toNat < 127)
    (other : sign ∉ ' ' :: '?' :: (List.range 10).map Nat.digitChar) : plainChar c = sign ↔ c = sign := by
  by_cases same : c.toNat < 127
  · rw [plainChar, if_pos same]
  · exact iff_of_false (fun plain => other (plain ▸ plainChar_of_large same)) (fun plain => same (plain ▸ small))

def number? (digits : List Char) : Option Nat := if digits = [] then none else ofDigits? 16 digits

theorem number?_single (c : Char) : number? [c] = hexDigit? c := by
  rw [number?, if_neg (List.cons_ne_nil _ _), ofDigits?_single]

theorem number?_pair (c d : Char) : number? [c, d] = (hexDigit? c).bind fun x => (hexDigit? d).map (x * 16 + ·) := by
  rw [number?, if_neg (List.cons_ne_nil _ _), ofDigits?_pair]

/-- The number behind an optional sign. -/
def signed? : List Char → Option Int
  | '-' :: digits => (number? digits).map fun n => -(n : Int)
  | '+' :: digits => (number? digits).map Int.ofNat
  | digits => (number? digits).map Int.ofNat

theorem signed?_single (c : Char) : signed? [c] = (hexDigit? c).map Int.ofNat := by
  unfold signed?
  split
  · next same =>
    cases same
    decide
  · next same =>
    cases same
    decide
  · rw [number?_single]

theorem signed?_pair (c d : Char) : signed? [c, d] =
    if c = '-' then (hexDigit? d).map fun y : Nat => -Int.ofNat y
    else if c = '+' then (hexDigit? d).map Int.ofNat
    else (hexDigit? c).bind fun x => (hexDigit? d).map fun y => Int.ofNat (x * 16 + y) := by
  unfold signed?
  split
  · next same =>
    cases same
    rw [if_pos rfl, number?_single]
    cases hexDigit? d <;> rfl
  · next same =>
    cases same
    rw [if_neg (by decide), if_pos rfl, number?_single]
  · next minus plus =>
    have notMinus : c ≠ '-' := fun same => minus [d] (congrArg (· :: [d]) same)
    have notPlus : c ≠ '+' := fun same => plus [d] (congrArg (· :: [d]) same)
    rw [if_neg notMinus, if_neg notPlus, number?_pair, Option.map_bind]
    simp only [Function.comp_def, Option.map_map]

theorem unpadded_pair (c d : Char) : dropEnd isPadding ([c, d].dropWhile isPadding) =
    if isPadding c then (if isPadding d then [] else [d]) else if isPadding d then [c] else [c, d] := by
  cases first : isPadding c <;> cases second : isPadding d <;> simp [dropEnd, first, second]

theorem partValue?_pair (c d : Char) : partValue? [c, d] =
    if isPadding (plainChar c) then (anyDigit? d).map Int.ofNat
    else if isPadding (plainChar d) then (anyDigit? c).map Int.ofNat
    else if c = '-' then (anyDigit? d).map fun y : Nat => -Int.ofNat y
    else if c = '+' then (anyDigit? d).map Int.ofNat
    else (anyDigit? c).bind fun x => (anyDigit? d).map fun y => Int.ofNat (x * 16 + y) := by
  have whole : partValue? [c, d] = signed? (dropEnd isPadding ([plainChar c, plainChar d].dropWhile isPadding)) := rfl
  have minus : plainChar c = '-' ↔ c = '-' := plainChar_eq_iff (by decide) (by decide)
  have plus : plainChar c = '+' ↔ c = '+' := plainChar_eq_iff (by decide) (by decide)
  rw [whole, unpadded_pair]
  -- A sign that is left alone beside a blank is no digit, so both ways with one blank read one digit.
  by_cases first : isPadding (plainChar c) = true
  · rw [if_pos first, if_pos first]
    by_cases second : isPadding (plainChar d) = true
    · rw [if_pos second, anyDigit?_of_padding second]
      rfl
    · rw [if_neg second, signed?_single, hexDigit?_plainChar]
  · rw [if_neg first, if_neg first]
    by_cases second : isPadding (plainChar d) = true
    · rw [if_pos second, if_pos second, signed?_single, hexDigit?_plainChar]
    · rw [if_neg second, if_neg second, signed?_pair, hexDigit?_plainChar, hexDigit?_plainChar]
      simp only [minus, plus]

/-- Two ASCII hexadecimal digits. -/
inductive HexPair : List Char → Nat → Prop
  | digits {c d : Char} {x y : Nat} : hexDigit? c = some x → hexDigit? d = some y → HexPair [c, d] (x * 16 + y)

/-- Two other characters that are read as an octet: a digit behind a sign or beside a blank, or two
digits of which one is outside ASCII. -/
inductive LaxPair : List Char → Nat → Prop
  | plus {d : Char} {y : Nat} : anyDigit? d = some y → LaxPair ['+', d] y
  | minus {d : Char} : anyDigit? d = some 0 → LaxPair ['-', d] 0
  | behindBlank {b d : Char} {y : Nat} :
    isPadding (plainChar b) = true → anyDigit? d = some y → LaxPair [b, d] y
  | beforeBlank {c b : Char} {x : Nat} :
    anyDigit? c = some x → isPadding (plainChar b) = true → LaxPair [c, b] x
  | otherScript {c d : Char} {x y : Nat} : anyDigit? c = some x → anyDigit? d = some y →
    127 ≤ c.toNat ∨ 127 ≤ d.toNat → LaxPair [c, d] (x * 16 + y)

theorem anyDigit?_of_hexDigit? {c : Char} {x : Nat} (digit : hexDigit? c = some x) : anyDigit? c = some x := by
  rw [anyDigit?, if_pos (lt_of_hexDigit? digit), digit]

theorem not_padding_of_digit {c : Char} {x : Nat} (digit : anyDigit? c = some x) : ¬ isPadding (plainChar c) = true :=
  fun blank => by cases (anyDigit?_of_padding blank).symm.trans digit

theorem ne_of_digit {c other : Char} {x : Nat} (digit : anyDigit? c = some x) (none : anyDigit? other = none) :
    c ≠ other := by
  rintro rfl
  cases none.symm.trans digit

theorem HexPair.not_lax {g : List Char} {m n : Nat} (hex : HexPair g m) : ¬ LaxPair g n := by
  obtain ⟨first, second⟩ := hex
  intro lax
  cases lax with
  | plus _ => cases first
  | minus _ => cases first
  | behindBlank blank _ => exact not_padding_of_digit (anyDigit?_of_hexDigit? first) blank
  | beforeBlank _ blank => exact not_padding_of_digit (anyDigit?_of_hexDigit? second) blank
  | otherScript _ _ foreign =>
    have := lt_of_hexDigit? first
    have := lt_of_hexDigit? second
    omega

/-- Two characters that are read as an octet, in the one way or the other. -/
def ReadPair (g : List Char) (n : Nat) : Prop := HexPair g n ∨ LaxPair g n

theorem partValue?_digits {c d : Char} {x y : Nat} (first : anyDigit? c = some x) (second : anyDigit? d = some y) :
    partValue? [c, d] = some (Int.ofNat (x * 16 + y)) := by
  rw [partValue?_pair, if_neg (not_padding_of_digit first), if_neg (not_padding_of_digit second),
    if_neg (ne_of_digit first (by decide)), if_neg (ne_of_digit first (by decide)), first, second]
  rfl

theorem ReadPair.value {g : List Char} {n : Nat} (read : ReadPair g n) :
    partValue? g = some (Int.ofNat n) := by
  rcases read with ⟨first, second⟩ | lax
  · exact partValue?_digits (anyDigit?_of_hexDigit? first) (anyDigit?_of_hexDigit? second)
  · cases lax with
    | plus digit =>
      rw [partValue?_pair, if_neg (by decide), if_neg (not_padding_of_digit digit), if_neg (by decide), if_pos rfl, digit]
      rfl
    | minus digit =>
      rw [partValue?_pair, if_neg (by decide), if_neg (not_padding_of_digit digit), if_pos rfl, digit]
      rfl
    | behindBlank blank digit =>
      rw [partValue?_pair, if_pos blank, digit]
      rfl
    | beforeBlank digit blank =>
      rw [partValue?_pair, if_neg (not_padding_of_digit digit), if_pos blank, digit]
      rfl
    | otherScript first second _ => exact partValue?_digits first second

theorem readPair_of_partValue? {c d : Char} {n : Nat} (value : partValue? [c, d] = some (Int.ofNat n)) :
    ReadPair [c, d] n := by
  rw [partValue?_pair] at value
  split at value
  · next blank =>
    obtain ⟨y, digit, same⟩ := Option.map_eq_some_iff.mp value
    cases same
    exact .inr (.behindBlank blank digit)
  split at value
  · next blank =>
    obtain ⟨x, digit, same⟩ := Option.map_eq_some_iff.mp value
    cases same
    exact .inr (.beforeBlank digit blank)
  split at value
  · next sign =>
    obtain ⟨y, digit, same⟩ := Option.map_eq_some_iff.mp value
    have same : -(y : Int) = n := same
    obtain ⟨rfl, rfl⟩ : y = 0 ∧ n = 0 := by omega
    exact .inr (sign ▸ .minus digit)
  split at value
  · next sign =>
    obtain ⟨y, digit, same⟩ := Option.map_eq_some_iff.mp value
    cases same
    exact .inr (sign ▸ .plus digit)
  · obtain ⟨x, first, value⟩ := Option.bind_eq_some_iff.mp value
    obtain ⟨y, second, same⟩ := Option.map_eq_some_iff.mp value
    cases same
    by_cases foreign : 127 ≤ c.toNat ∨ 127 ≤ d.toNat
    · exact .inr (.otherScript first second foreign)
    · obtain ⟨ascii, ascii'⟩ := not_or.mp foreign
      rw [anyDigit?, if_pos (by omega)] at first second
      exact .inl (.digits first second)

theorem readPair_iff {g : List Char} {n : Nat} :
    ReadPair g n ↔ g.length = 2 ∧ partValue? g = some (Int.ofNat n) := by
  constructor
  · intro read
    refine ⟨?_, read.value⟩
    rcases read with ⟨-, -⟩ | lax
    · rfl
    · cases lax <;> rfl
  · rintro ⟨length, value⟩
    obtain ⟨c, d, rfl⟩ := List.length_eq_two.mp length
    exact readPair_of_partValue? value

theorem ReadPair.colon_not_mem {g : List Char} {n : Nat} (read : ReadPair g n) : ':' ∉ g := by
  have digit {c : Char} {x : Nat} (some : anyDigit? c = some x) : ':' ≠ c := (ne_of_digit some (by decide)).symm
  have blank {c : Char} (padding : isPadding (plainChar c) = true) : ':' ≠ c := by
    rintro rfl
    cases padding
  have apart {c d : Char} (first : ':' ≠ c) (second : ':' ≠ d) : ':' ∉ [c, d] :=
    List.not_mem_cons_of_ne_of_not_mem first (List.not_mem_cons_of_ne_of_not_mem second List.not_mem_nil)
  rcases read with ⟨first, second⟩ | lax
  · exact apart (digit (anyDigit?_of_hexDigit? first)) (digit (anyDigit?_of_hexDigit? second))
  · cases lax with
    | plus second => exact apart (by decide) (digit second)
    | minus second => exact apart (by decide) (digit second)
    | behindBlank first second => exact apart (blank first) (digit second)
    | beforeBlank first second => exact apart (digit first) (blank second)
    | otherScript first second _ => exact apart (digit first) (digit second)

theorem partValues_eq_ok_iff {parts : List (List Char)} {values : List Int} :
    partValues parts = .ok values ↔ List.Forall₂ (fun p v => partValue? p = some v) parts values := by
  induction parts generalizing values with
  | nil => rw [partValues, List.forall₂_nil_left_iff, Except.ok.injEq, eq_comm]
  | cons p r ih =>
    rw [partValues, List.forall₂_cons_left_iff]
    cases partValue? p with
    | none => simp
    | some v =>
      simp only [← ih, Option.some.injEq]
      cases partValues r with
      | error e =>
        refine iff_of_false (fun same => by cases same) ?_
        rintro ⟨_, _, -, same, -⟩
        cases same
      | ok vs =>
        constructor
        · rintro ⟨⟩
          exact ⟨v, vs, rfl, rfl, rfl⟩
        · rintro ⟨_, _, rfl, ⟨⟩, rfl⟩
          rfl

theorem octet_eq_ok_iff {value : Int} {o : { n : Nat // n < 256 }} : octet value = .ok o ↔ value = (o.val : Int) := by
  have small := o.property
  unfold octet
  split
  · rw [Except.ok.injEq, Subtype.ext_iff]
    show value.toNat = o.val ↔ value = (o.val : Int)
    omega
  · next outside =>
    refine iff_of_false (fun same => by cases same) (fun same => outside ?_)
    omega

theorem octetList_cons_eq_ok_iff {v : Int} {r : List Int} {os : List { n : Nat // n < 256 }} :
    octetList (v :: r) = .ok os ↔ ∃ o rest, octet v = .ok o ∧ octetList r = .ok rest ∧ os = o :: rest := by
  rw [octetList]
  constructor
  · intro read
    cases first : octet v with
    | error e => rw [first] at read; cases read
    | ok o =>
      cases later : octetList r with
      | error e => rw [first, later] at read; cases read
      | ok rest =>
        rw [first, later] at read
        cases read
        exact ⟨o, rest, rfl, rfl, rfl⟩
  · rintro ⟨o, rest, first, later, rfl⟩
    rw [first, later]
    rfl

theorem octetList_eq_ok_iff {values : List Int} {os : List { n : Nat // n < 256 }} :
    octetList values = .ok os ↔ values = os.map (Int.ofNat ·.val) := by
  induction values generalizing os with
  | nil =>
    constructor
    · rintro ⟨⟩
      rfl
    · intro same
      rw [List.map_eq_nil_iff.mp same.symm]
      rfl
  | cons v r ih =>
    rw [octetList_cons_eq_ok_iff]
    constructor
    · rintro ⟨o, rest, first, later, rfl⟩
      rw [List.map_cons, octet_eq_ok_iff.mp first, ih.mp later]
      rfl
    · intro same
      obtain ⟨o, rest, rfl, first, later⟩ := List.map_eq_cons_iff.mp same.symm
      exact ⟨o, rest, octet_eq_ok_iff.mpr first.symm, ih.mpr later.symm, rfl⟩

theorem ofOctets_eq_ok_iff {values : List Int} {d : DeviceIdentifier} :
    ofOctets values = .ok d ↔ values = d.octets.map Int.ofNat := by
  unfold ofOctets
  constructor
  · intro given
    split at given
    · split at given
      · cases given
      · next os read =>
        split at given
        · cases given
          rw [octetList_eq_ok_iff.mp read, List.map_map]
          rfl
        · cases given
    · cases given
  · rintro rfl
    obtain ⟨os, same⟩ : ∃ os : List { n : Nat // n < 256 }, os.map (·.val) = d.octets :=
      ⟨d.octets.pmap Subtype.mk d.bounded, by simp [List.map_pmap]⟩
    have read : octetList (d.octets.map Int.ofNat) = .ok os := by
      rw [octetList_eq_ok_iff, ← same, List.map_map]
      rfl
    simp only [List.length_map, d.size, read, same, if_true, dite_true]

theorem forall_readPair_iff {groups : List (List Char)} {octets : List Nat} :
    List.Forall₂ ReadPair groups octets ↔
      (∀ g ∈ groups, g.length = 2) ∧ partValues groups = .ok (octets.map Int.ofNat) := by
  rw [partValues_eq_ok_iff, List.forall₂_map_right_iff, ← List.forall₂_and_left]
  exact ⟨List.Forall₂.imp fun _ _ => readPair_iff.mp, List.Forall₂.imp fun _ _ => readPair_iff.mpr⟩

theorem parse_splitOn_iff {text : String} {d : DeviceIdentifier} :
    parse text = .ok d ↔ List.Forall₂ ReadPair ((trim text.toList).splitOn ':') d.octets := by
  rw [forall_readPair_iff, parse]
  generalize (trim text.toList).splitOn ':' = parts
  constructor
  · intro parsed
    split at parsed
    · next shape =>
      cases read : partValues parts with
      | error e => rw [read] at parsed; cases parsed
      | ok values =>
        rw [read] at parsed
        refine ⟨by simpa using shape.2, ?_⟩
        rw [ofOctets_eq_ok_iff.mp parsed]
    · cases parsed
  · rintro ⟨twos, read⟩
    have six : parts.length = Limits.identifierOctets := by
      rw [(partValues_eq_ok_iff.mp read).length_eq, List.length_map, d.size]
    rw [if_pos ⟨six, by simpa using twos⟩, read]
    exact ofOctets_eq_ok_iff.mpr rfl

/-- Six groups between colons, blanks around them, each in the relation with its octet. -/
def Grouped (pair : List Char → Nat → Prop) (text : String) (d : DeviceIdentifier) (groups : List (List Char)) : Prop :=
  trim text.toList = [':'].intercalate groups ∧ List.Forall₂ pair groups d.octets

theorem Grouped.groups_eq {text : String} {d : DeviceIdentifier} {groups : List (List Char)}
    (grouped : Grouped ReadPair text d groups) : (trim text.toList).splitOn ':' = groups := by
  obtain ⟨same, read⟩ := grouped
  rw [same]
  have apart : List.Forall₂ (fun g n => ':' ∉ g ∧ ReadPair g n) groups d.octets :=
    read.imp fun _ _ pair => ⟨pair.colon_not_mem, pair⟩
  refine List.splitOn_intercalate ':' ((List.forall₂_and_left _ _).mp apart).1 ?_
  rintro rfl
  cases read.length_eq.trans d.size

theorem parse_eq_ok_iff {text : String} {d : DeviceIdentifier} :
    parse text = .ok d ↔ ∃ groups, Grouped ReadPair text d groups := by
  rw [parse_splitOn_iff]
  constructor
  · intro read
    exact ⟨_, (List.intercalate_splitOn ':').symm, read⟩
  · rintro ⟨groups, grouped⟩
    rw [grouped.groups_eq]
    exact grouped.2

/-- The written form: pairs of ASCII hexadecimal digits. -/
def Spells (text : String) (d : DeviceIdentifier) : Prop := ∃ groups, Grouped HexPair text d groups

/-- Pairs that are read, not all of them of ASCII hexadecimal digits. -/
def SpellsLaxly (text : String) (d : DeviceIdentifier) : Prop :=
  ∃ groups, Grouped ReadPair text d groups ∧ ∃ g ∈ groups, ∃ n, LaxPair g n

theorem hexPairs_or_lax {groups : List (List Char)} {octets : List Nat} (read : List.Forall₂ ReadPair groups octets) :
    List.Forall₂ HexPair groups octets ∨ ∃ g ∈ groups, ∃ n, LaxPair g n := by
  induction read with
  | nil => exact .inl .nil
  | cons pair _ ih =>
    rcases pair with hex | lax
    · rcases ih with hexes | ⟨g, member, lax⟩
      · exact .inl (.cons hex hexes)
      · exact .inr ⟨g, List.mem_cons_of_mem _ member, lax⟩
    · exact .inr ⟨_, List.mem_cons_self, _, lax⟩

theorem Spells.not_laxly {text : String} {d e : DeviceIdentifier} (spells : Spells text d) : ¬ SpellsLaxly text e := by
  rintro ⟨groups, grouped, g, member, n, lax⟩
  obtain ⟨groups', same, hexes⟩ := spells
  -- No pair holds a colon, so both spellings have the groups of the text.
  have whole : Grouped ReadPair text d groups' := ⟨same, hexes.imp fun _ _ => .inl⟩
  obtain rfl := whole.groups_eq.symm.trans grouped.groups_eq
  have none : List.Forall₂ (fun g o => (∀ n, ¬ LaxPair g n) ∧ HexPair g o) groups' d.octets :=
    hexes.imp fun _ _ hex => ⟨fun _ => hex.not_lax, hex⟩
  exact ((List.forall₂_and_left _ _).mp none).1 g member n lax

theorem parse_spelling_iff {text : String} {d : DeviceIdentifier} :
    parse text = .ok d ↔ Spells text d ∨ SpellsLaxly text d := by
  rw [parse_eq_ok_iff]
  constructor
  · rintro ⟨groups, same, read⟩
    rcases hexPairs_or_lax read with hexes | lax
    · exact .inl ⟨groups, same, hexes⟩
    · exact .inr ⟨groups, ⟨same, read⟩, lax⟩
  · rintro (⟨groups, same, hexes⟩ | ⟨groups, grouped, -⟩)
    · exact ⟨groups, same, hexes.imp fun _ _ => .inl⟩
    · exact ⟨groups, grouped⟩

/-- The written form is read with the octets that it spells, and whatever else is read has a pair of
another kind.  So the written form is all that a text is read as exactly when it has no such pair. -/
theorem reads_written_form_iff (text : String) :
    (∀ d, parse text = .ok d ↔ Spells text d ∨ SpellsLaxly text d) ∧
      ((∀ d, parse text = .ok d ↔ Spells text d) ↔ ∀ d, ¬ SpellsLaxly text d) := by
  refine ⟨fun d => parse_spelling_iff, ?_⟩
  simp only [parse_spelling_iff]
  constructor
  · intro only d lax
    exact ((only d).mp (.inr lax)).not_laxly lax
  · intro none d
    exact or_iff_left (none d)

example : (parse "+1:22:33:44:55:66").toOption.map (·.octets) = some [1, 34, 51, 68, 85, 102] := by decide

end DeviceIdentifier

end CastLaunch
