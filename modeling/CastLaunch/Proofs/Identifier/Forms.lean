import CastLaunch.Discovery.Service
import CastLaunch.Proofs.Identifier.Reading
import CastLaunch.Proofs.Text.Trim

/-!
The forms of an identifier.  The written form may have any of its letters in upper case and blanks around it, and is
still read as the identifier.  The packed form has the same digits without colons, all in upper case, and its pairs are
the octets again, so that no two identifiers share one.
-/

namespace CastLaunch
open CastLaunch.Text

namespace Text

theorem not_isBlank_of_hexDigit? {c : Char} {n : Nat} (digit : hexDigit? c = some n) : isBlank c = false := by
  obtain ⟨v, value, -⟩ := Option.bind_eq_some_iff.mp digit
  have ranges : 48 ≤ c.toNat ∧ c.toNat ≤ 57 ∨ 97 ≤ c.toNat ∧ c.toNat ≤ 122 ∨ 65 ≤ c.toNat ∧ c.toNat ≤ 90 := by
    simp only [digitValue?] at value
    repeat' split at value
    all_goals first | omega | cases value
  have outside : ∀ r ∈ blankRuns, c.toNat < r.1 ∨ r.2 < c.toNat := by
    simp only [blankRuns, List.forall_mem_cons, List.not_mem_nil, false_implies, implies_true, and_true]
    omega
  rw [isBlank, List.any_eq_false]
  intro r member
  have := outside r member
  simp only [Bool.and_eq_true, decide_eq_true_eq]
  omega

theorem hexDigit?_digitChar_of_lt {n : Nat} (small : n < 16) :
    hexDigit? (Nat.digitChar n) = some n ∧ hexDigit? (Nat.digitChar n).toUpper = some n := by
  have all : ∀ m < 16, hexDigit? (Nat.digitChar m) = some m ∧ hexDigit? (Nat.digitChar m).toUpper = some m := by decide
  exact all n small

end Text

namespace DeviceIdentifier

/-- Some of the letters in upper case. -/
def Recased (s t : List Char) : Prop := List.Forall₂ (fun c u => u = c ∨ u = c.toUpper) s t

theorem hexDigit?_recased {n : Nat} {u : Char} (small : n < 16) (recased : u = Nat.digitChar n ∨ u = (Nat.digitChar n).toUpper) :
    hexDigit? u = some n := by
  obtain ⟨lower, upper⟩ := hexDigit?_digitChar_of_lt small
  rcases recased with rfl | rfl
  · exact lower
  · exact upper

theorem hexPair_recased {n : Nat} {c d : Char} (small : n < 256)
    (first : c = Nat.digitChar (n / 16 % 16) ∨ c = (Nat.digitChar (n / 16 % 16)).toUpper)
    (second : d = Nat.digitChar (n % 16) ∨ d = (Nat.digitChar (n % 16)).toUpper) : HexPair [c, d] n := by
  have pair : HexPair [c, d] (n / 16 % 16 * 16 + n % 16) :=
    .digits (hexDigit?_recased (Nat.mod_lt _ (by decide)) first) (hexDigit?_recased (Nat.mod_lt _ (by decide)) second)
  have value : n / 16 % 16 * 16 + n % 16 = n := by omega
  rwa [value] at pair

/-- Recased pairs between colons are pairs of digits between colons. -/
theorem recased_groups {octets : List Nat} (bounded : ∀ o ∈ octets, o < 256) {body : List Char}
    (recased : Recased ([':'].intercalate (octets.map hexPair)) body) :
    ∃ groups, body = [':'].intercalate groups ∧ List.Forall₂ HexPair groups octets := by
  induction octets generalizing body with
  | nil =>
    cases recased
    exact ⟨[], rfl, .nil⟩
  | cons o rest ih =>
    have small := bounded o List.mem_cons_self
    cases rest with
    | nil =>
      rw [List.map_singleton, List.intercalate_singleton] at recased
      obtain ⟨c, _, first, later, rfl⟩ := List.forall₂_cons_left_iff.mp recased
      obtain ⟨d, _, second, last, rfl⟩ := List.forall₂_cons_left_iff.mp later
      cases last
      exact ⟨[[c, d]], (List.intercalate_singleton ..).symm, .cons (hexPair_recased small first second) .nil⟩
    | cons p others =>
      rw [List.map_cons, List.map_cons, List.intercalate_cons_cons] at recased
      obtain ⟨c, _, first, atSecond, rfl⟩ := List.forall₂_cons_left_iff.mp recased
      obtain ⟨d, _, second, atColon, rfl⟩ := List.forall₂_cons_left_iff.mp atSecond
      obtain ⟨e, tail, colon, later, rfl⟩ := List.forall₂_cons_left_iff.mp atColon
      obtain rfl : e = ':' := colon.elim id id
      obtain ⟨groups, rfl, pairs⟩ := ih (fun q member => bounded q (List.mem_cons_of_mem _ member)) later
      refine ⟨[c, d] :: groups, ?_, .cons (hexPair_recased small first second) pairs⟩
      cases pairs with
      | cons _ _ =>
        rw [List.intercalate_cons_cons]
        rfl

/-- The written form with some of its letters in upper case and blanks around it. -/
def Shows (text : String) (d : DeviceIdentifier) : Prop :=
  ∃ front body back, text.toList = front ++ body ++ back ∧ (∀ c ∈ front, isBlank c = true) ∧
    (∀ c ∈ back, isBlank c = true) ∧ Recased d.written.toList body

theorem visible_of_hexPairs {groups : List (List Char)} {octets : List Nat} (pairs : List.Forall₂ HexPair groups octets) :
    ∀ c ∈ [':'].intercalate groups, isBlank c = false := by
  induction pairs with
  | nil => nofun
  | @cons g _ rest _ pair others ih =>
    have own : ∀ c ∈ g, isBlank c = false := by
      obtain ⟨first, second⟩ := pair
      simp [not_isBlank_of_hexDigit? first, not_isBlank_of_hexDigit? second]
    cases others with
    | nil => simpa using own
    | cons _ _ =>
      rw [List.intercalate_cons_cons]
      have colon : isBlank ':' = false := by decide
      simp only [List.mem_append, List.mem_singleton]
      rintro c ((member | rfl) | later)
      · exact own c member
      · exact colon
      · exact ih c later

theorem Shows.spells {text : String} {d : DeviceIdentifier} (shows : Shows text d) : Spells text d := by
  obtain ⟨front, body, back, same, before, behind, recased⟩ := shows
  rw [written, String.toList_ofList] at recased
  obtain ⟨groups, rfl, pairs⟩ := recased_groups d.bounded recased
  exact ⟨groups, by rw [same, trim_between before behind (visible_of_hexPairs pairs)], pairs⟩

theorem shows_written (d : DeviceIdentifier) : Shows d.written d :=
  ⟨[], d.written.toList, [], by simp, nofun, nofun, List.forall₂_same.mpr fun _ _ => .inl rfl⟩

theorem shows_upperIdentifier (d : DeviceIdentifier) : Shows (Service.upperIdentifier d) d :=
  ⟨[], asciiUpper d.written.toList, [], by simp [Service.upperIdentifier], nofun, nofun,
    List.forall₂_map_right_iff.mpr (List.forall₂_same.mpr fun _ _ => .inr rfl)⟩

theorem parse_of_shows {text : String} {d : DeviceIdentifier} (shows : Shows text d) : parse text = .ok d :=
  parse_spelling_iff.mpr (.inl shows.spells)

/-! The packed form. -/

def IsUpperHexDigit (c : Char) : Prop := '0' ≤ c ∧ c ≤ '9' ∨ 'A' ≤ c ∧ c ≤ 'F'

/-- The octets that pairs of hexadecimal digits stand for. -/
def unpack? : List Char → Option (List UInt8)
  | [] => some []
  | [_] => none
  | c :: d :: r => do
    let high ← hexDigit? c
    let low ← hexDigit? d
    return (high * 16 + low).toUInt8 :: (← unpack? r)

theorem isUpperHexDigit_of_lt {n : Nat} (small : n < 16) : IsUpperHexDigit (Nat.digitChar n).toUpper := by
  have all : ∀ m < 16, IsUpperHexDigit (Nat.digitChar m).toUpper := by
    unfold IsUpperHexDigit
    decide
  exact all n small

theorem upperHexDigits_pairs (octets : List Nat) : ∀ c ∈ asciiUpper (octets.flatMap hexPair), IsUpperHexDigit c := by
  intro c member
  obtain ⟨d, inside, rfl⟩ := List.mem_map.mp member
  obtain ⟨o, -, pair⟩ := List.mem_flatMap.mp inside
  rw [hexPair, List.mem_pair] at pair
  rcases pair with rfl | rfl
  · exact isUpperHexDigit_of_lt (Nat.mod_lt _ (by decide))
  · exact isUpperHexDigit_of_lt (Nat.mod_lt _ (by decide))

theorem length_packed (d : DeviceIdentifier) : d.packed.toList.length = 12 := by
  have pairs : ∀ octets : List Nat, (octets.flatMap hexPair).length = 2 * octets.length := by
    intro octets
    induction octets with
    | nil => rfl
    | cons o rest ih =>
      rw [List.flatMap_cons, List.length_append, ih, List.length_cons, hexPair, List.length_cons, List.length_singleton]
      omega
  rw [packed, String.toList_ofList, asciiUpper, List.length_map, pairs, d.size]
  rfl

theorem unpack?_pairs {octets : List Nat} (bounded : ∀ o ∈ octets, o < 256) :
    unpack? (asciiUpper (octets.flatMap hexPair)) = some (octets.map Nat.toUInt8) := by
  induction octets with
  | nil => rfl
  | cons o rest ih =>
    have small := bounded o List.mem_cons_self
    have high := (hexDigit?_digitChar_of_lt (Nat.mod_lt (o / 16) (by decide : 0 < 16))).2
    have low := (hexDigit?_digitChar_of_lt (Nat.mod_lt o (by decide : 0 < 16))).2
    have value : o / 16 % 16 * 16 + o % 16 = o := by omega
    have later := ih fun p member => bounded p (List.mem_cons_of_mem _ member)
    have split : asciiUpper ((o :: rest).flatMap hexPair) = (Nat.digitChar (o / 16 % 16)).toUpper ::
        (Nat.digitChar (o % 16)).toUpper :: asciiUpper (rest.flatMap hexPair) := rfl
    rw [split, unpack?, high, low, later, List.map_cons]
    simp only [Option.bind_eq_bind, Option.bind_some, Option.pure_def, value]

theorem unpack?_packed (d : DeviceIdentifier) : unpack? d.packed.toList = some d.toBytes := by
  rw [packed, String.toList_ofList, unpack?_pairs d.bounded, toBytes]

theorem toBytes_injective {d e : DeviceIdentifier} (same : d.toBytes = e.toBytes) : d = e := by
  have back (d : DeviceIdentifier) : d.toBytes.map UInt8.toNat = d.octets := by
    rw [toBytes, List.map_map]
    refine (List.map_congr_left fun o member => ?_).trans (List.map_id _)
    exact UInt8.toNat_ofNat_of_lt' (d.bounded o member)
  rw [DeviceIdentifier.mk.injEq, ← back d, ← back e, same]

theorem packed_injective {d e : DeviceIdentifier} (same : d.packed = e.packed) : d = e := by
  refine toBytes_injective (Option.some.inj ?_)
  rw [← unpack?_packed, ← unpack?_packed, same]

end DeviceIdentifier

end CastLaunch
