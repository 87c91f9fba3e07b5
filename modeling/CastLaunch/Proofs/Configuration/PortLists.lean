import CastLaunch.Proofs.Configuration.Written
import Mathlib.Data.List.Forall2

/-!
Which texts list a group of ports.  Between commas stand numerals of one to five digits, each with the value of a
port, and the ports that are missing follow the last one.  Such a text is read as the ports that it gives and those
that follow, as long as there are not too many, all stay in range and no two are equal; every other text is refused
as it stands.
-/

namespace CastLaunch
open CastLaunch.Text

namespace PortGroup

/-- One to five digits with the value of a port. -/
structure Numeral (token : List Char) (p : Nat) : Prop where
  length : 1 ≤ token.length ∧ token.length ≤ 5
  digits : ∀ c ∈ token, '0' ≤ c ∧ c ≤ '9'
  value : Nat.ofDigitChars 10 token 0 = p
  bounds : 1024 ≤ p ∧ p ≤ 65535

/-- The given ports, and behind the last one those that a group of so many still lacks. -/
def filled (count : Nat) (given : List Nat) (last : Nat) : List Nat :=
  given ++ List.range' (last + 1) (count - given.length)

/-- The text lists the given ports, and a group of so many can be filled up behind the last one. -/
structure Lists (count : Nat) (s : String) (given : List Nat) (last : Nat) : Prop where
  tokens : ∃ tokens, s.toList = [','].intercalate tokens ∧ List.Forall₂ Numeral tokens given
  ends : given.getLast? = some last
  size : given.length ≤ count
  fits : last + (count - given.length) ≤ 65535
  distinct : (filled count given last).Nodup

/-! Each token is read as the port whose numeral it is. -/

theorem port?_eq_some_iff {token : List Char} {p : Nat} : port? token = some p ↔ Numeral token p := by
  rw [port?, Option.filter_eq_some_iff, unsigned?_eq_some_iff_numeral, inRange_iff]
  constructor
  · rintro ⟨numeral, bounds⟩
    exact ⟨numeral.length, numeral.digits, numeral.value, bounds⟩
  · intro numeral
    exact ⟨⟨numeral.length, numeral.digits, numeral.value⟩, numeral.bounds⟩

theorem mapM_port?_eq_some_iff {tokens : List (List Char)} {ports : List Nat} :
    tokens.mapM port? = some ports ↔ List.Forall₂ Numeral tokens ports := by
  induction tokens generalizing ports with
  | nil => cases ports <;> simp
  | cons token rest ih =>
    simp only [List.mapM_cons, Option.pure_def, Option.bind_eq_bind, Option.bind_eq_some_iff, port?_eq_some_iff, ih,
      List.forall₂_cons_left_iff, Option.some.injEq]
    constructor
    · rintro ⟨p, first, later, others, rfl⟩
      exact ⟨p, later, first, others, rfl⟩
    · rintro ⟨p, later, first, others, rfl⟩
      exact ⟨p, first, later, others, rfl⟩

theorem comma_not_mem {tokens : List (List Char)} {ports : List Nat} (numerals : List.Forall₂ Numeral tokens ports) :
    ∀ token ∈ tokens, ',' ∉ token := by
  induction numerals with
  | nil => nofun
  | cons first others ih =>
    refine List.forall_mem_cons.mpr ⟨fun member => ?_, ih⟩
    exact absurd (first.digits ',' member).1 (by decide)

/-- Numerals hold no comma, so a text is put together from those between its commas and from no others. -/
theorem splitOn_of_numerals {tokens : List (List Char)} {ports : List Nat} (given : ports ≠ [])
    (numerals : List.Forall₂ Numeral tokens ports) : ([','].intercalate tokens).splitOn ',' = tokens := by
  refine List.splitOn_intercalate ',' (comma_not_mem numerals) ?_
  rintro rfl
  exact given (List.forall₂_nil_left_iff.mp numerals)

/-! The ports behind the last one are those of a range. -/

theorem following_eq (last missing : Nat) : following last missing = List.range' (last + 1) missing :=
  List.range'_eq_map_range.symm

theorem complete?_eq_some_iff {count : Nat} {given group : List Nat} :
    complete? count given = some group ↔
      ∃ last, given.getLast? = some last ∧ last + (count - given.length) ≤ 65535 ∧
        (filled count given last).Nodup ∧ filled count given last = group := by
  rw [complete?]
  cases given.getLast? with
  | none => simp
  | some last =>
    simp only [following_eq, Option.ite_none_right_eq_some, Option.some.injEq, exists_eq_left']
    exact and_assoc

theorem read?_eq_some_iff {count : Nat} {s : String} {group : List Nat} :
    read? count s.toList = some group ↔ ∃ given last, Lists count s given last ∧ filled count given last = group := by
  rw [read?]
  constructor
  · intro read
    split at read
    · cases read
    · next fits =>
      obtain ⟨given, numerals, whole⟩ := Option.bind_eq_some_iff.mp read
      obtain ⟨last, ends, room, distinct, same⟩ := complete?_eq_some_iff.mp whole
      have numerals := mapM_port?_eq_some_iff.mp numerals
      have size : given.length ≤ count := by
        have tokens := numerals.length_eq
        omega
      exact ⟨given, last, ⟨⟨_, (List.intercalate_splitOn ',').symm, numerals⟩, ends, size, room, distinct⟩, same⟩
  · rintro ⟨given, last, ⟨⟨tokens, text, numerals⟩, ends, size, room, distinct⟩, same⟩
    have some? : given ≠ [] := by
      rintro rfl
      cases ends
    have fits : ¬count < tokens.length := by
      have tokens := numerals.length_eq
      omega
    rw [text, splitOn_of_numerals some? numerals, if_neg fits, mapM_port?_eq_some_iff.mpr numerals]
    exact complete?_eq_some_iff.mpr ⟨last, ends, room, distinct, same⟩

theorem read?_bounds {count : Nat} {s : String} {group : List Nat} (read : read? count s.toList = some group) :
    group.length = count ∧ (∀ p ∈ group, 1024 ≤ p ∧ p ≤ 65535) ∧ group.Nodup := by
  obtain ⟨given, last, lists, rfl⟩ := read?_eq_some_iff.mp read
  have length : (filled count given last).length = count := by
    rw [filled, List.length_append, List.length_range']
    exact Nat.add_sub_cancel' lists.size
  rw [read?] at read
  split at read
  · cases read
  · obtain ⟨ports, numerals, whole⟩ := Option.bind_eq_some_iff.mp read
    obtain ⟨inside, distinct⟩ := complete?_bounds (mapM_port?_bounds numerals) whole
    exact ⟨length, fun p member => inRange_iff.mp (inside p member), distinct⟩

theorem parse_eq_ok_iff {flag s : String} {count : Nat} {group : List Nat} :
    parse flag count s = .ok group ↔ read? count s.toList = some group := by
  rw [parse]
  cases read? count s.toList <;> simp

theorem parse_eq_error_iff {flag s : String} {count : Nat} :
    parse flag count s = .error ⟨flag, s, .portGroup count⟩ ↔ read? count s.toList = none := by
  rw [parse]
  cases read? count s.toList <;> simp

/-- A group of three is the triple of its ports. -/
theorem map_parseTriple (flag s : String) :
    (parseTriple flag s).map PortTriple.toList = parse flag Limits.portGroupSize s := by
  rw [parseTriple, parse]
  cases read : read? Limits.portGroupSize s.toList with
  | none => rfl
  | some group =>
    obtain ⟨a, b, c, rfl⟩ := List.length_eq_three.mp (read?_bounds read).1
    rfl

/-- A text is read as a group of so many ports exactly when it lists ports that can be filled up to that many, and
the group is those ports and the ones that follow; any other text is refused under the flag.  Triples of ports are
the groups of three. -/
theorem parse_reads_lists (flag s : String) (count : Nat) :
    (∀ group, parse flag count s = .ok group ↔ ∃ given last, Lists count s given last ∧ filled count given last = group) ∧
      (∀ group, parse flag count s = .ok group →
        group.length = count ∧ (∀ p ∈ group, 1024 ≤ p ∧ p ≤ 65535) ∧ group.Nodup) ∧
      (parse flag count s = .error ⟨flag, s, .portGroup count⟩ ↔ ¬∃ given last, Lists count s given last) ∧
      (parseTriple flag s).map PortTriple.toList = parse flag 3 s := by
  refine ⟨fun group => parse_eq_ok_iff.trans read?_eq_some_iff, fun group read => ?_, ?_, map_parseTriple flag s⟩
  · exact read?_bounds (parse_eq_ok_iff.mp read)
  · rw [parse_eq_error_iff, Option.eq_none_iff_forall_ne_some]
    constructor
    · rintro refused ⟨given, last, lists⟩
      exact refused _ (read?_eq_some_iff.mpr ⟨given, last, lists, rfl⟩)
    · intro unlisted group read
      obtain ⟨given, last, lists, -⟩ := read?_eq_some_iff.mp read
      exact unlisted ⟨given, last, lists⟩

/-- The port that follows the last one has been given already. -/
example : parse "-p" 3 "7101,07100" = .error ⟨"-p", "7101,07100", .portGroup 3⟩ := by decide

end PortGroup

end CastLaunch
