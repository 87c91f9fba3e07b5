import CastLaunch.Proofs.Configuration.Options

/-!
Port options one after the other.  Each occurrence is well-formed or not on its own, and sets the ports of the
transports that it addresses, whatever was set before.  So the last occurrence that addresses a transport counts for
it, and the first malformed one ends them all, even when what it would set is overwritten later.
-/

namespace CastLaunch.CommandLine

inductive Transport where
  | tcp
  | udp
  deriving DecidableEq, Repr

namespace Transport

/-- The word in front of a list for this transport alone. -/
def word : Transport → String
  | tcp => "tcp"
  | udp => "udp"

def other : Transport → Transport
  | tcp => udp
  | udp => tcp

/-- The ports that a bare occurrence sets. -/
def legacy : Transport → PortTriple
  | tcp => .legacyTcp
  | udp => .legacyUdp

/-- An occurrence addresses a transport unless it names the other one. -/
def isAddressed (t : Transport) (words : List String) : Bool := words.head? != some t.other.word

end Transport

/-- A well-formed occurrence, a transport that it addresses, and the ports that it sets for it. -/
inductive PortPair.Sets : List String → Transport → PortTriple → Prop
  | bare (t : Transport) : Sets [] t t.legacy
  | both (t : Transport) {list : String} {ports : PortTriple} (read : PortGroup.readTriple? list = some ports) :
      Sets [list] t ports
  | named (t : Transport) {list : String} {ports : PortTriple} (read : PortGroup.readTriple? list = some ports) :
      Sets [t.word, list] t ports

namespace PortPair

def ports (p : PortPair) : Transport → PortTriple
  | .tcp => p.tcp
  | .udp => p.udp

/-- An occurrence that sets the ports of some transport. -/
def WellFormed (words : List String) : Prop := ∃ t ports, Sets words t ports

variable {p q : PortPair} {words : List String} {xs ys : List (List String)} {t : Transport}

/-! A single occurrence. -/

theorem ne_word {list : String} {ports : PortTriple} (read : PortGroup.readTriple? list = some ports)
    (t : Transport) : list ≠ t.word := by
  have unread : PortGroup.readTriple? t.word = none := by cases t <;> decide
  rintro rfl
  rw [unread] at read
  cases read

theorem occurrence_both {list : String} {ports : PortTriple} (read : PortGroup.readTriple? list = some ports)
    (p : PortPair) : p.occurrence [list] = .ok ⟨ports, ports⟩ := by
  rw [Settings.occurrence_ports (ne_word read .tcp) (ne_word read .udp), PortGroup.parseTriple_eq, checked, read]
  rfl

theorem occurrence_named {list : String} {ports : PortTriple} (read : PortGroup.readTriple? list = some ports)
    (t : Transport) (p : PortPair) : p.occurrence [t.word, list] = .ok (p.placed t.word ports) := by
  have parsed : ∀ flag, PortGroup.parseTriple flag list = .ok ports := by
    intro flag
    rw [PortGroup.parseTriple_eq, checked, read]
  cases t <;> simp [occurrence_cons, Transport.word, portList, parsed, Except.map]

/-- A well-formed occurrence sets the ports of the transports that it addresses and leaves the others. -/
theorem occurrence_of_wellFormed (wellFormed : WellFormed words) (p : PortPair) :
    ∃ q, p.occurrence words = .ok q ∧
      ∀ t, if t.isAddressed words then Sets words t (q.ports t) else q.ports t = p.ports t := by
  obtain ⟨t, ports, sets⟩ := wellFormed
  cases sets with
  | bare =>
    refine ⟨⟨.legacyTcp, .legacyUdp⟩, rfl, fun t => ?_⟩
    cases t with
    | tcp => exact Sets.bare .tcp
    | udp => exact Sets.bare .udp
  | @both _ list _ read =>
    refine ⟨⟨ports, ports⟩, occurrence_both read p, fun t => ?_⟩
    have addressed : t.isAddressed [list] = true := by simpa [Transport.isAddressed] using ne_word read t.other
    rw [if_pos addressed]
    cases t with
    | tcp => exact Sets.both .tcp read
    | udp => exact Sets.both .udp read
  | named _ read =>
    refine ⟨p.placed t.word ports, occurrence_named read t p, fun t' => ?_⟩
    cases t <;> cases t' <;> first | exact Sets.named _ read | rfl

/-- The list behind the words of an occurrence is all that it needs. -/
theorem wellFormed_of_portList {flag first list : String} {r : List String} {ports : PortTriple}
    (behind : portList (first :: r) = (flag, [list])) (read : PortGroup.readTriple? list = some ports) :
    WellFormed (first :: r) := by
  unfold portList at behind
  split at behind
  · next same =>
    cases same
    cases behind
    exact ⟨.tcp, ports, Sets.named .tcp read⟩
  · next same =>
    cases same
    cases behind
    exact ⟨.udp, ports, Sets.named .udp read⟩
  · cases behind
    exact ⟨.tcp, ports, Sets.both .tcp read⟩

theorem occurrence_of_malformed (malformed : ¬WellFormed words) (p : PortPair) :
    p.occurrence words = .error (Supplied.ports words).fault := by
  cases words with
  | nil => exact absurd ⟨.tcp, _, Sets.bare .tcp⟩ malformed
  | cons first r =>
    show _ = Except.error (listFault (portList (first :: r)).1 (portList (first :: r)).2)
    rw [occurrence_cons]
    cases behind : portList (first :: r) with
    | mk flag given =>
      match given with
      | [] => rfl
      | [list] =>
        have unread : PortGroup.readTriple? list = none := by
          refine Option.eq_none_iff_forall_ne_some.mpr fun ports read => ?_
          exact malformed (wellFormed_of_portList behind read)
        simp only [PortGroup.parseTriple_eq, checked, unread]
        rfl
      | _ :: _ :: _ => rfl

/-- The ports are those that the last word lists. -/
theorem Sets.read {ports : PortTriple} (sets : Sets words t ports) :
    words.getLast?.elim (some t.legacy) PortGroup.readTriple? = some ports := by
  cases sets with
  | bare => rfl
  | both _ read | named _ read => exact read

/-! Occurrences one after the other. -/

/-- The last occurrence that addresses a transport sets its ports; without one they stay. -/
def LastSets (occurrences : List (List String)) (p q : PortPair) : Prop :=
  ∀ t : Transport, match (occurrences.filter t.isAddressed).getLast? with
    | some words => Sets words t (q.ports t)
    | none => q.ports t = p.ports t

theorem apply_append (p : PortPair) (xs ys : List (List String)) :
    p.apply (xs ++ ys) = p.apply xs >>= fun q => q.apply ys :=
  List.foldlM_append

theorem apply_of_wellFormed (each : ∀ words ∈ xs, WellFormed words) (p : PortPair) :
    ∃ q, p.apply xs = .ok q ∧ LastSets xs p q := by
  induction xs using List.reverseRecOn with
  | nil => exact ⟨p, rfl, fun _ => rfl⟩
  | append_singleton early words ih =>
    obtain ⟨q, ok, last⟩ := ih fun other member => each other (List.mem_append_left _ member)
    obtain ⟨q', step, sets⟩ := occurrence_of_wellFormed (each words (by simp)) q
    refine ⟨q', ?_, fun t => ?_⟩
    · rw [apply_append, ok]
      exact (Settings.apply_single q words).trans step
    · -- Where the new occurrence does not address the transport, the last one is that of the list before.
      have own := sets t
      rw [List.filter_append]
      by_cases addressed : t.isAddressed words = true
      · rw [if_pos addressed] at own
        rw [List.filter_cons_of_pos addressed, List.filter_nil, List.getLast?_concat]
        exact own
      · rw [if_neg addressed] at own
        rw [List.filter_cons_of_neg addressed, List.filter_nil, List.append_nil, own]
        exact last t

theorem apply_of_malformed (early : ∀ words ∈ xs, WellFormed words) (malformed : ¬WellFormed words)
    (p : PortPair) (later : List (List String)) :
    p.apply (xs ++ words :: later) = .error (Supplied.ports words).fault := by
  obtain ⟨q, ok, -⟩ := apply_of_wellFormed early p
  have step : q.apply (words :: later) = q.occurrence words >>= fun r => r.apply later := rfl
  rw [apply_append, ok]
  show q.apply (words :: later) = _
  rw [step, occurrence_of_malformed malformed]
  rfl

theorem wellFormed_of_ok (ok : p.apply xs = .ok q) : ∀ words ∈ xs, WellFormed words := by
  induction xs generalizing p with
  | nil => nofun
  | cons words later ih =>
    by_cases wellFormed : WellFormed words
    · obtain ⟨r, step, -⟩ := occurrence_of_wellFormed wellFormed p
      have behind : r.apply later = .ok q := by
        have both : p.apply (words :: later) = p.occurrence words >>= fun r => r.apply later := rfl
        rwa [both, step] at ok
      exact List.forall_mem_cons.mpr ⟨wellFormed, ih behind⟩
    · have refused := apply_of_malformed (List.forall_mem_nil WellFormed) wellFormed p later
      rw [List.nil_append, ok] at refused
      cases refused

theorem lastSets_of_ok (ok : p.apply xs = .ok q) : LastSets xs p q := by
  obtain ⟨q', same, last⟩ := apply_of_wellFormed (wellFormed_of_ok ok) p
  rw [ok] at same
  cases same
  exact last

/-- The ports of a transport come from the occurrences that address it. -/
theorem apply_filter (ok : p.apply xs = .ok q) (t : Transport) :
    ∃ q', p.apply (xs.filter t.isAddressed) = .ok q' ∧ q'.ports t = q.ports t := by
  have each := wellFormed_of_ok ok
  obtain ⟨q', alone, sets⟩ := apply_of_wellFormed (fun words member => each words (List.mem_filter.mp member).1) p
  refine ⟨q', alone, ?_⟩
  have all := lastSets_of_ok ok t
  have own := sets t
  simp only [List.filter_filter, Bool.and_self] at own
  cases last : (xs.filter t.isAddressed).getLast? with
  | none =>
    rw [last] at all own
    exact own.trans all.symm
  | some words =>
    rw [last] at all own
    exact Option.some.inj (own.read.symm.trans all.read)

/-- Port options compose.  They succeed exactly when each of them is well-formed, and fail with the first that is
not; each transport has the ports of the last occurrence that addresses it, and no other one changes them. -/
theorem apply_composes (p : PortPair) :
    (∀ xs ys, p.apply (xs ++ ys) = p.apply xs >>= fun q => q.apply ys) ∧
      (∀ xs, (∃ q, p.apply xs = .ok q) ↔ ∀ words ∈ xs, WellFormed words) ∧
      (∀ early words later, (∀ words ∈ early, WellFormed words) → ¬WellFormed words →
        p.apply (early ++ words :: later) = .error (Supplied.ports words).fault) ∧
      (∀ xs q, p.apply xs = .ok q → LastSets xs p q) ∧
      ∀ xs q t, p.apply xs = .ok q → ∃ q', p.apply (xs.filter t.isAddressed) = .ok q' ∧ q'.ports t = q.ports t := by
  refine ⟨apply_append p, fun xs => ⟨?_, ?_⟩, ?_, fun xs q => lastSets_of_ok, fun xs q t ok => apply_filter ok t⟩
  · rintro ⟨q, ok⟩
    exact wellFormed_of_ok ok
  · intro each
    obtain ⟨q, ok, -⟩ := apply_of_wellFormed each p
    exact ⟨q, ok⟩
  · intro early words later each malformed
    exact apply_of_malformed each malformed p later

/-- A port below the range is refused, even where the legacy ports follow. -/
example : PortPair.apply ⟨.dynamic, .dynamic⟩ [["tcp", "80"], []] = .error ⟨"-p tcp", "80", .portGroup 3⟩ := by decide

end PortPair

end CastLaunch.CommandLine
