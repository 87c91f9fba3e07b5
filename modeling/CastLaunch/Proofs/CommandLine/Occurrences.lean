import CastLaunch.CommandLine.Arguments
import Mathlib.Data.List.Basic
import Mathlib.Data.List.Induction

/-!
Command lines of whole options.  Options that are written one after the other are read back
one by one, whatever their order and however often they occur: a flag holds when it occurs, of
several values of one option the last one counts, and each port option keeps its own list.  A
value stands behind the name of its option, or in the same argument where no longer name can
be meant.
-/

namespace CastLaunch.CommandLine

/-- A text that cannot be taken for an option. -/
def IsPlain (s : String) : Prop := s.toList.head? ≠ some '-'

/-- The names of one letter that take a value in the same argument. -/
def shortNames : List (Char × Opt) :=
  [('s', .display), ('f', .flip), ('r', .turn), ('n', .name), ('t', .idleTimeout)]

def shortName (letter : Char) : List Char := ['-', letter]

/-- A value that can follow a one-letter name directly.  Behind the flip, a `p` would begin the longer name of
the frame rate. -/
structure Attachable (o : Opt) (text : String) : Prop where
  given : text.toList ≠ []
  plain : IsPlain text
  unassigned : text.toList.head? ≠ some '='
  short : o = .flip → text.toList.head? ≠ some 'p'

/-- An option on a command line, with what belongs to it. -/
inductive Occurrence where
  | flag (name : String) (o : Opt) (known : (name, o) ∈ names) (alone : o.arity = .flag)
  | value (name : String) (o : Opt) (known : (name, o) ∈ names) (takes : o.arity = .one) (text : String)
      (plain : IsPlain text)
  | ports (texts : List String) (plain : ∀ s ∈ texts, IsPlain s)
  | attached (letter : Char) (o : Opt) (known : (letter, o) ∈ shortNames) (text : String)
      (attachable : Attachable o text)

namespace Occurrence

def option : Occurrence → Opt
  | flag _ o .. | value _ o .. | attached _ o .. => o
  | ports .. => .ports

def given : Occurrence → List String
  | flag .. => []
  | value _ _ _ _ text _ | attached _ _ _ text _ => [text]
  | ports texts _ => texts

/-- The option as it is written. -/
def arguments : Occurrence → List String
  | flag name .. => [name]
  | value name _ _ _ text _ => [name, text]
  | ports texts _ => "-p" :: texts
  | attached letter _ _ text _ => [String.ofList (shortName letter) ++ text]

/-- The arguments of the option with what each of them is. -/
def items : Occurrence → List (String × Mark)
  | flag name o .. => [(name, .option o none)]
  | value name o _ _ text _ => [(name, .option o none), (text, .value)]
  | ports texts _ => ("-p", .option .ports none) :: texts.map (·, .value)
  | attached letter o _ text _ => [(String.ofList (shortName letter) ++ text, .option o (some text.toList))]

theorem map_items (occ : Occurrence) : occ.items.map (·.1) = occ.arguments := by
  cases occ with
  | ports texts plain => simp [items, arguments, Function.comp_def]
  | _ => rfl

/-- The text of a valued option. -/
def text? (o : Opt) : Occurrence → Option String
  | value _ o' _ _ text _ | attached _ o' _ text _ => if o' = o then some text else none
  | flag .. | ports .. => none

def ports? : Occurrence → Option (List String)
  | ports texts _ => some texts
  | _ => none

end Occurrence

/-- The value that counts for an option. -/
def lastText (o : Opt) (occs : List Occurrence) : Option OptValue :=
  (occs.filterMap (·.text? o)).getLast?.map .text

def portLists (occs : List Occurrence) : List (List String) := occs.filterMap (·.ports?)

def occurs (o : Opt) (occs : List Occurrence) : Bool := occs.any (·.option == o)

/-- What the options say together. -/
def Arguments.ofOccurrences (occs : List Occurrence) : Arguments where
  help := occurs .help occs
  display := lastText .display occs
  overscan := occurs .overscan occs
  fps := lastText .fps occs
  flip := lastText .flip occs
  turn := lastText .turn occs
  videoSink := lastText .videoSink occs
  audioSink := lastText .audioSink occs
  audioOff := occurs .audioOff occs
  ports := if portLists occs = [] then none else some (portLists occs)
  name := lastText .name occs
  randomIdentifier := occurs .randomIdentifier occs
  idleTimeout := lastText .idleTimeout occs
  debugToggles := occs.countP (·.option == .debug)

/-! What a single argument is. -/

theorem mark_of_name : ∀ e ∈ names, Mark.of e.1 = .ok (.option e.2 none) := by decide

theorem mark_of_plain {s : String} (plain : IsPlain s) : Mark.of s = .ok .value := by
  unfold Mark.of
  split
  · next same => exact absurd (by rw [same]; rfl) plain
  · rfl

theorem name_of_short : ∀ n ∈ shortNames, ∀ e ∈ names, e.1.toList.take 2 = shortName n.1 →
    e.1.toList = shortName n.1 ∨ n.2 = .flip ∧ e.1.toList = shortName n.1 ++ ['p', 's'] := by decide

variable {letter : Char} {o : Opt} {c : Char} {r : List Char}

/-- No name begins with a one-letter name and a value. -/
theorem not_isPrefix_name (known : (letter, o) ∈ shortNames) (short : o = .flip → c ≠ 'p') {e : String × Opt}
    (named : e ∈ names) : ¬shortName letter ++ c :: r <+: e.1.toList := by
  rintro ⟨tail, same⟩
  rcases name_of_short _ known e named (by rw [← same]; rfl) with exact | ⟨flip, longer⟩
  · simp [← same] at exact
  · rw [← same] at longer
    have head : c = 'p' ∧ r ++ tail = ['s'] := by simpa [shortName] using longer
    exact short flip head.1

theorem ofName?_attached (known : (letter, o) ∈ shortNames) (short : o = .flip → c ≠ 'p') :
    Opt.ofName? (String.ofList (shortName letter ++ c :: r)) = none := by
  rw [Opt.ofName?, List.lookup_eq_none_iff]
  intro e named
  rw [bne_iff_ne]
  intro same
  have whole : shortName letter ++ c :: r = e.1.toList := by rw [← same, String.toList_ofList]
  exact not_isPrefix_name known short named ⟨[], by rw [List.append_nil, whole]⟩

theorem assigned?_attached (known : (letter, o) ∈ shortNames) (short : o = .flip → c ≠ 'p') (unassigned : c ≠ '=') :
    assigned? (shortName letter ++ c :: r) = none := by
  have outside : ∀ n ∈ shortNames, n.1 ≠ '=' := by decide
  have before : (shortName letter ++ c :: r).takeWhile (· != '=') =
      shortName letter ++ c :: r.takeWhile (· != '=') := by
    simp [shortName, outside _ known, unassigned]
  unfold assigned?
  split
  · rfl
  · rw [before, ofName?_attached known short]
    rfl

theorem readings_attached (known : (letter, o) ∈ shortNames) (short : o = .flip → c ≠ 'p') :
    readings (shortName letter ++ c :: r) = [(String.ofList (shortName letter), o, some (c :: r))] := by
  have only : readings (shortName letter ++ c :: r) = names.filterMap fun e =>
      if e.1.toList = shortName letter then some (e.1, e.2, some (c :: r)) else none := by
    refine List.filterMap_congr fun e named => ?_
    have begins : (shortName letter ++ c :: r).isPrefixOf e.1.toList = false := by
      rw [← Bool.not_eq_true, List.isPrefixOf_iff_prefix]
      exact not_isPrefix_name known short named
    obtain ⟨name, o'⟩ := e
    simp only [begins]
    rfl
  rw [only]
  simp only [shortNames, List.mem_cons, Prod.mk.injEq, List.not_mem_nil, or_false] at known
  rcases known with ⟨rfl, rfl⟩ | ⟨rfl, rfl⟩ | ⟨rfl, rfl⟩ | ⟨rfl, rfl⟩ | ⟨rfl, rfl⟩ <;> rfl

theorem mark_of_attached {text : String} (known : (letter, o) ∈ shortNames) (attachable : Attachable o text) :
    Mark.of (String.ofList (shortName letter) ++ text) = .ok (.option o (some text.toList)) := by
  have whole : String.ofList (shortName letter) ++ text = String.ofList (shortName letter ++ text.toList) := by
    rw [String.ofList_append, String.ofList_toList]
  obtain ⟨given, plain, unassigned, short⟩ := attachable
  rw [whole]
  cases chars : text.toList with
  | nil => exact absurd chars given
  | cons c r =>
    rw [chars] at unassigned short
    have first : o = .flip → c ≠ 'p' := fun flip same => short flip (by rw [same]; rfl)
    have behind : c ≠ '=' := fun same => unassigned (by rw [same]; rfl)
    have inside : ∀ n ∈ shortNames, n.1 ≠ '-' := by decide
    have spelled : (String.ofList (shortName letter ++ c :: r)).toList = '-' :: letter :: c :: r := by
      rw [String.toList_ofList]
      rfl
    unfold Mark.of
    rw [spelled]
    simp only [ofName?_attached known first]
    have unassigned : assigned? ('-' :: letter :: c :: r) = none := assigned?_attached known first behind
    have meant : readings ('-' :: letter :: c :: r) = _ := readings_attached known first
    rw [unassigned, if_neg (inside _ known), meant]

/-! What the arguments of a whole command line are. -/

/-- An argument that is no separator, with what it is. -/
def IsMarked (item : String × Mark) : Prop := item.1 ≠ "--" ∧ Mark.of item.1 = .ok item.2

theorem isMarked_name {e : String × Opt} (known : e ∈ names) : IsMarked (e.1, .option e.2 none) :=
  have apart : ∀ e ∈ names, e.1 ≠ "--" := by decide
  ⟨apart e known, mark_of_name e known⟩

theorem IsPlain.ne_separator {s : String} (plain : IsPlain s) : s ≠ "--" := by
  rintro rfl
  exact plain rfl

theorem isMarked_plain {s : String} (plain : IsPlain s) : IsMarked (s, .value) :=
  ⟨plain.ne_separator, mark_of_plain plain⟩

theorem isMarked_attached {text : String} (known : (letter, o) ∈ shortNames) (attachable : Attachable o text) :
    IsMarked (String.ofList (shortName letter) ++ text, .option o (some text.toList)) := by
  refine ⟨fun same => ?_, mark_of_attached known attachable⟩
  have inside : ∀ n ∈ shortNames, n.1 ≠ '-' := by decide
  have chars := congrArg String.toList same
  rw [String.toList_append, String.toList_ofList] at chars
  exact inside _ known (List.cons.inj (List.cons.inj chars).2).1

theorem Occurrence.isMarked (occ : Occurrence) : ∀ item ∈ occ.items, IsMarked item := by
  cases occ with
  | flag name o known alone => simpa [items] using isMarked_name known
  | value name o known takes text plain =>
    simpa [items] using ⟨isMarked_name known, isMarked_plain plain⟩
  | ports texts plain =>
    have option : IsMarked ("-p", .option .ports none) := isMarked_name (e := ("-p", .ports)) (by decide)
    simpa [items] using ⟨option, fun s member => isMarked_plain (plain s member)⟩
  | attached letter o known text attachable => simpa [items] using isMarked_attached known attachable

theorem marked_of_isMarked {items : List (String × Mark)} (each : ∀ item ∈ items, IsMarked item) :
    marked (items.map (·.1)) = .ok items := by
  induction items with
  | nil => rfl
  | cons item rest ih =>
    obtain ⟨⟨apart, mark⟩, later⟩ := List.forall_mem_cons.mp each
    rw [List.map_cons, marked, if_neg apart, mark, ih later]
    rfl

/-! What is read behind each option. -/

/-- The reading is over but for the port option that may still take values. -/
def Reading.Settles (s : Reading) (a : Arguments) : Prop := s.settle = .ok { arguments := a }

theorem step_values (a : Arguments) (o : Opt) (before texts : List String) :
    (texts.map (·, Mark.value)).foldlM Reading.step { arguments := a, awaiting := .many o before } =
      .ok { arguments := a, awaiting := .many o (before ++ texts) } := by
  induction texts generalizing before with
  | nil => simp [pure, Except.pure]
  | cons s rest ih =>
    rw [List.map_cons, List.foldlM_cons]
    exact (ih (before ++ [s])).trans (by simp)

theorem Arguments.attach_of_takes (a : Arguments) (takes : o.arity = .one) (text : List Char) :
    a.attach o text = .ok (a.record o [String.ofList text], .nothing) := by
  have valued : o.arity ≠ .flag := by simp [takes]
  cases text with
  | nil => rw [attach, if_neg valued]
  | cons c r => rw [attach, if_neg valued]

theorem arity_of_short : ∀ n ∈ shortNames, n.2.arity = .one := by decide

/-- An option settles the reading before it and leaves one that settles with the option. -/
theorem Reading.Settles.occurrence {s : Reading} {a : Arguments} (settles : s.Settles a) (occ : Occurrence) :
    ∃ t, occ.items.foldlM Reading.step s = .ok t ∧ t.Settles (a.record occ.option occ.given) := by
  have settled : s.settle = .ok { arguments := a } := settles
  cases occ with
  | flag name o known alone =>
    refine ⟨{ arguments := a.record o [] }, ?_, rfl⟩
    simp [Occurrence.items, Reading.step, settled, bind, Except.bind, pure, Except.pure, Arguments.begin, alone]
  | value name o known takes text plain =>
    refine ⟨{ arguments := a.record o [text] }, ?_, rfl⟩
    simp [Occurrence.items, Reading.step, settled, bind, Except.bind, pure, Except.pure, Arguments.begin, takes]
  | ports texts plain =>
    refine ⟨{ arguments := a, awaiting := .many .ports texts }, ?_, rfl⟩
    have begun : Reading.step s ("-p", .option .ports none) =
        .ok { arguments := a, awaiting := .many .ports [] } := by
      simp [Reading.step, settled, bind, Except.bind, pure, Except.pure, Arguments.begin, Opt.arity]
    rw [Occurrence.items, List.foldlM_cons, begun]
    exact step_values a .ports [] texts
  | attached letter o known text attachable =>
    refine ⟨{ arguments := a.record o [text] }, ?_, rfl⟩
    have attached := a.attach_of_takes (arity_of_short _ known) text.toList
    rw [String.ofList_toList] at attached
    simp [Occurrence.items, Reading.step, settled, bind, Except.bind, pure, Except.pure, attached]

/-! What all options say together. -/

theorem erase_separator {texts : List String} (plain : ∀ s ∈ texts, IsPlain s) : texts.erase "--" = texts :=
  List.erase_of_not_mem fun member => (plain _ member).ne_separator rfl

theorem Occurrence.given_plain (occ : Occurrence) : ∀ s ∈ occ.given, IsPlain s := by
  cases occ with
  | flag => nofun
  | value name o known takes text plain => exact List.forall_mem_singleton.mpr plain
  | ports texts plain => exact plain
  | attached letter o known text attachable => exact List.forall_mem_singleton.mpr attachable.plain

theorem occurs_concat (o : Opt) (occs : List Occurrence) (occ : Occurrence) :
    occurs o (occs ++ [occ]) = (occurs o occs || occ.option == o) := by
  simp [occurs]

theorem lastText_concat (o : Opt) (occs : List Occurrence) (occ : Occurrence) :
    lastText o (occs ++ [occ]) = ((occ.text? o).map OptValue.text).or (lastText o occs) := by
  rw [lastText, lastText, List.filterMap_append, List.getLast?_append]
  cases given : occ.text? o <;> simp [given]

theorem portLists_concat (occs : List Occurrence) (occ : Occurrence) :
    portLists (occs ++ [occ]) = portLists occs ++ occ.ports?.toList := by
  cases given : occ.ports? <;> simp [portLists, given]

theorem Arguments.ofOccurrences_concat (occs : List Occurrence) (occ : Occurrence) :
    ofOccurrences (occs ++ [occ]) = (ofOccurrences occs).record occ.option occ.given := by
  simp only [ofOccurrences, occurs_concat, lastText_concat, portLists_concat, List.countP_append,
    List.countP_singleton]
  have texts := erase_separator occ.given_plain
  cases occ with
  | flag name o known alone =>
    cases o <;> cases alone <;> simp [record, Occurrence.option, Occurrence.text?, Occurrence.ports?]
  | value name o known takes text plain =>
    simp only [Occurrence.given] at texts
    cases o <;> cases takes <;>
      simp [record, texts, Occurrence.option, Occurrence.given, Occurrence.text?, Occurrence.ports?, OptValue.ofList]
  | ports lists plain =>
    simp only [Occurrence.given] at texts
    by_cases none : portLists occs = [] <;>
      simp [record, texts, none, Occurrence.option, Occurrence.given, Occurrence.text?, Occurrence.ports?]
  | attached letter o known text attachable =>
    simp only [Occurrence.given] at texts
    have takes := arity_of_short _ known
    cases o <;> cases takes <;>
      simp [record, texts, Occurrence.option, Occurrence.given, Occurrence.text?, Occurrence.ports?, OptValue.ofList]

/-- After any options the reading settles with what they say together. -/
theorem reading_settles (occs : List Occurrence) :
    ∃ s, (occs.flatMap Occurrence.items).foldlM Reading.step {} = .ok s ∧ s.Settles (.ofOccurrences occs) := by
  induction occs using List.reverseRecOn with
  | nil => exact ⟨{}, rfl, rfl⟩
  | append_singleton occs occ ih =>
    obtain ⟨s, before, settles⟩ := ih
    obtain ⟨t, behind, settled⟩ := settles.occurrence occ
    refine ⟨t, ?_, ?_⟩
    · rw [List.flatMap_append, List.foldlM_append, before]
      simpa [bind, Except.bind] using behind
    · rw [Arguments.ofOccurrences_concat]
      exact settled

theorem Arguments.parse_of_settles {argv : List String} {items : List (String × Mark)} {s : Reading} {a : Arguments}
    (marks : marked argv = .ok items) (read : items.foldlM Reading.step {} = .ok s) (settles : s.Settles a) :
    parse argv = .ok a := by
  have settled : s.settle = .ok { arguments := a } := settles
  simp [parse, marks, read, settled, bind, Except.bind, pure, Except.pure]

/-- Options written one after the other are read back as they are. -/
theorem parse_occurrences (occs : List Occurrence) :
    Arguments.parse (occs.flatMap Occurrence.arguments) = .ok (.ofOccurrences occs) := by
  have arguments : occs.flatMap Occurrence.arguments = (occs.flatMap Occurrence.items).map (·.1) := by
    rw [List.map_flatMap]
    exact List.flatMap_congr fun occ _ => occ.map_items.symm
  obtain ⟨s, read, settles⟩ := reading_settles occs
  refine Arguments.parse_of_settles ?_ read settles
  rw [arguments]
  refine marked_of_isMarked fun item member => ?_
  obtain ⟨occ, -, inside⟩ := List.mem_flatMap.mp member
  exact occ.isMarked item inside

/-- A longer name next to the shorter one that begins it, both with values, and port lists around a bare port option. -/
example : Arguments.parse ["-p", "7000", "-fps", "30", "-fH", "-p", "-d", "-as", "0", "-p", "tcp", "7100", "-d", "-fV"] =
    .ok { fps := some (.text "30"), flip := some (.text "V"), audioSink := some (.text "0")
          ports := some [["7000"], [], ["tcp", "7100"]], debugToggles := 2 } := by decide

end CastLaunch.CommandLine
