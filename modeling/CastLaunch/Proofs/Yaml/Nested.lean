import CastLaunch.Proofs.Text.Utf8
import CastLaunch.Text.Lines
import CastLaunch.Yaml.Load

/-!
A settings file with one entry in one section.  Of its text the scanner makes a mapping in
a mapping, and its value is the table of one entry whose value is what the unquoted scalar
stands for.
-/

namespace CastLaunch.Yaml
open CastLaunch.Text

/-- The characters of plain words: ASCII letters, digits and the underscore. -/
def isWordChar (c : Char) : Bool := c.isAlphanum || c == '_'

structure IsWord (w : List Char) : Prop where
  given : w ≠ []
  chars : ∀ c ∈ w, isWordChar c = true

variable {c d : Char} {w r q : List Char}

theorem ne_of_isWordChar (word : isWordChar c = true) (other : isWordChar d = false) : c ≠ d := by
  rintro rfl
  rw [word] at other
  cases other

theorem ofList_ne_of_all {p : Char → Bool} (all : ∀ c ∈ w, p c = true) {s : String} (other : s.toList.all p = false) :
    String.ofList w ≠ s := by
  rintro rfl
  rw [String.toList_ofList, List.all_eq_true.mpr all] at other
  cases other

theorem IsWord.begins (word : IsWord w) (r : List Char) :
    ∃ ch tail, w ++ r = ch :: tail ∧ isWordChar ch = true := by
  obtain ⟨ch, w', rfl⟩ := List.exists_cons_of_ne_nil word.given
  exact ⟨ch, w' ++ r, rfl, word.chars ch List.mem_cons_self⟩

theorem isBreak_of_isWordChar (word : isWordChar c = true) : isBreak c = false := by
  have apart := fun d (other : isWordChar d = false) => ne_of_isWordChar word other
  simp [isBreak, apart '\n' (by decide), apart '\r' (by decide), apart '\x85' (by decide), apart '\u2028' (by decide),
    apart '\u2029' (by decide)]

/-- A character within a line that takes a column. -/
def isInline (c : Char) : Bool := !isBreak c && c != byteOrderMark

theorem isInline_of_isWordChar (word : isWordChar c = true) : isInline c = true := by
  simp [isInline, isBreak_of_isWordChar word, ne_of_isWordChar word (d := byteOrderMark) (by decide)]

theorem toNat_of_isWordChar (word : isWordChar c = true) : 48 ≤ c.toNat ∧ c.toNat ≤ 122 := by
  rcases Bool.or_eq_true_iff.mp word with letter | underscore
  · delta Char.isAlphanum Char.isAlpha Char.isUpper Char.isLower Char.isDigit at letter
    simp only [Bool.or_eq_true, Bool.and_eq_true, decide_eq_true_eq, UInt32.le_iff_toNat_le, ge_iff_le] at letter
    have value : c.toNat = c.val.toNat := rfl
    have bounds : 'A'.val.toNat = 65 ∧ 'Z'.val.toNat = 90 ∧ 'a'.val.toNat = 97 ∧ 'z'.val.toNat = 122 ∧
      '0'.val.toNat = 48 ∧ '9'.val.toNat = 57 := by decide
    omega
  · rw [beq_iff_eq.mp underscore]
    decide

theorem isAllowed_of_isWordChar (word : isWordChar c = true) : isAllowed c = true := by
  have range := toNat_of_isWordChar word
  have printable : 32 ≤ c.toNat ∧ c.toNat ≤ 126 := by omega
  simp [isAllowed, printable]

theorem stopsPlain_of_isWordChar (word : isWordChar c = true) : stopsPlain false c r = false := by
  have apart := fun d (other : isWordChar d = false) => ne_of_isWordChar word other
  simp [stopsPlain, isBreak_of_isWordChar word, apart ' ' (by decide), apart '\t' (by decide), apart ':' (by decide)]

/-- The characters that an unquoted scalar does not begin with. -/
def specials : List Char :=
  ['-', '?', ':', ',', '[', ']', '\x7b', '\x7d', '#', '&', '*', '!', '|', '>', '\x27', '"', '%', '@', Char.ofNat 96]

theorem startsPlain_of_isWordChar (word : isWordChar c = true) : startsPlain false (c :: r) = true := by
  have ends : endsToken (c :: r) = false := by
    simp [endsToken, isBreak_of_isWordChar word, ne_of_isWordChar word (d := ' ') (by decide),
      ne_of_isWordChar word (d := '\t') (by decide)]
  have plain : specials.contains c = false := by
    rw [List.contains_eq_any_beq, List.any_eq_false]
    intro d member
    have none : specials.any isWordChar = false := by decide
    have other : isWordChar d = false := eq_false_of_ne_true (List.any_eq_false.mp none d member)
    simp [ne_of_isWordChar word other]
  have unfolded : startsPlain false (c :: r) = ((!endsToken (c :: r) && !specials.contains c) ||
      (!endsToken r && (c == '-' || (!false && (c == '?' || c == ':'))))) := rfl
  rw [unfolded, ends, plain]
  rfl

theorem plainWord_append (chars : ∀ c ∈ w, isWordChar c = true) (stops : plainWord false r = []) :
    plainWord false (w ++ r) = w := by
  induction w with
  | nil => exact stops
  | cons c w ih =>
    obtain ⟨first, later⟩ := List.forall_mem_cons.mp chars
    simp [plainWord, stopsPlain_of_isWordChar first, ih later]

/-- A character at which the next token begins. -/
def isStill (c : Char) : Bool := c != ' ' && c != '#' && !isBreak c

theorem isStill_of_isWordChar (word : isWordChar c = true) : isStill c = true := by
  simp [isStill, isBreak_of_isWordChar word, ne_of_isWordChar word (d := ' ') (by decide),
    ne_of_isWordChar word (d := '#') (by decide)]

theorem IsWord.still (word : IsWord w) : ∀ ch, (w ++ r).head? = some ch → isStill ch = true := by
  intro ch head
  obtain ⟨first, tail, begins, letter⟩ := word.begins r
  rw [begins] at head
  cases head
  exact isStill_of_isWordChar letter

namespace Cursor

/-- Behind so many characters of the same line. -/
def past (c : Cursor) (n : Nat) (r : List Char) : Cursor :=
  { rest := r, index := c.index + n, line := c.line, column := c.column + n }

theorem skip_inline {c : Cursor} (rest : c.rest = w ++ r) (inline : ∀ ch ∈ w, isInline ch = true) :
    c.skip w.length = c.past w.length r := by
  induction w generalizing c with
  | nil => rw [← show c.rest = r from rest]; rfl
  | cons ch w ih =>
    obtain ⟨first, later⟩ := List.forall_mem_cons.mp inline
    simp only [isInline, Bool.and_eq_true, Bool.not_eq_true', bne_iff_ne] at first
    have next : c.next = c.past 1 (w ++ r) := by
      simp [Cursor.next, rest, past, first.1, first.2]
    rw [List.length_cons, skip, next, ih rfl later]
    simp only [past, Cursor.mk.injEq, true_and]
    omega

theorem lineBreak_of_head {c : Cursor} (still : ∀ ch, c.rest.head? = some ch → isBreak ch = false) :
    c.lineBreak = none := by
  have apart : ∀ ch r, c.rest = ch :: r → isBreak ch = false := fun ch r rest => still ch (by rw [rest]; rfl)
  unfold lineBreak
  split
  · next rest => cases apart _ _ rest
  · next ch r _ rest =>
    have inside := apart ch r rest
    have separators : ch ≠ '\u2028' ∧ ch ≠ '\u2029' := by
      constructor <;> rintro rfl <;> cases inside
    simp [inside, separators.1, separators.2]
  · rfl

end Cursor

/-- What comes behind the last word of a scalar: a colon that ends it, or the end of the text. -/
theorem plainScalar_of_gap {cursor after : Cursor} {indent : Int} {gap : List Char} {passed : Bool}
    (rest : cursor.rest = w ++ r) (word : IsWord w) (stops : plainWord false r = [])
    (behind : plainGap (cursor.past w.length r) = (gap, after, passed))
    (ended : gap = [] ∨ (after.column : Int) < indent) :
    plainScalar false indent cursor = (String.ofList w, after, passed) := by
  have skipped : cursor.skip w.length = cursor.past w.length r :=
    Cursor.skip_inline rest fun ch member => isInline_of_isWordChar (word.chars ch member)
  have comment : (cursor.rest.head? == some '#') = false := by
    obtain ⟨ch, tail, begins, letter⟩ := word.begins r
    simp [rest, begins, ne_of_isWordChar letter (d := '#') (by decide)]
  have whole : plainWord false cursor.rest = w := by rw [rest, plainWord_append word.chars stops]
  have ends : gap = [] ∨ after.rest.head? = some '#' ∨ (after.column : Int) < indent := ended.imp_right .inr
  simp only [plainScalar, plainWords, comment, whole, skipped, behind, if_neg word.given, Bool.false_eq_true, if_false,
    true_and, if_pos ends]

theorem plainGap_of_still {c : Cursor} (still : ∀ ch, c.rest.head? = some ch → ch ≠ ' ' ∧ isBreak ch = false) :
    plainGap c = ([], c, false) := by
  have blanks : c.rest.takeWhile (· == ' ') = [] := by
    cases rest : c.rest with
    | nil => rfl
    | cons ch r => simp [(still ch (by simp [rest])).1]
  have noBreak : c.lineBreak = none := Cursor.lineBreak_of_head fun ch head => (still ch head).2
  simp only [plainGap, blanks, List.length_nil, Cursor.skip, noBreak]

/-- A line end at the end of the text. -/
theorem plainGap_of_end {c : Cursor} (rest : c.rest = ['\n']) :
    plainGap c = ([' '], { rest := [], index := c.index + 1, line := c.line + 1, column := 0 }, true) := by
  simp [plainGap, rest, Cursor.skip, Cursor.lineBreak, isBreak, Cursor.next, atMarker, plainBreaks]

namespace Scanner

theorem approach_of_spaces {s : Scanner} {fuel n : Nat} (rest : s.cursor.rest = List.replicate n ' ' ++ r)
    (still : ∀ ch, r.head? = some ch → isStill ch = true) :
    approach (fuel + 1) s = { s with cursor := s.cursor.past n r } := by
  have apart : ∀ ch, r.head? = some ch → ch ≠ ' ' ∧ ch ≠ '#' ∧ isBreak ch = false := fun ch head => by
    simpa [isStill, and_assoc] using still ch head
  have blanks : s.cursor.rest.takeWhile (· == ' ') = List.replicate n ' ' := by
    have none : r.takeWhile (· == ' ') = [] := by
      cases r with
      | nil => rfl
      | cons ch r => simp [(apart ch rfl).1]
    rw [rest, List.takeWhile_append_of_pos (by simp), none, List.append_nil]
  have skipped : s.cursor.skipWhile (· == ' ') = s.cursor.past n r := by
    have inline : ∀ ch ∈ List.replicate n ' ', isInline ch = true := fun ch member => by
      rw [List.eq_of_mem_replicate member]
      decide
    rw [Cursor.skipWhile, blanks, Cursor.skip_inline rest inline, List.length_replicate]
  have comment : ((s.cursor.past n r).rest.head? == some '#') = false := by
    cases r with
    | nil => rfl
    | cons ch r => simp [Cursor.past, (apart ch rfl).2.1]
  have noBreak : (s.cursor.past n r).lineBreak = none := Cursor.lineBreak_of_head fun ch head => (apart ch head).2.2
  simp only [approach, skipped, comment, Bool.false_eq_true, if_false, noBreak]

theorem dropStale_of_fresh {s : Scanner} (fresh : s.candidates = []) : s.dropStale = some s := by
  obtain ⟨cursor, flow, indent, indents, tokens, keyAllowed, candidates⟩ := s
  cases fresh
  rfl

theorem unwind_of_le {s : Scanner} {column : Int} (inside : s.indent ≤ column) : s.unwind column = s := by
  have deep : ¬column < s.indent := by omega
  unfold unwind
  split
  · rfl
  · cases s.indents <;> simp [unwind.go, deep]

/-- Only spaces are skipped before the next token, and no block ends here. -/
theorem atToken_of_spaces {s t : Scanner} {n : Nat} (rest : s.cursor.rest = List.replicate n ' ' ++ r)
    (still : ∀ ch, r.head? = some ch → isStill ch = true) (there : { s with cursor := s.cursor.past n r } = t)
    (fresh : t.dropStale = some t) (inside : t.indent ≤ t.column) : s.atToken = .ok t := by
  rw [atToken, approach_of_spaces rest still, there, fresh]
  exact congrArg Except.ok (unwind_of_le inside)

theorem run_of_token {fuel : Nat} {s t u : Scanner} (ready : s.atToken = .ok t) (more : t.cursor.rest ≠ [])
    (token : t.token = .ok u) : run (fuel + 1) s = run fuel u := by
  rw [run, ready]
  simp only [more, if_false, token]

theorem token_of_word {s : Scanner} (rest : s.cursor.rest = w ++ r) (word : IsWord w) (block : s.flow = 0) :
    s.token = expected s.plainToken := by
  obtain ⟨ch, tail, begins, letter⟩ := word.begins r
  have apart := fun d (other : isWordChar d = false) => ne_of_isWordChar letter other
  have starts : startsPlain s.inFlow (ch :: tail) = true := by
    simp [inFlow, block, startsPlain_of_isWordChar letter]
  have dash := apart '-' (by decide)
  have dot := apart '.' (by decide)
  have percent := apart '%' (by decide)
  have mark := apart '?' (by decide)
  have colon := apart ':' (by decide)
  simp only [token, rest, begins, starts, dash, dot, percent, mark, colon, and_false, false_and, if_false, if_true]
  split <;> first | exact absurd rfl (apart _ (by decide)) | rfl

theorem token_of_colon {s : Scanner} (rest : s.cursor.rest = ':' :: r) (ends : endsToken r = true) :
    s.token = expected s.colon := by
  simp [token, rest, ends]

/-- The scanner behind a key and its colon: a block mapping has begun at the key's column. -/
def keyed (s : Scanner) (w r : List Char) : Scanner :=
  { cursor := s.cursor.past (w.length + 1) r
    indent := s.column
    indents := s.indent :: s.indents
    tokens := s.tokens ++ [.blockMappingStart, .key, .scalar (String.ofList w) true, .value]
    keyAllowed := false }

/-- Outside of brackets, where a word may be a key that begins a mapping. -/
structure AtKey (s : Scanner) : Prop where
  block : s.flow = 0
  allowed : s.keyAllowed = true
  fresh : s.candidates = []
  deeper : s.indent < s.column

theorem plainToken_of_key {s : Scanner} (key : s.AtKey) (rest : s.cursor.rest = w ++ ':' :: r) (word : IsWord w)
    (ends : endsToken r = true) :
    s.plainToken = some { s with
      cursor := s.cursor.past w.length (':' :: r)
      keyAllowed := false
      candidates := [(0, ⟨s.tokens.length, false, s.cursor.index, s.cursor.line, s.column⟩)]
      tokens := s.tokens ++ [.scalar (String.ofList w) true] } := by
  have stops : plainWord false (':' :: r) = [] := by simp [plainWord, stopsPlain, ends]
  have gap : plainGap (s.cursor.past w.length (':' :: r)) = ([], s.cursor.past w.length (':' :: r), false) := by
    refine plainGap_of_still fun ch head => ?_
    cases head
    decide
  have scalar : ∀ indent, plainScalar false indent s.cursor =
      (String.ofList w, s.cursor.past w.length (':' :: r), false) := fun _ =>
    plainScalar_of_gap rest word stops gap (.inl rfl)
  have above : s.indent ≠ s.column := Int.ne_of_lt key.deeper
  simp [plainToken, saveCandidate, key.allowed, dropCandidate, key.fresh, inFlow, key.block, above, scalar, emit]

theorem colon_of_candidate {s : Scanner} {k : KeyCandidate} (block : s.flow = 0) (saved : s.candidates = [(0, k)])
    (deeper : s.indent < k.column) {before : List Token} {t : Token} (tokens : s.tokens = before ++ [t])
    (position : k.position = before.length) (rest : s.cursor.rest = ':' :: r) :
    s.colon = some { s with
      cursor := s.cursor.past 1 r
      keyAllowed := false
      candidates := []
      indent := k.column
      indents := s.indent :: s.indents
      tokens := before ++ [.blockMappingStart, .key, t, .value] } := by
  have next : s.cursor.skip 1 = s.cursor.past 1 r :=
    Cursor.skip_inline (w := [':']) rest (List.forall_mem_singleton.mpr (by decide))
  simp [colon, saved, block, inFlow, deepen, deeper, tokens, position, indicator, emit, next]

/-- A word with a colon behind it opens a block mapping with itself as the first key. -/
theorem run_key {fuel : Nat} {s t : Scanner} (ready : s.atToken = .ok t) (key : t.AtKey)
    (rest : t.cursor.rest = w ++ ':' :: r) (word : IsWord w) (ends : endsToken r = true) (short : w.length ≤ 1024) :
    run (fuel + 2) s = run fuel (t.keyed w r) := by
  let u : Scanner := { t with
    cursor := t.cursor.past w.length (':' :: r)
    keyAllowed := false
    candidates := [(0, ⟨t.tokens.length, false, t.cursor.index, t.cursor.line, t.column⟩)]
    tokens := t.tokens ++ [.scalar (String.ofList w) true] }
  have scalar : t.token = .ok u := by
    rw [token_of_word rest word key.block, plainToken_of_key key rest word ends]
    rfl
  have fresh : u.dropStale = some u := by
    have near : ¬t.cursor.index + 1024 < t.cursor.index + w.length := by omega
    simp [u, dropStale, isStale, Cursor.past, near]
  have inside : u.indent ≤ u.column := by
    have deeper := key.deeper
    show t.indent ≤ ((t.column + w.length : Nat) : Int)
    omega
  have again : u.atToken = .ok u :=
    atToken_of_spaces (n := 0) (r := ':' :: r) rfl (by simp [isStill, isBreak]) rfl fresh inside
  have colon : u.token = .ok (t.keyed w r) := by
    rw [token_of_colon rfl ends, colon_of_candidate (s := u) key.block rfl key.deeper rfl rfl rfl]
    simp [expected, keyed, u, Cursor.past, key.block, Nat.add_assoc]
  rw [run_of_token ready (by simp [rest]) scalar, run_of_token again (by simp [u, Cursor.past]) colon]

/-- The columns of the open block collections, innermost first, rise inwards. -/
def Rising : Int → List Int → Prop
  | indent, [] => indent = -1
  | indent, outer :: more => outer < indent ∧ Rising outer more

theorem Rising.inside {indent : Int} {outer : List Int} (h : Rising indent outer) : -1 ≤ indent := by
  induction outer generalizing indent with
  | nil => exact Int.le_of_eq (Eq.symm h)
  | cons next more ih => exact Int.le_of_lt (Int.lt_of_le_of_lt (ih h.2) h.1)

/-- The tokens when all open collections end. -/
def closing (s : Scanner) : List Token := s.tokens ++ List.replicate s.indents.length .blockEnd

/-- The later scanner has ended some of the collections, and nothing else has happened. -/
structure Unwinds (s t : Scanner) : Prop where
  cursor : t.cursor = s.cursor
  flow : t.flow = s.flow
  candidates : t.candidates = s.candidates
  rising : Rising t.indent t.indents
  closing : t.closing = s.closing

theorem go_unwinds {column : Int} {s : Scanner} (low : -1 ≤ column) (rising : Rising s.indent s.indents) :
    Unwinds s (unwind.go column s.indents s) ∧ (unwind.go column s.indents s).indent ≤ column := by
  generalize same : s.indents = indents at *
  induction indents generalizing s with
  | nil =>
    have margin : s.indent = -1 := rising
    have deep : ¬column < s.indent := by omega
    rw [unwind.go, if_neg deep]
    exact ⟨⟨rfl, rfl, rfl, by rwa [same], rfl⟩, by omega⟩
  | cons outer more ih =>
    rw [unwind.go]
    split
    · let t : Scanner := { s with indent := outer, indents := more, tokens := s.tokens ++ [.blockEnd] }
      have unwound := ih (s := t) rfl rising.2
      have closing : t.closing = s.closing := by
        simp [t, Scanner.closing, same, List.replicate_succ]
      exact ⟨⟨unwound.1.cursor, unwound.1.flow, unwound.1.candidates, unwound.1.rising,
        unwound.1.closing.trans closing⟩, unwound.2⟩
    · exact ⟨⟨rfl, rfl, rfl, by rwa [same], rfl⟩, by omega⟩

/-- Outside of brackets, and no word waits for its colon. -/
structure Within (s : Scanner) : Prop where
  block : s.flow = 0
  fresh : s.candidates = []
  rising : Rising s.indent s.indents

theorem Within.unwind {s : Scanner} (within : s.Within) (column : Int) (low : -1 ≤ column) :
    Unwinds s (s.unwind column) ∧ (s.unwind column).indent ≤ column := by
  have block : s.inFlow = false := by simp [inFlow, within.block]
  rw [Scanner.unwind, block]
  exact go_unwinds low within.rising

theorem close_of_within {s : Scanner} (within : s.Within) : s.close = .ok s.closing := by
  obtain ⟨unwinds, low⟩ := within.unwind (-1) (by decide)
  have none : (s.unwind (-1)).indents = [] := by
    have rising := unwinds.rising
    cases rest : (s.unwind (-1)).indents with
    | nil => rfl
    | cons outer more =>
      rw [rest] at rising
      have inside := rising.2.inside
      have above := rising.1
      omega
  have kept : (s.unwind (-1)).dropCandidate = some (s.unwind (-1)) := by
    simp [dropCandidate, unwinds.candidates, within.fresh]
  have tokens : (s.unwind (-1)).tokens = s.closing := by
    rw [← unwinds.closing]
    simp [closing, none]
  rw [close, kept, ← tokens]
  rfl

/-- At the end of the text all open collections end. -/
theorem run_of_end {fuel : Nat} {s : Scanner} (within : s.Within) (rest : s.cursor.rest = []) :
    run (fuel + 1) s = s.closing := by
  obtain ⟨unwinds, -⟩ := within.unwind s.column (by omega)
  have stays : s.cursor.past 0 [] = s.cursor := by
    rw [Cursor.past, ← rest]
    rfl
  have approached : s.approach (s.cursor.rest.length + 1) = s := by
    rw [approach_of_spaces (n := 0) (r := []) rest nofun, stays]
  have fresh := dropStale_of_fresh within.fresh
  have ready : s.atToken = .ok (s.unwind s.column) := by
    rw [atToken, approached, fresh]
    rfl
  have later : (s.unwind s.column).Within :=
    ⟨unwinds.flow.trans within.block, unwinds.candidates.trans within.fresh, unwinds.rising⟩
  have ended : (s.unwind s.column).cursor.rest = [] := by rw [unwinds.cursor, rest]
  rw [run, ready]
  simp only [ended, if_true, close_of_within later, unwinds.closing]

theorem run_value {fuel : Nat} {s t : Scanner} (ready : s.atToken = .ok t) (within : t.Within)
    (inside : 0 ≤ t.indent) (forbidden : t.keyAllowed = false) (rest : t.cursor.rest = w ++ r) (word : IsWord w)
    (last : r = [] ∨ r = ['\n']) :
    run (fuel + 2) s = t.tokens ++ .scalar (String.ofList w) true :: List.replicate t.indents.length .blockEnd := by
  have scalar : ∃ after passed, after.rest = [] ∧
      plainScalar false (t.indent + 1) t.cursor = (String.ofList w, after, passed) := by
    rcases last with rfl | rfl
    · exact ⟨_, _, rfl, plainScalar_of_gap rest word rfl (plainGap_of_still nofun) (.inl rfl)⟩
    · refine ⟨_, _, rfl, plainScalar_of_gap rest word (by decide) (plainGap_of_end rfl) (.inr ?_)⟩
      show ((0 : Nat) : Int) < t.indent + 1
      omega
  obtain ⟨after, passed, ended, scalar⟩ := scalar
  let u : Scanner := { t with
    cursor := after, keyAllowed := passed, tokens := t.tokens ++ [.scalar (String.ofList w) true] }
  have token : t.token = .ok u := by
    rw [token_of_word rest word within.block]
    simp [plainToken, saveCandidate, forbidden, inFlow, within.block, scalar, emit, expected, u]
  have behind : u.Within := ⟨within.block, within.fresh, within.rising⟩
  rw [run_of_token ready (by simp [rest, word.given]) token, run_of_end behind ended]
  simp [closing, u]

/-- Past a line end and the indentation of the next line. -/
theorem atToken_of_line {s : Scanner} {n : Nat} (within : s.Within)
    (rest : s.cursor.rest = '\n' :: (List.replicate n ' ' ++ r)) (still : ∀ ch, r.head? = some ch → isStill ch = true)
    (inside : s.indent ≤ n) :
    s.atToken = .ok { s with
      cursor := { rest := r, index := s.cursor.index + 1 + n, line := s.cursor.line + 1, column := n }
      keyAllowed := true } := by
  let t : Scanner := { s with
    cursor := { rest := List.replicate n ' ' ++ r, index := s.cursor.index + 1, line := s.cursor.line + 1, column := 0 }
    keyAllowed := true }
  have line : ∀ fuel, approach (fuel + 1) s = approach fuel t := by
    intro fuel
    simp [approach, Cursor.skipWhile, rest, Cursor.skip, Cursor.lineBreak, isBreak, Cursor.next, inFlow,
      within.block, t]
  let u : Scanner := { t with cursor := t.cursor.past n r }
  have spaces : approach (s.cursor.rest.length + 1) s = u := by
    have given : s.cursor.rest.length = (List.replicate n ' ' ++ r).length + 1 := by rw [rest]; rfl
    rw [line, given, approach_of_spaces rfl still]
  have fresh : u.dropStale = some u := dropStale_of_fresh within.fresh
  rw [atToken, spaces, fresh]
  refine congrArg Except.ok ((unwind_of_le ?_).trans ?_)
  · show s.indent ≤ ((0 + n : Nat) : Int)
    omega
  · simp [u, t, Cursor.past]

end Scanner

/-- A section with one entry: the key of the section, and on the next line, indented, the entry. -/
structure Nest where
  outer : List Char
  indent : Nat
  inner : List Char
  value : List Char
  /-- What comes behind the value: nothing, or a line end. -/
  last : List Char

namespace Nest

structure Valid (n : Nest) : Prop where
  outer : IsWord n.outer ∧ n.outer.length ≤ 1024
  indent : 0 < n.indent
  inner : IsWord n.inner ∧ n.inner.length ≤ 1024
  value : IsWord n.value
  last : n.last = [] ∨ n.last = ['\n']

def text (n : Nest) : List Char :=
  n.outer ++ ':' :: '\n' :: (List.replicate n.indent ' ' ++ (n.inner ++ ':' :: ' ' :: (n.value ++ n.last)))

variable {n : Nest}

theorem Valid.chars (valid : n.Valid) : ∀ c ∈ n.text, isWordChar c = true ∨ c ∈ [':', '\n', ' '] := by
  have last : ∀ c ∈ n.last, c = '\n' := by
    rcases valid.last with none | line
    · simp [none]
    · simp [line]
  intro c member
  simp only [text, List.mem_append, List.mem_cons, List.mem_replicate] at member
  rcases member with outer | colon | line | spaces | inner | colon | space | value | ending
  · exact .inl (valid.outer.1.chars c outer)
  · simp [colon]
  · simp [line]
  · simp [spaces.2]
  · exact .inl (valid.inner.1.chars c inner)
  · simp [colon]
  · simp [space]
  · exact .inl (valid.value.chars c value)
  · simp [last c ending]

theorem Valid.all (valid : n.Valid) {p : Char → Bool} (word : ∀ {c}, isWordChar c = true → p c = true)
    (marks : [':', '\n', ' '].all p = true) : ∀ c ∈ n.text, p c = true := by
  intro c member
  rcases valid.chars c member with letter | mark
  · exact word letter
  · exact List.all_eq_true.mp marks c mark

theorem Valid.run {fuel : Nat} (valid : n.Valid) :
    Scanner.run (fuel + 6) { cursor := { rest := n.text } } =
      [.blockMappingStart, .key, .scalar (String.ofList n.outer) true, .value, .blockMappingStart, .key,
        .scalar (String.ofList n.inner) true, .value, .scalar (String.ofList n.value) true, .blockEnd, .blockEnd] := by
  obtain ⟨⟨outer, outerShort⟩, indent, ⟨inner, innerShort⟩, value, last⟩ := valid
  let s : Scanner := { cursor := { rest := n.text } }
  have outside : s.indent < s.column := by
    show (-1 : Int) < ((0 : Nat) : Int)
    decide
  have indented : (0 : Int) < n.indent := by omega
  have ready : s.atToken = .ok s :=
    Scanner.atToken_of_spaces (n := 0) (r := n.text) rfl outer.still rfl (Scanner.dropStale_of_fresh rfl)
      (Int.le_of_lt outside)
  let line := List.replicate n.indent ' ' ++ (n.inner ++ ':' :: ' ' :: (n.value ++ n.last))
  let t := s.keyed n.outer ('\n' :: line)
  have first : Scanner.run (fuel + 6) s = Scanner.run (fuel + 4) t :=
    Scanner.run_key ready ⟨rfl, rfl, rfl, outside⟩ rfl outer rfl outerShort
  have atInner := Scanner.atToken_of_line (s := t) ⟨rfl, rfl, outside, rfl⟩ rfl inner.still (Int.le_of_lt indented)
  let u : Scanner := { t with
    cursor := { rest := n.inner ++ ':' :: ' ' :: (n.value ++ n.last), index := t.cursor.index + 1 + n.indent,
                line := t.cursor.line + 1, column := n.indent }
    keyAllowed := true }
  have second : Scanner.run (fuel + 4) t = Scanner.run (fuel + 2) (u.keyed n.inner (' ' :: (n.value ++ n.last))) :=
    Scanner.run_key atInner ⟨rfl, rfl, rfl, indented⟩ rfl inner rfl innerShort
  have within : (u.keyed n.inner (' ' :: (n.value ++ n.last))).Within := ⟨rfl, rfl, indented, outside, rfl⟩
  have atValue := Scanner.atToken_of_spaces (s := u.keyed n.inner (' ' :: (n.value ++ n.last))) (n := 1)
    (r := n.value ++ n.last) rfl value.still rfl (Scanner.dropStale_of_fresh rfl) ?_
  have third : Scanner.run (fuel + 2) _ = _ :=
    Scanner.run_value atValue ⟨rfl, rfl, within.rising⟩ (Int.le_of_lt indented) rfl rfl value last
  · rw [first, second, third]
    rfl
  · show (n.indent : Int) ≤ ((n.indent + (n.inner.length + 1) + 1 : Nat) : Int)
    omega

theorem Valid.tokens (valid : n.Valid) :
    Yaml.tokens n.text =
      [.blockMappingStart, .key, .scalar (String.ofList n.outer) true, .value, .blockMappingStart, .key,
        .scalar (String.ofList n.inner) true, .value, .scalar (String.ofList n.value) true, .blockEnd, .blockEnd] := by
  have mark : (n.text.head? == some byteOrderMark) = false := by
    obtain ⟨ch, tail, begins, letter⟩ := valid.outer.1.begins
      (':' :: '\n' :: (List.replicate n.indent ' ' ++ (n.inner ++ ':' :: ' ' :: (n.value ++ n.last))))
    simp [text, begins, ne_of_isWordChar letter (d := byteOrderMark) (by decide)]
  have enough : ∃ fuel, n.text.length + 2 = fuel + 6 := by
    refine ⟨n.text.length - 4, ?_⟩
    simp only [text, List.length_append, List.length_cons]
    omega
  obtain ⟨fuel, enough⟩ := enough
  have allowed := List.all_eq_true.mpr (valid.all isAllowed_of_isWordChar (by decide))
  rw [Yaml.tokens, if_pos allowed, mark, enough]
  exact valid.run

/-- The mapping in a mapping. -/
def node (n : Nest) : Node :=
  .mapping [(.scalar (String.ofList n.outer) true,
    .mapping [(.scalar (String.ofList n.inner) true, .scalar (String.ofList n.value) true)])]

theorem Valid.document (valid : n.Valid) : Yaml.document (Yaml.tokens n.text) = .ok (some n.node) := by
  rw [valid.tokens]
  rfl

theorem isMerge_of_isWord {w : List Char} (word : IsWord w) : (Node.scalar (String.ofList w) true).isMerge = false := by
  simp [Node.isMerge, ofList_ne_of_all word.chars (s := "<<") (by decide)]

theorem asKey_of_isWord {w : List Char} (word : IsWord w) :
    asKey (.scalar (String.ofList w) true) = .scalar (String.ofList w) true := by
  unfold asKey
  split
  · next same =>
    simp only [Node.scalar.injEq, and_true] at same
    exact absurd same (ofList_ne_of_all word.chars (by decide))
  · rfl

theorem spliced_of_isWord {w : List Char} (word : IsWord w) (v : Node) :
    spliced [(.scalar (String.ofList w) true, v)] = some [(.scalar (String.ofList w) true, v)] := by
  simp [spliced, isMerge_of_isWord word, asKey_of_isWord word]

theorem Valid.merge (valid : n.Valid) : n.node.merge = n.node := by
  simp [node, Node.merge, mergeEntries, spliced_of_isWord valid.outer.1, spliced_of_isWord valid.inner.1]

theorem fault?_node (outer : resolve (String.ofList n.outer) = .ok (.text (String.ofList n.outer)))
    (inner : resolve (String.ofList n.inner) = .ok (.text (String.ofList n.inner))) :
    n.node.fault? = scalarFault? (String.ofList n.value) true := by
  have known : scalarFault? (String.ofList n.outer) true = none ∧ scalarFault? (String.ofList n.inner) true = none := by
    simp [scalarFault?, outer, inner]
  simp [node, Node.fault?, Node.ownFault?, Node.depth, depthOfEntries, faultBelow?, Node.partFault?, Node.keyFault?,
    known.1, known.2, Node.inner]

theorem load_of_document {text : List Char} {d : Node} (whole : Yaml.document (Yaml.tokens text) = .ok (some d)) :
    Yaml.load text = d.merge.fault?.elim (.ok d.merge.value) .error := by
  rw [Yaml.load, whole]
  dsimp only [bind, Except.bind]
  cases d.merge.fault? <;> rfl

/-- The value of the file: one entry in one table, unless the value is a scalar that cannot be read. -/
theorem Valid.load (valid : n.Valid) (outer : resolve (String.ofList n.outer) = .ok (.text (String.ofList n.outer)))
    (inner : resolve (String.ofList n.inner) = .ok (.text (String.ofList n.inner))) :
    Yaml.load n.text = (resolve (String.ofList n.value)).map fun v =>
      .table [(.text (String.ofList n.outer), .table [(.text (String.ofList n.inner), v)])] := by
  rw [load_of_document valid.document, valid.merge, fault?_node outer inner, scalarFault?]
  cases read : resolve (String.ofList n.value) with
  | error e => rfl
  | ok v =>
    simp [node, Node.value, entriesOf, Value.put, scalarValue, outer, inner, read, Except.toOption, Except.map]

/-! The file itself holds ASCII characters with line feeds only. -/

def bytes (n : Nest) : List UInt8 := n.text.map fun c => UInt8.ofNat c.toNat

theorem Valid.decode (valid : n.Valid) : Utf8.decode n.bytes = .ok n.text := by
  have ascii : ∀ c ∈ n.text, c.toNat < 128 := fun c member => by
    simpa using valid.all (p := fun c => decide (c.toNat < 128)) (fun word => by
      have range := toNat_of_isWordChar word
      simp
      omega) (by decide) c member
  exact Utf8.decode_eq_ok_iff.mpr (Utf8.encode_of_ascii ascii)

theorem Valid.unifyBreaks (valid : n.Valid) : unifyBreaks n.text = n.text := by
  refine unifyBreaks_of_not_mem fun member => ?_
  have other := valid.all (p := fun c => c != '\r') (fun word => bne_iff_ne.mpr (ne_of_isWordChar word (by decide)))
    (by decide) _ member
  cases other

end Nest

end CastLaunch.Yaml
