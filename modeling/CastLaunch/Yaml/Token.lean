import CastLaunch.Yaml.Quoted
import CastLaunch.Yaml.Unquoted

/-!
Tokens of a settings file.  Indentation opens and closes block collections, and a
colon turns the scalar or collection before it on the line into a key; its key
token is then put in front of the tokens already read for it.  Anchors, aliases,
tags, directives and block scalars are refused as malformed, although they are part
of the language.

Tokens are given out one by one, and reading goes no further than that needs.  So a
fault in the text is met only behind the tokens that were complete before it, and
a reader of the tokens that refuses one of those never learns of it.
-/

namespace CastLaunch.Yaml

inductive Token where
  | documentStart
  | documentEnd
  | blockSequenceStart
  | blockMappingStart
  | blockEnd
  | flowSequenceStart
  | flowSequenceEnd
  | flowMappingStart
  | flowMappingEnd
  | blockEntry
  | flowEntry
  | key
  | value
  | scalar (text : String) (isPlain : Bool)
  /-- Where reading fails; nothing stands behind it. -/
  | fault (e : LoadError)
  deriving DecidableEq, Repr

/-- A token that becomes a key when a colon follows on its line. -/
structure KeyCandidate where
  position : Nat
  required : Bool
  index : Nat
  line : Nat
  column : Nat
  deriving DecidableEq, Repr

structure Scanner where
  cursor : Cursor
  flow : Nat := 0
  /-- The column of the innermost block collection, or -1 outside all. -/
  indent : Int := -1
  indents : List Int := []
  tokens : List Token := []
  keyAllowed : Bool := true
  candidates : List (Nat × KeyCandidate) := []
  deriving Repr

namespace Scanner

def emit (s : Scanner) (t : Token) : Scanner := { s with tokens := s.tokens ++ [t] }

def inFlow (s : Scanner) : Bool := s.flow != 0

def column (s : Scanner) : Nat := s.cursor.column

/-- Closes the block collections that are indented deeper than the column. -/
def unwind (s : Scanner) (column : Int) : Scanner :=
  if s.inFlow then s else go s.indents s
where
  go : List Int → Scanner → Scanner
    | [], s => if column < s.indent then { s with indent := -1 }.emit .blockEnd else s
    | outer :: more, s =>
      if column < s.indent then go more ({ s with indent := outer, indents := more }.emit .blockEnd) else s

def deepen (s : Scanner) (column : Nat) (position : Nat) (t : Token) : Scanner :=
  if s.indent < column then
    { s with indents := s.indent :: s.indents, indent := column,
             tokens := s.tokens.take position ++ t :: s.tokens.drop position }
  else s

/-- Drops the candidate of this level; one that had to be a key must not be dropped. -/
def dropCandidate (s : Scanner) : Option Scanner :=
  match s.candidates.lookup s.flow with
  | none => some s
  | some k => if k.required then none else some { s with candidates := s.candidates.filter (·.1 != s.flow) }

/-- Whether a candidate lies in another line or too far back. -/
def isStale (s : Scanner) (k : KeyCandidate) : Bool :=
  k.line != s.cursor.line || decide (k.index + 1024 < s.cursor.index)

def dropStale (s : Scanner) : Option Scanner :=
  if s.candidates.any fun k => s.isStale k.2 && k.2.required then none
  else some { s with candidates := s.candidates.filter fun k => !s.isStale k.2 }

/-- The tokens that can be given out without reading on: those before the first candidate. -/
def settled (s : Scanner) : List Token :=
  let waiting := (s.candidates.filter fun k => !s.isStale k.2).map fun k => k.2.position
  s.tokens.take (waiting.foldl min s.tokens.length)

def saveCandidate (s : Scanner) : Option Scanner :=
  if s.keyAllowed then do
    let s ← s.dropCandidate
    let k : KeyCandidate :=
      { position := s.tokens.length, required := !s.inFlow && decide (s.indent = s.column),
        index := s.cursor.index, line := s.cursor.line, column := s.column }
    return { s with candidates := (s.flow, k) :: s.candidates }
  else some s

def approach : Nat → Scanner → Scanner
  | 0, s => s
  | fuel + 1, s =>
    let c := s.cursor.skipWhile (· == ' ')
    let c := if c.rest.head? == some '#' then c.skipWhile (fun ch => !isBreak ch) else c
    match c.lineBreak with
    | some (_, c) => approach fuel { s with cursor := c, keyAllowed := s.keyAllowed || !s.inFlow }
    | none => { s with cursor := c }

def indicator (s : Scanner) (n : Nat) (t : Token) : Scanner :=
  { s with cursor := s.cursor.skip n }.emit t

/-- A document marker closes everything before it. -/
def marker (s : Scanner) (t : Token) : Option Scanner := do
  let s ← (s.unwind (-1)).dropCandidate
  return { s with keyAllowed := false }.indicator 3 t

def openBracket (s : Scanner) (t : Token) : Option Scanner := do
  let s ← s.saveCandidate
  return { s with flow := s.flow + 1, keyAllowed := true }.indicator 1 t

def closeBracket (s : Scanner) (t : Token) : Option Scanner := do
  let s ← s.dropCandidate
  if s.flow = 0 then none
  else return { s with flow := s.flow - 1, keyAllowed := false }.indicator 1 t

def comma (s : Scanner) : Option Scanner := do
  let s ← s.dropCandidate
  return { s with keyAllowed := true }.indicator 1 .flowEntry

def dash (s : Scanner) : Option Scanner := do
  if !s.inFlow && !s.keyAllowed then none
  else
    let s := if s.inFlow then s else s.deepen s.column s.tokens.length .blockSequenceStart
    let s ← s.dropCandidate
    return { s with keyAllowed := true }.indicator 1 .blockEntry

def question (s : Scanner) : Option Scanner := do
  if !s.inFlow && !s.keyAllowed then none
  else
    let s := if s.inFlow then s else s.deepen s.column s.tokens.length .blockMappingStart
    let s ← s.dropCandidate
    return { s with keyAllowed := !s.inFlow }.indicator 1 .key

def colon (s : Scanner) : Option Scanner :=
  match s.candidates.lookup s.flow with
  | some k =>
    let s := { s with candidates := s.candidates.filter (·.1 != s.flow),
                      tokens := s.tokens.take k.position ++ Token.key :: s.tokens.drop k.position }
    let s := if s.inFlow then s else s.deepen k.column k.position .blockMappingStart
    some ({ s with keyAllowed := false }.indicator 1 .value)
  | none => do
    if !s.inFlow && !s.keyAllowed then none
    else
      let s := if s.inFlow then s else s.deepen s.column s.tokens.length .blockMappingStart
      let s ← { s with keyAllowed := !s.inFlow }.dropCandidate
      return s.indicator 1 .value

def quotedToken (s : Scanner) : Except LoadError Scanner := do
  let s ← expected s.saveCandidate
  let (text, c) ← quotedScalar s.cursor
  return { s with cursor := c, keyAllowed := false }.emit (.scalar text false)

def plainToken (s : Scanner) : Option Scanner := do
  let s ← s.saveCandidate
  let (text, c, passed) := plainScalar s.inFlow (s.indent + 1) s.cursor
  return { s with cursor := c, keyAllowed := passed }.emit (.scalar text true)

def token (s : Scanner) : Except LoadError Scanner :=
  match s.cursor.rest with
  | [] => .error .malformed
  | ch :: r =>
    if s.column = 0 ∧ ch = '-' ∧ atMarker (ch :: r) then expected (s.marker .documentStart)
    else if s.column = 0 ∧ ch = '.' ∧ atMarker (ch :: r) then expected (s.marker .documentEnd)
    else if s.column = 0 ∧ ch = '%' then .error .malformed
    else
      match ch with
      | '[' => expected (s.openBracket .flowSequenceStart)
      | '\x7b' => expected (s.openBracket .flowMappingStart)
      | ']' => expected (s.closeBracket .flowSequenceEnd)
      | '\x7d' => expected (s.closeBracket .flowMappingEnd)
      | ',' => expected s.comma
      | '"' => s.quotedToken
      | '\x27' => s.quotedToken
      | _ =>
        if ch = '-' ∧ endsToken r then expected s.dash
        else if ch = '?' ∧ (s.inFlow ∨ endsToken r) then expected s.question
        else if ch = ':' ∧ (s.inFlow ∨ endsToken r) then expected s.colon
        else if startsPlain s.inFlow (ch :: r) then expected s.plainToken
        else .error .malformed

def atToken (s : Scanner) : Except LoadError Scanner := do
  let s := s.approach (s.cursor.rest.length + 1)
  let s ← expected s.dropStale
  return s.unwind s.column

def close (s : Scanner) : Except LoadError (List Token) := do
  return (← expected (s.unwind (-1)).dropCandidate).tokens

def run : Nat → Scanner → List Token
  | 0, s => s.settled ++ [.fault .malformed]
  | fuel + 1, s =>
    let failed := fun e => s.settled ++ [Token.fault e]
    match s.atToken with
    | .error e => failed e
    | .ok t =>
      if t.cursor.rest = [] then
        match t.close with
        | .ok tokens => tokens
        | .error e => failed e
      else
        match t.token with
        | .ok t => run fuel t
        | .error e => failed e

end Scanner

def isAllowed (c : Char) : Bool :=
  let n := c.toNat
  n == 9 || n == 10 || n == 13 || (decide (32 ≤ n) && decide (n ≤ 126)) || n == 133 ||
    (decide (160 ≤ n) && decide (n ≤ 0xfffd) && n != 0xfffe) || decide (0x10000 ≤ n)

/-- The tokens of a text, up to its first fault. -/
def tokens (text : List Char) : List Token :=
  if text.all isAllowed then
    let c : Cursor := { rest := text }
    let c := if text.head? == some byteOrderMark then c.next else c
    Scanner.run (text.length + 2) { cursor := c }
  else [.fault .malformed]

end CastLaunch.Yaml
