import CastLaunch.Yaml.Cursor

/-!
Unquoted scalars.  A scalar runs up to a colon before a blank, a comment, or the
end of the line; inside brackets also up to the characters that structure them.
It goes on in the following lines as long as they are indented deeper than the
structure around it.
-/

namespace CastLaunch.Yaml

/-- Whether an unquoted scalar ends before `ch` with `r` behind it. -/
def stopsPlain (inFlow : Bool) (ch : Char) (r : List Char) : Bool :=
  ch == ' ' || ch == '\t' || isBreak ch ||
    (ch == ':' &&
      (endsToken r || (inFlow && r.head?.any fun d => [',', '[', ']', '\x7b', '\x7d'].contains d))) ||
    (inFlow && [',', '?', '[', ']', '\x7b', '\x7d'].contains ch)

def plainWord (inFlow : Bool) : List Char → List Char
  | [] => []
  | ch :: r => if stopsPlain inFlow ch r then [] else ch :: plainWord inFlow r

def startsPlain (inFlow : Bool) (s : List Char) : Bool :=
  match s with
  | [] => false
  | ch :: r =>
    let special := ['-', '?', ':', ',', '[', ']', '\x7b', '\x7d', '#', '&', '*', '!', '|', '>',
      '\x27', '"', '%', '@', Char.ofNat 96]
    (!endsToken s && !special.contains ch) ||
      (!endsToken r && (ch == '-' || (!inFlow && (ch == '?' || ch == ':'))))

/-- The blank lines and indentation after a line end; none when a document marker follows. -/
def plainBreaks : Nat → Cursor → Option (List Char × Cursor)
  | 0, _ => none
  | fuel + 1, c =>
    match c.rest with
    | ' ' :: _ => plainBreaks fuel c.next
    | _ =>
      match c.lineBreak with
      | none => some ([], c)
      | some (b, c) => if atMarker c.rest then none else (plainBreaks fuel c).map fun r => (b :: r.1, r.2)

/-- What stands between two words: the spaces or folded line ends, the place behind them, and whether
a line end was among them.  No text means that the scalar is over. -/
def plainGap (c : Cursor) : List Char × Cursor × Bool :=
  let blanks := c.rest.takeWhile (· == ' ')
  let after := c.skip blanks.length
  match after.lineBreak with
  | none => (blanks, after, false)
  | some (b, next) =>
    if atMarker next.rest then ([], next, true)
    else
      match plainBreaks (next.rest.length + 1) next with
      | none => ([], next.skipWhile (fun ch => ch == ' ' || isBreak ch), true)
      | some (more, last) =>
        (if b ≠ '\n' then b :: more else if more = [] then [' '] else more, last, true)

/-- The words of an unquoted scalar from here on, the place behind them, and whether a line end was
passed after the last word. -/
def plainWords (inFlow : Bool) (indent : Int) : Nat → Cursor → List Char × Cursor × Bool
  | 0, c => ([], c, false)
  | fuel + 1, c =>
    if c.rest.head? == some '#' then ([], c, false)
    else
      let word := plainWord inFlow c.rest
      if word = [] then ([], c, false)
      else
        let (gap, after, passed) := plainGap (c.skip word.length)
        if gap = [] ∨ after.rest.head? = some '#' ∨ (inFlow = false ∧ (after.column : Int) < indent) then
          (word, after, passed)
        else
          let (more, last, again) := plainWords inFlow indent fuel after
          if more = [] then (word, last, passed)
          else (word ++ gap ++ more, last, again)

def plainScalar (inFlow : Bool) (indent : Int) (c : Cursor) : String × Cursor × Bool :=
  let (text, after, passed) := plainWords inFlow indent (c.rest.length + 1) c
  (String.ofList text, after, passed)

end CastLaunch.Yaml
