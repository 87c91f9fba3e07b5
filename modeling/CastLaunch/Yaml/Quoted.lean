import CastLaunch.Text.CodePoints
import CastLaunch.Yaml.Cursor
import CastLaunch.Yaml.LoadError

/-!
Quoted scalars.  Between single quotes a doubled quote stands for one; between
double quotes a backslash begins an escape.  Inside both, a line end with the
blanks around it counts as one space, and further line ends are kept.  A scalar is
read as code points first, because two escapes can name the halves of one character.
-/

namespace CastLaunch.Yaml
open CastLaunch.Text

def simpleEscapes : List (Char × Char) :=
  [('0', '\x00'), ('a', '\x07'), ('b', '\x08'), ('t', '\x09'), ('\t', '\x09'), ('n', '\n'),
   ('v', '\x0b'), ('f', '\x0c'), ('r', '\r'), ('e', '\x1b'), (' ', ' '), ('"', '"'), ('\\', '\\'),
   ('/', '/'), ('N', '\x85'), ('_', '\xa0'), ('L', '\u2028'), ('P', '\u2029')]

def numericEscapes : List (Char × Nat) := [('x', 2), ('u', 4), ('U', 8)]

/-- Line ends after the first one of a folded break, with the blanks between them left out. -/
def foldedBreaks : Nat → Cursor → Option (List Char × Cursor)
  | 0, _ => none
  | fuel + 1, c =>
    if atMarker c.rest then none
    else
      let c := c.skipWhile fun ch => ch == ' ' || ch == '\t'
      match c.lineBreak with
      | none => some ([], c)
      | some (b, c) => (foldedBreaks fuel c).map fun r => (b :: r.1, r.2)

def folded (first : Char) (more : List Char) : List Char :=
  if first ≠ '\n' then first :: more else if more = [] then [' '] else more

def escapeAt (fuel : Nat) (c : Cursor) : Except LoadError (List Nat × Cursor) :=
  match c.rest with
  | [] => .error .malformed
  | ch :: r =>
    match simpleEscapes.lookup ch with
    | some d => .ok ([d.toNat], c.next)
    | none =>
      match numericEscapes.lookup ch with
      | some n =>
        if (r.take n).length = n then
          match ofDigits? 16 (r.take n) with
          | some code =>
            if code < 0x110000 then .ok ([code], c.skip (n + 1)) else .error (.noCharacter code)
          | none => .error .malformed
        else .error .malformed
      | none =>
        match c.lineBreak with
        | some (_, c) => (expected (foldedBreaks fuel c)).map fun t => (t.1.map Char.toNat, t.2)
        | none => .error .malformed

def quotedBody (double : Bool) : Nat → Cursor → Except LoadError (List Nat × Cursor)
  | 0, _ => .error .malformed
  | fuel + 1, c =>
    match c.rest with
    | [] => .error .malformed
    | ch :: r =>
      if ch == '"' && double then .ok ([], c.next)
      else if ch == '\x27' && !double then
        if r.head? == some '\x27' then
          (quotedBody double fuel (c.skip 2)).map fun t => (ch.toNat :: t.1, t.2)
        else .ok ([], c.next)
      else if ch == '\\' && double then do
        let (t, c) ← escapeAt fuel c.next
        (quotedBody double fuel c).map fun u => (t ++ u.1, u.2)
      else if ch == ' ' || ch == '\t' || isBreak ch then
        let after := c.skipWhile fun b => b == ' ' || b == '\t'
        match after.lineBreak with
        | some (b, after) => do
          let (more, after) ← expected (foldedBreaks fuel after)
          (quotedBody double fuel after).map fun t => ((folded b more).map Char.toNat ++ t.1, t.2)
        | none =>
          let blanks := c.rest.takeWhile fun b => b == ' ' || b == '\t'
          (quotedBody double fuel after).map fun t => (blanks.map Char.toNat ++ t.1, t.2)
      else (quotedBody double fuel c.next).map fun t => (ch.toNat :: t.1, t.2)

def quotedScalar (c : Cursor) : Except LoadError (String × Cursor) :=
  let double := c.rest.head? == some '"'
  (quotedBody double (c.rest.length + 1) c.next).map fun t => (String.ofList (ofCodePoints t.1), t.2)

end CastLaunch.Yaml
