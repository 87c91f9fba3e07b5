import CastLaunch.Text.Printable
import CastLaunch.Text.Numeral

/-!
Quoted text for diagnostics.  A text stands between single quotes, or between
double quotes when it holds a single quote and no double one.  The backslash and
the surrounding quote are escaped, line feed, carriage return and tab have their
letters, and characters that are not printable are written by number with two,
four or eight hexadecimal digits.
-/

namespace CastLaunch.Text.Quoted

def singleMark : Char := Char.ofNat 39
def doubleMark : Char := Char.ofNat 34

def mark (s : List Char) : Char :=
  if s.contains singleMark && !s.contains doubleMark then doubleMark else singleMark

def escape (q c : Char) : List Char :=
  if c = q ∨ c = '\\' then ['\\', c]
  else if c = '\n' then ['\\', 'n']
  else if c = '\r' then ['\\', 'r']
  else if c = '\t' then ['\\', 't']
  else if isPrintable c then [c]
  else if c.toNat < 256 then '\\' :: 'x' :: hexPadded 2 c.toNat
  else if c.toNat < 65536 then '\\' :: 'u' :: hexPadded 4 c.toNat
  else '\\' :: 'U' :: hexPadded 8 c.toNat

def encode (s : List Char) : List Char :=
  mark s :: s.flatMap (escape (mark s)) ++ [mark s]

end CastLaunch.Text.Quoted

namespace CastLaunch.Text

def quoted (s : String) : String := String.ofList (Quoted.encode s.toList)

end CastLaunch.Text
