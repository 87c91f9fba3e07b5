import CastLaunch.ConfigError
import CastLaunch.Text.Quoted

/-!
Picture orientation: one flip and one quarter turn, each chosen by a letter.
`H`, `V` and `I` are flips, `L` and `R` are turns; a letter of the other kind is
refused where one kind is wanted.
-/

namespace CastLaunch
open CastLaunch.Text

inductive Flip where
  | none
  | horizontal
  | vertical
  | both
  deriving DecidableEq, Repr

inductive Turn where
  | none
  | left
  | right
  deriving DecidableEq, Repr

inductive Orientation where
  | flip (f : Flip)
  | turn (t : Turn)
  deriving DecidableEq, Repr

/-- How a flip is written; the absent one has a word instead of a letter. -/
def Flip.letter : Flip → String
  | .none => "none"
  | .horizontal => "H"
  | .vertical => "V"
  | .both => "I"

def Turn.letter : Turn → String
  | .none => "none"
  | .left => "L"
  | .right => "R"

def Orientation.letter : Orientation → String
  | .flip f => f.letter
  | .turn t => t.letter

def Flip.ofLetter? (s : String) : Option Flip :=
  [Flip.none, .horizontal, .vertical, .both].find? (·.letter == s)

def Turn.ofLetter? (s : String) : Option Turn :=
  [Turn.none, .left, .right].find? (·.letter == s)

def Orientation.ofChar? : Char → Option Orientation
  | 'H' => some (.flip .horizontal)
  | 'V' => some (.flip .vertical)
  | 'I' => some (.flip .both)
  | 'L' => some (.turn .left)
  | 'R' => some (.turn .right)
  | _ => none

def Orientation.ofToken? (token : String) : Option Orientation :=
  match token.toList with
  | [c] => ofChar? c
  | _ => none

def Orientation.parse (flag token : String) : Except ConfigError Orientation :=
  match ofToken? token with
  | some o => .ok o
  | none => .error ⟨flag, token, .orientation⟩

def Flip.parse (flag token : String) : Except ConfigError Flip :=
  match Orientation.ofToken? token with
  | some (.flip f) => .ok f
  | _ => .error ⟨flag, token, .flip⟩

def Turn.parse (flag token : String) : Except ConfigError Turn :=
  match Orientation.ofToken? token with
  | some (.turn t) => .ok t
  | _ => .error ⟨flag, token, .rotation⟩

theorem Flip.ofLetter?_letter (f : Flip) : Flip.ofLetter? f.letter = some f := by
  cases f <;> decide

theorem Turn.ofLetter?_letter (t : Turn) : Turn.ofLetter? t.letter = some t := by
  cases t <;> decide

theorem Orientation.ofToken?_letter_flip {f : Flip} (h : f ≠ .none) :
    Orientation.ofToken? f.letter = some (.flip f) := by
  cases f <;> first | exact absurd rfl h | decide

end CastLaunch
