/-!
White space and trimming.  A blank is a character with the Unicode property
`White_Space`, or one of the four information separators U+001C to U+001F.
Trimming takes blanks from both ends and leaves inner ones alone.
-/

namespace CastLaunch.Text

/-- First and last code point of every run of blanks. -/
def blankRuns : List (Nat × Nat) :=
  [(9, 13), (28, 32), (133, 133), (160, 160), (5760, 5760), (8192, 8202), (8232, 8233),
   (8239, 8239), (8287, 8287), (12288, 12288)]

def isBlank (c : Char) : Bool :=
  blankRuns.any fun r => decide (r.1 ≤ c.toNat) && decide (c.toNat ≤ r.2)

def trimStart (s : List Char) : List Char := s.dropWhile isBlank

def dropEnd (p : Char → Bool) (s : List Char) : List Char := (s.reverse.dropWhile p).reverse

def trim (s : List Char) : List Char := dropEnd isBlank (trimStart s)

/-- Whether the text holds nothing but blanks; the empty text does. -/
def allBlank (s : String) : Bool := s.toList.all isBlank

@[simp] theorem trimStart_nil : trimStart [] = [] := rfl

theorem trimStart_cons (c : Char) (s : List Char) :
    trimStart (c :: s) = if isBlank c then trimStart s else c :: s := by
  simp only [trimStart, List.dropWhile_cons]

end CastLaunch.Text
