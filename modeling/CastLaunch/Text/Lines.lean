/-!
Line ends of text files.  A carriage return, alone or before a line feed, counts
as a line feed, so later readers see line feeds only.
-/

namespace CastLaunch.Text

/-- The characters with every line end written as one line feed. -/
def unifyBreaks : List Char → List Char
  | [] => []
  | '\r' :: '\n' :: r => '\n' :: unifyBreaks r
  | '\r' :: r => '\n' :: unifyBreaks r
  | c :: r => c :: unifyBreaks r

theorem unifyBreaks_of_not_mem {s : List Char} (h : '\r' ∉ s) : unifyBreaks s = s := by
  fun_induction unifyBreaks s with
  | case1 => rfl
  | case2 r _ => simp at h
  | case3 r _ _ => simp at h
  | case4 c r _ _ ih => rw [ih (fun m => h (List.mem_cons_of_mem _ m))]

end CastLaunch.Text
