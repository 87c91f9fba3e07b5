import CastLaunch.Text.Blank
import Mathlib.Data.List.TakeWhile

/-!
Trimming.  It leaves nothing exactly of a text of blanks, and of a text without any it
leaves everything, whatever blanks stand around it.
-/

namespace CastLaunch.Text

theorem dropEnd_eq_nil_iff {p : Char → Bool} {s : List Char} : dropEnd p s = [] ↔ ∀ c ∈ s, p c = true := by
  rw [dropEnd, List.reverse_eq_nil_iff, List.dropWhile_eq_nil_iff]
  simp only [List.mem_reverse]

/-- What is left of a text without its final marks is the text up to them. -/
theorem dropEnd_eq_iff {mark : Char} {s r : List Char} :
    dropEnd (· == mark) s = r ↔ (∃ n, s = r ++ List.replicate n mark) ∧ r.getLast? ≠ some mark := by
  constructor
  · rintro rfl
    constructor
    · have marks := List.eq_replicate_of_mem (l := (s.reverse.takeWhile (· == mark)).reverse) (a := mark)
        fun c member => by simpa using List.mem_takeWhile_imp (List.mem_reverse.mp member)
      refine ⟨(s.reverse.takeWhile (· == mark)).reverse.length, ?_⟩
      calc s = (s.reverse.takeWhile (· == mark) ++ s.reverse.dropWhile (· == mark)).reverse := by
            rw [List.takeWhile_append_dropWhile, List.reverse_reverse]
        _ = dropEnd (· == mark) s ++ (s.reverse.takeWhile (· == mark)).reverse := by rw [List.reverse_append, dropEnd]
        _ = _ := congrArg (dropEnd (· == mark) s ++ ·) marks
    · rw [dropEnd, List.getLast?_reverse]
      intro first
      have other := List.head?_dropWhile_not (· == mark) s.reverse
      rw [first] at other
      simp at other
  · rintro ⟨⟨n, rfl⟩, last⟩
    rw [dropEnd, List.reverse_append, List.reverse_replicate, List.dropWhile_append_of_pos (by simp)]
    rw [← List.head?_reverse] at last
    have kept : r.reverse.dropWhile (· == mark) = r.reverse := by
      cases turned : r.reverse with
      | nil => rfl
      | cons c rest =>
        rw [turned] at last
        exact List.dropWhile_cons_of_neg (by simpa using last)
    rw [kept, List.reverse_reverse]

theorem trim_eq_nil_iff {s : List Char} : trim s = [] ↔ ∀ c ∈ s, isBlank c = true := by
  rw [trim, dropEnd_eq_nil_iff]
  induction s with
  | nil => rfl
  | cons c r ih =>
    rw [trimStart_cons]
    split
    · next blank => rw [ih, List.forall_mem_cons, and_iff_right blank]
    · rfl

theorem dropWhile_append_of_visible {s : List Char} (given : s ≠ []) (visible : ∀ c ∈ s, isBlank c = false)
    (r : List Char) : (s ++ r).dropWhile isBlank = s ++ r := by
  obtain ⟨c, s, rfl⟩ := List.exists_cons_of_ne_nil given
  simp [visible c List.mem_cons_self]

theorem trim_between {front body back : List Char} (before : ∀ c ∈ front, isBlank c = true)
    (behind : ∀ c ∈ back, isBlank c = true) (visible : ∀ c ∈ body, isBlank c = false) :
    trim (front ++ body ++ back) = body := by
  by_cases given : body = []
  · rw [given, trim_eq_nil_iff]
    simp only [List.append_nil, List.mem_append]
    exact fun c member => member.elim (before c) (behind c)
  · have start : trimStart (front ++ body ++ back) = body ++ back := by
      rw [trimStart, List.append_assoc, List.dropWhile_append_of_pos before, dropWhile_append_of_visible given visible]
    have turned : body.reverse.dropWhile isBlank = body.reverse := by
      simpa using dropWhile_append_of_visible (s := body.reverse) (by simpa using given) (by simpa using visible) []
    rw [trim, start, dropEnd, List.reverse_append, List.dropWhile_append_of_pos (by simpa using behind), turned,
      List.reverse_reverse]

end CastLaunch.Text
