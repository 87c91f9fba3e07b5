import CastLaunch.Proofs.Configuration.Written

/-!
Which texts spell a geometry.  Width and height are numerals of one to four digits around an `x`, neither of them zero,
and behind an at sign may stand a refresh rate of one to three digits between 1 and 255.  No numeral holds an `x` or an
at sign, so the first of each is where the text is cut, and whatever is cut in another way is refused as it stands.
-/

namespace CastLaunch
open CastLaunch.Text

theorem splitAtFirst_cases (c : Char) (s : List Char) :
    c ∉ s ∧ splitAtFirst c s = (s, none) ∨ ∃ early r, s = early ++ c :: r ∧ splitAtFirst c s = (early, some r) := by
  by_cases member : c ∈ s
  · obtain ⟨early, r, rfl, absent⟩ := List.eq_append_cons_of_mem member
    exact .inr ⟨early, r, rfl, splitAtFirst_append absent⟩
  · exact .inl ⟨member, splitAtFirst_of_not_mem member⟩

namespace Geometry

/-- Two extents around an `x`, with an at sign and a refresh rate behind them when the geometry names one. -/
inductive Spelled : List Char → Geometry → Prop
  | extents {w h : List Char} {width height : Nat} (wide : extent? w = some width) (high : extent? h = some height) :
      Spelled (w ++ 'x' :: h) ⟨width, height, none⟩
  | rated {w h r : List Char} {width height rate : Nat} (wide : extent? w = some width)
      (high : extent? h = some height) (fast : refresh? r = some rate) :
      Spelled (w ++ 'x' :: (h ++ '@' :: r)) ⟨width, height, some rate⟩

variable {s : List Char} {g : Geometry}

theorem not_mem_of_extent? {c : Char} {n : Nat} (other : isAsciiDigit c = false) (read : extent? s = some n) :
    c ∉ s := by
  obtain ⟨⟨-, -, digits⟩, -⟩ := unsigned?_eq_some_iff.mp (Option.filter_eq_some_iff.mp read).1
  intro member
  rw [List.all_eq_true.mp digits c member] at other
  cases other

theorem Spelled.read? (spelled : Spelled s g) : read? s = some g := by
  cases spelled with
  | extents wide high =>
    have noX := not_mem_of_extent? (c := 'x') (by decide) wide
    have noAt := not_mem_of_extent? (c := '@') (by decide) high
    simp [Geometry.read?, splitAtFirst_append noX, splitAtFirst_of_not_mem noAt, wide, high]
  | rated wide high fast =>
    have noX := not_mem_of_extent? (c := 'x') (by decide) wide
    have noAt := not_mem_of_extent? (c := '@') (by decide) high
    simp [Geometry.read?, splitAtFirst_append noX, splitAtFirst_append noAt, wide, high, fast]

theorem read?_eq_some_iff : read? s = some g ↔ Spelled s g := by
  refine ⟨fun read => ?_, Spelled.read?⟩
  simp only [Geometry.read?, Option.bind_eq_bind, Option.bind_eq_some_iff] at read
  obtain ⟨rest, behind, width, wide, height, high, last⟩ := read
  rcases splitAtFirst_cases 'x' s with ⟨-, split⟩ | ⟨w, r, rfl, split⟩
  · rw [split] at behind
    cases behind
  rw [split] at behind wide
  cases behind
  rcases splitAtFirst_cases '@' rest with ⟨-, split⟩ | ⟨h, r, rfl, split⟩
  · rw [split] at high last
    cases last
    exact .extents wide high
  · rw [split] at high last
    obtain ⟨rate, fast, same⟩ := Option.bind_eq_some_iff.mp last
    cases same
    exact .rated wide high fast

/-- The refresh rate is set exactly by an at sign. -/
theorem Spelled.refresh_iff (spelled : Spelled s g) : g.refresh ≠ none ↔ '@' ∈ s := by
  cases spelled with
  | extents wide high =>
    have early := not_mem_of_extent? (c := '@') (by decide) wide
    have late := not_mem_of_extent? (c := '@') (by decide) high
    simp [early, late]
  | rated => simp

/-! The numerals behind the two readers. -/

def IsExtent (s : List Char) (n : Nat) : Prop := Numeral 4 s n ∧ n ≠ 0

def IsRate (s : List Char) (n : Nat) : Prop := Numeral 3 s n ∧ 1 ≤ n ∧ n ≤ 255

theorem extent?_eq_some_iff {n : Nat} : extent? s = some n ↔ IsExtent s n := by
  rw [extent?, Option.filter_eq_some_iff, unsigned?_eq_some_iff_numeral, bne_iff_ne]
  rfl

theorem refresh?_eq_some_iff {n : Nat} : refresh? s = some n ↔ IsRate s n := by
  rw [refresh?, Option.filter_eq_some_iff, unsigned?_eq_some_iff_numeral, Bool.and_eq_true, bne_iff_ne,
    decide_eq_true_eq]
  exact and_congr_right fun _ => and_congr_left fun _ => Nat.one_le_iff_ne_zero.symm

/-- Two extents around an `x`, and the rate behind an at sign or else the given one. -/
inductive Denotes (given : Int) : List Char → Nat → Nat → Int → Prop
  | extents {w h : List Char} {width height : Nat} (wide : IsExtent w width) (high : IsExtent h height) :
      Denotes given (w ++ 'x' :: h) width height given
  | rated {w h r : List Char} {width height rate : Nat} (wide : IsExtent w width) (high : IsExtent h height)
      (fast : IsRate r rate) : Denotes given (w ++ 'x' :: (h ++ '@' :: r)) width height rate

/-- Width, height and refresh rate, the given rate when the geometry names none. -/
def dimensions (given : Int) (g : Geometry) : Nat × Nat × Int := (g.width, g.height, g.refreshOr given)

theorem Spelled.denotes (spelled : Spelled s g) (given : Int) :
    Denotes given s g.width g.height (g.refreshOr given) := by
  cases spelled with
  | extents wide high => exact .extents (extent?_eq_some_iff.mp wide) (extent?_eq_some_iff.mp high)
  | rated wide high fast =>
    exact .rated (extent?_eq_some_iff.mp wide) (extent?_eq_some_iff.mp high) (refresh?_eq_some_iff.mp fast)

theorem Denotes.spelled {given r : Int} {w h : Nat} (denotes : Denotes given s w h r) :
    ∃ g, Spelled s g ∧ g.dimensions given = (w, h, r) := by
  cases denotes with
  | extents wide high => exact ⟨_, .extents (extent?_eq_some_iff.mpr wide) (extent?_eq_some_iff.mpr high), rfl⟩
  | rated wide high fast =>
    exact ⟨_, .rated (extent?_eq_some_iff.mpr wide) (extent?_eq_some_iff.mpr high) (refresh?_eq_some_iff.mpr fast), rfl⟩

theorem denotes_iff {given r : Int} {w h : Nat} :
    Denotes given s w h r ↔ ∃ g, read? s = some g ∧ g.dimensions given = (w, h, r) := by
  constructor
  · intro denotes
    obtain ⟨g, spelled, same⟩ := denotes.spelled
    exact ⟨g, spelled.read?, same⟩
  · rintro ⟨g, read, same⟩
    cases same
    exact (read?_eq_some_iff.mp read).denotes given

/-- A text is read exactly when it denotes a geometry, with the numbers that it denotes; every other text is refused
under the flag as it stands.  What is written of numbers within the bounds denotes them again. -/
theorem parse_reads_denoted (flag s : String) (given : Int) :
    (∀ w h r, (parse flag s).map (dimensions given) = .ok (w, h, r) ↔ Denotes given s.toList w h r) ∧
      (parse flag s = .error ⟨flag, s, .geometry flag⟩ ↔ ¬∃ w h r, Denotes given s.toList w h r) ∧
      ∀ w h r : Nat, 1 ≤ w ∧ w ≤ 9999 → 1 ≤ h ∧ h ≤ 9999 → 1 ≤ r ∧ r ≤ 255 →
        (parse flag (written ⟨w, h, some r⟩)).map (dimensions given) = .ok (w, h, (r : Int)) := by
  refine ⟨fun w h r => ?_, ?_, fun w h r wide high fast => ?_⟩
  · rw [denotes_iff, parse]
    cases read? s.toList with
    | none => simp [Except.map]
    | some g => simp [Except.map]
  · simp only [denotes_iff, parse]
    cases read : read? s.toList with
    | none => simp
    | some g => simp [dimensions]
  · have expressible : Expressible ⟨w, h, some r⟩ :=
      { width := wide
        height := high
        refresh := fun _ named => Option.some.inj named ▸ fast }
    rw [parse, read?_written expressible]
    rfl

/-- A second `x` is no digit of the height. -/
example : parse "-s" "16x9x9" = .error ⟨"-s", "16x9x9", .geometry "-s"⟩ := by decide

end Geometry

end CastLaunch
