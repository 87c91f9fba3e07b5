import CastLaunch.Proofs.Text.Trim
import CastLaunch.Proofs.Text.Utf8
import CastLaunch.Provision

/-!
What the interface files can do to a run.  Files that cannot be read and files of blanks
are passed over, and the first other file decides.  When its bytes are a text there is an
answer, well-formed or not; when they are none, the fault of decoding is the answer of the
search and of the whole choice.
-/

namespace CastLaunch
open CastLaunch.Text

namespace Text

theorem blank_unifyBreaks_iff {s : List Char} :
    (∀ c ∈ unifyBreaks s, isBlank c = true) ↔ ∀ c ∈ s, isBlank c = true := by
  have feed : isBlank '\n' = true := by decide
  have back : isBlank '\r' = true := by decide
  fun_induction unifyBreaks s with
  | case1 => rfl
  | case2 r ih => simp only [List.forall_mem_cons, ih, feed, back, true_and]
  | case3 r _ ih => simp only [List.forall_mem_cons, ih, feed, back, true_and]
  | case4 c r _ _ ih => simp only [List.forall_mem_cons, ih]

theorem trim_unifyBreaks_eq_nil_iff {s : List Char} : trim (unifyBreaks s) = [] ↔ ∀ c ∈ s, isBlank c = true :=
  trim_eq_nil_iff.trans blank_unifyBreaks_iff

end Text

namespace AddressFile

/-- Whether the file is passed over: it cannot be read, or blanks are all that it holds. -/
def IsPassedOver (f : AddressFile) : Prop :=
  ∀ bytes, f.bytes = some bytes → ∃ content, Utf8.encode content = bytes ∧ ∀ c ∈ content, isBlank c = true

/-- Whether the file can be read and its bytes are no text. -/
def IsGarbled (f : AddressFile) : Prop :=
  ∃ bytes, f.bytes = some bytes ∧ ∀ content, Utf8.encode content ≠ bytes

/-- Whether the file holds a text that is more than blanks. -/
def Speaks (f : AddressFile) : Prop :=
  ∃ content, f.bytes = some (Utf8.encode content) ∧ ¬ ∀ c ∈ content, isBlank c = true

theorem passedOver_or_garbled_or_speaks (f : AddressFile) : f.IsPassedOver ∨ f.IsGarbled ∨ f.Speaks := by
  cases there : f.bytes with
  | none => exact .inl fun bytes same => by rw [there] at same; cases same
  | some bytes =>
    by_cases text : ∃ content, Utf8.encode content = bytes
    · obtain ⟨content, rfl⟩ := text
      by_cases blank : ∀ c ∈ content, isBlank c = true
      · exact .inl fun bytes same => ⟨content, Option.some.inj (there.symm.trans same), blank⟩
      · exact .inr (.inr ⟨content, there, blank⟩)
    · exact .inr (.inl ⟨bytes, there, not_exists.mp text⟩)

theorem IsPassedOver.not_garbled {f : AddressFile} (passed : f.IsPassedOver) : ¬ f.IsGarbled := by
  rintro ⟨bytes, there, none⟩
  obtain ⟨content, encoded, -⟩ := passed bytes there
  exact none content encoded

theorem Speaks.not_garbled {f : AddressFile} (speaks : f.Speaks) : ¬ f.IsGarbled := by
  rintro ⟨bytes, there, none⟩
  obtain ⟨content, text, -⟩ := speaks
  exact none content (Option.some.inj (text.symm.trans there))

theorem Speaks.not_passedOver {f : AddressFile} (speaks : f.Speaks) : ¬ f.IsPassedOver := by
  intro passed
  obtain ⟨content, text, more⟩ := speaks
  obtain ⟨other, encoded, blank⟩ := passed _ text
  exact more (Utf8.encode_injective encoded ▸ blank)

end AddressFile

/-- Whether the first file that is not passed over is garbled. -/
def Garbled (files : List AddressFile) : Prop :=
  ∃ before f after, files = before ++ f :: after ∧ (∀ g ∈ before, g.IsPassedOver) ∧ f.IsGarbled

theorem not_garbled_nil : ¬ Garbled [] := by
  rintro ⟨before, f, after, split, -⟩
  exact List.append_ne_nil_of_right_ne_nil before (List.cons_ne_nil f after) split.symm

theorem garbled_cons_iff {f : AddressFile} {rest : List AddressFile} :
    Garbled (f :: rest) ↔ f.IsGarbled ∨ f.IsPassedOver ∧ Garbled rest := by
  constructor
  · rintro ⟨before, g, after, split, passed, garbled⟩
    cases before with
    | nil =>
      obtain ⟨rfl, rfl⟩ := List.cons.inj split
      exact .inl garbled
    | cons first before =>
      obtain ⟨rfl, rfl⟩ := List.cons.inj split
      obtain ⟨first, later⟩ := List.forall_mem_cons.mp passed
      exact .inr ⟨first, before, g, after, rfl, later, garbled⟩
  · rintro (garbled | ⟨first, before, g, after, rfl, later, garbled⟩)
    · exact ⟨[], f, rest, rfl, List.forall_mem_nil _, garbled⟩
    · exact ⟨f :: before, g, after, rfl, List.forall_mem_cons.mpr ⟨first, later⟩, garbled⟩

namespace DeviceIdentifier
variable {f : AddressFile}

theorem discover_of_passedOver (passed : f.IsPassedOver) (rest : List AddressFile) :
    discover (f :: rest) = discover rest := by
  rw [discover]
  split
  · rfl
  · next bytes there =>
    obtain ⟨content, encoded, blank⟩ := passed bytes there
    rw [Utf8.decode_eq_ok_iff.mpr encoded]
    exact if_pos (by rw [trim_unifyBreaks_eq_nil_iff.mpr blank])

theorem discover_of_garbled (garbled : f.IsGarbled) (rest : List AddressFile) :
    ∃ fault, discover (f :: rest) = .error fault := by
  obtain ⟨bytes, there, none⟩ := garbled
  cases decoded : Utf8.decode bytes with
  | ok content => exact absurd (Utf8.decode_eq_ok_iff.mp decoded) (none content)
  | error fault => exact ⟨fault, by rw [discover, there]; simp only [decoded]⟩

theorem discover_of_speaks (speaks : f.Speaks) (rest : List AddressFile) :
    ∃ found, discover (f :: rest) = .ok found := by
  obtain ⟨content, there, more⟩ := speaks
  have text : String.ofList (trim (unifyBreaks content)) ≠ "" := fun none =>
    more (trim_unifyBreaks_eq_nil_iff.mp (String.ofList_injective none))
  rw [discover, there]
  simp only [Utf8.decode_eq_ok_iff.mpr rfl, text, if_false]
  cases parse (String.ofList (trim (unifyBreaks content))) <;> exact ⟨_, rfl⟩

theorem discover_succeeds_iff (files : List AddressFile) :
    (∃ found, discover files = .ok found) ↔ ¬ Garbled files := by
  induction files with
  | nil => exact iff_of_true ⟨_, rfl⟩ not_garbled_nil
  | cons f rest ih =>
    rw [garbled_cons_iff]
    rcases f.passedOver_or_garbled_or_speaks with passed | garbled | speaks
    · rw [discover_of_passedOver passed, ih, or_iff_right passed.not_garbled, and_iff_right passed]
    · obtain ⟨fault, failed⟩ := discover_of_garbled garbled rest
      refine iff_of_false (fun ⟨found, answer⟩ => ?_) (not_not_intro (.inl garbled))
      cases answer.symm.trans failed
    · exact iff_of_true (discover_of_speaks speaks rest)
        (not_or_intro speaks.not_garbled fun both => speaks.not_passedOver both.1)

end DeviceIdentifier

namespace Provision

/-- The search ends, and the choice gives an identifier of six octets, unless the first file that is
not passed over is garbled; a choice that skips the search always gives one. -/
theorem gives_identifier_iff (randomize : Bool) (files : List AddressFile) (r : RandomSource) :
    ((∃ found, DeviceIdentifier.discover files = .ok found) ↔ ¬ Garbled files) ∧
      ((∃ p, choose randomize files r = .ok p ∧ p.identifier.octets.length = 6 ∧
        ∀ o ∈ p.identifier.octets, o < 256) ↔ randomize = true ∨ ¬ Garbled files) := by
  refine ⟨DeviceIdentifier.discover_succeeds_iff files, ?_⟩
  rw [← DeviceIdentifier.discover_succeeds_iff]
  unfold choose
  cases randomize with
  | true => exact iff_of_true ⟨_, rfl, (random r []).identifier.size, (random r []).identifier.bounded⟩ (.inl rfl)
  | false =>
    cases DeviceIdentifier.discover files with
    | error fault =>
      constructor
      · rintro ⟨p, chosen, -⟩
        cases chosen
      · rintro (asked | ⟨found, answer⟩)
        · cases asked
        · cases answer
    | ok found =>
      refine iff_of_true ?_ (.inr ⟨found, rfl⟩)
      rcases found with ⟨_ | d, records⟩
      · exact ⟨_, rfl, (random r records).identifier.size, (random r records).identifier.bounded⟩
      · exact ⟨_, rfl, d.size, d.bounded⟩

end Provision

end CastLaunch
