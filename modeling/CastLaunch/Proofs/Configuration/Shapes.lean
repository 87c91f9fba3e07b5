import CastLaunch.Proofs.Configuration.Refusals

/-!
Which tables of settings have the wrong shape.  A section that is no table, keys that cannot be walked through and
unknown keys that have no common order are met by operations that were made for other values; whatever else is wrong
with a configuration is found by its checks and reported as invalid.
-/

namespace CastLaunch
open CastLaunch.Text

/-- Whether the error reports an invalid configuration, and is not one of a value of the wrong shape. -/
def SettingsError.isInvalid : SettingsError → Bool
  | .shape _ => false
  | _ => true

namespace Value

/-- Values that can be put in order with each other. -/
inductive Family where
  | texts
  | days
  | numbers
  deriving DecidableEq, Repr

def family? : Value → Option Family
  | text _ => some .texts
  | date _ => some .days
  | bool _ | int _ | float _ => some .numbers
  | null | list _ | table _ => none

def Ordered (a b : Value) : Prop := ∃ f, a.family? = some f ∧ b.family? = some f

theorem magnitude?_isSome_iff {v : Value} : v.magnitude?.isSome = true ↔ v.family? = some .numbers := by
  cases v with
  | float x =>
    rw [magnitude?]
    cases Decimal.parts x <;> simp [family?]
  | _ => simp [magnitude?, family?]

theorem family?_eq_texts {v : Value} (h : v.family? = some .texts) : ∃ s, v = .text s := by
  cases v <;> simp_all [family?]

theorem family?_eq_days {v : Value} (h : v.family? = some .days) : ∃ d, v = .date d := by
  cases v <;> simp_all [family?]

theorem below?_isSome_iff {a b : Value} : (a.below? b).isSome = true ↔ a.Ordered b := by
  unfold below?
  split
  · exact ⟨fun _ => ⟨.texts, rfl, rfl⟩, fun _ => rfl⟩
  · exact ⟨fun _ => ⟨.days, rfl, rfl⟩, fun _ => rfl⟩
  · next notTexts notDays =>
    have both : a.Ordered b ↔ a.magnitude?.isSome = true ∧ b.magnitude?.isSome = true := by
      rw [magnitude?_isSome_iff, magnitude?_isSome_iff]
      constructor
      · rintro ⟨f, ha, hb⟩
        cases f with
        | texts =>
          obtain ⟨s, rfl⟩ := family?_eq_texts ha
          obtain ⟨t, rfl⟩ := family?_eq_texts hb
          exact absurd rfl (notTexts s t rfl)
        | days =>
          obtain ⟨d, rfl⟩ := family?_eq_days ha
          obtain ⟨e, rfl⟩ := family?_eq_days hb
          exact absurd rfl (notDays d e rfl)
        | numbers => exact ⟨ha, hb⟩
      · exact fun ⟨ha, hb⟩ => ⟨.numbers, ha, hb⟩
    rw [both]
    cases a.magnitude? <;> cases b.magnitude? <;> simp

end Value

namespace Settings

/-- What the value consists of, if it can be walked through. -/
def parts? : Value → Option (List Value)
  | .table entries => some (entries.map (·.1))
  | .text s => some (s.toList.map fun c => .text (String.ofList [c]))
  | .list items => some items
  | _ => none

/-- The keys that no launch section knows. -/
def unknownAmong (keys : List Value) : List Value := distinct (keys.filter fun k => !isLaunchKey k)

/-- What is wrong with the shape of a launch section. -/
inductive LaunchMisshapen : Value → ShapeError → Prop where
  | notIterable {v : Value} (whole : parts? v = none) : LaunchMisshapen v (.notIterable v.typeName)
  | notKey {items : List Value} {item : Value} (member : item ∈ items) (compound : item.isKey = false) :
      LaunchMisshapen (.list items) (.notKey item.typeName)
  | noOrder {v : Value} {keys : List Value} {a b : Value} (walked : parts? v = some keys)
      (both : [a, b].Sublist (unknownAmong keys)) (apart : ¬a.Ordered b) :
      LaunchMisshapen v (.noOrder b.typeName a.typeName)
  | listIndex {items : List Value} (known : ∀ item ∈ items, isLaunchKey item = true) :
      LaunchMisshapen (.list items) .listIndex

theorem incomparable?_eq_none_iff {v : Value} {vs : List Value} :
    incomparable? v vs = none ↔ ∀ w ∈ vs, v.Ordered w := by
  simp [incomparable?, List.find?_eq_none, ← Value.below?_isSome_iff, Option.isSome_iff_ne_none]

/-- Values can be put in order exactly when every two of them can. -/
theorem rising_cases (vs : List Value) :
    (∃ sorted, rising vs = .ok sorted) ∧ vs.Pairwise Value.Ordered ∨
      ∃ a b, [a, b].Sublist vs ∧ ¬a.Ordered b ∧ rising vs = .error (.noOrder b.typeName a.typeName) := by
  induction vs with
  | nil => exact .inl ⟨⟨[], rfl⟩, .nil⟩
  | cons v rest ih =>
    rw [rising]
    cases found : incomparable? v rest with
    | some w =>
      have apart : ¬v.Ordered w := by
        rw [← Value.below?_isSome_iff]
        simpa using List.find?_some found
      have both : [v, w].Sublist (v :: rest) :=
        .cons_cons v (List.singleton_sublist.mpr (List.mem_of_find?_eq_some found))
      exact .inr ⟨v, w, both, apart, rfl⟩
    | none =>
      -- The rest is put in order before the value goes into its place, so its failure comes through.
      have first := incomparable?_eq_none_iff.mp found
      rcases ih with ⟨⟨sorted, made⟩, ordered⟩ | ⟨a, b, both, apart, failed⟩
      · exact .inl ⟨⟨_, by rw [made]; rfl⟩, .cons first ordered⟩
      · exact .inr ⟨a, b, both.cons v, apart, by rw [failed]; rfl⟩

theorem distinct_eq_nil_iff {vs : List Value} : distinct vs = [] ↔ vs = [] := by
  -- The fold never takes away what it has collected.
  have grows : ∀ (rest acc : List Value), acc ≠ [] →
      rest.foldl (fun acc v => if acc.any fun w => w.sameKey v then acc else acc ++ [v]) acc ≠ [] := by
    intro rest
    induction rest with
    | nil => exact fun acc given => given
    | cons v rest ih =>
      intro acc given
      refine ih _ ?_
      dsimp only
      split
      · exact given
      · simp
  cases vs with
  | nil => exact ⟨fun _ => rfl, fun _ => rfl⟩
  | cons v rest => exact ⟨fun same => absurd same (grows rest [v] (by simp)), nofun⟩

theorem unknownAmong_eq_nil_iff {keys : List Value} : unknownAmong keys = [] ↔ ∀ k ∈ keys, isLaunchKey k = true := by
  rw [unknownAmong, distinct_eq_nil_iff, List.filter_eq_nil_iff]
  simp

/-- What the reading of a launch section comes to, one case for each way to end it. -/
inductive LaunchRead : Value → Except SettingsError LaunchConfig → Prop where
  | misshapen {v : Value} {e : ShapeError} (shape : LaunchMisshapen v e) : LaunchRead v (.error (.shape e))
  | unknown {v : Value} {keys : List Value} {e : SettingsError} (walked : parts? v = some keys)
      (hashed : ∀ items, v = .list items → ∀ item ∈ items, item.isKey = true) (present : unknownAmong keys ≠ [])
      (ordered : (unknownAmong keys).Pairwise Value.Ordered) (invalid : e.isInvalid = true) : LaunchRead v (.error e)
  | refused {entries : List (Value × Value)} {g : Given} (known : ∀ e ∈ entries, isLaunchKey e.1 = true)
      (first : firstRefused Given.accepted (given entries) = some g) : LaunchRead (.table entries) (.error g.refusal)
  | accepted {entries : List (Value × Value)} {c : LaunchConfig} (known : ∀ e ∈ entries, isLaunchKey e.1 = true)
      (all : firstRefused Given.accepted (given entries) = none) : LaunchRead (.table entries) (.ok c)

theorem LaunchRead.of_known {entries : List (Value × Value)} (known : ∀ e ∈ entries, isLaunchKey e.1 = true) :
    LaunchRead (.table entries) (launchSection (.table entries)) := by
  have decided := decidedBy_refusal known
  rw [DecidedBy, Decided] at decided
  cases first : firstRefused Given.accepted (given entries) with
  | some g =>
    rw [first] at decided
    rw [decided]
    exact .refused known first
  | none =>
    rw [first] at decided
    obtain ⟨c, made, -⟩ := decided
    rw [made]
    exact .accepted known first

theorem elements_error {v : Value} {e : ShapeError} (failed : elements v = .error e) : LaunchMisshapen v e := by
  cases v with
  | list items =>
    rw [elements] at failed
    split at failed
    · next item found =>
      cases failed
      exact .notKey (List.mem_of_find?_eq_some found) (by simpa using List.find?_some found)
    · cases failed
  | text s => cases failed
  | table entries => cases failed
  | _ =>
    cases failed
    exact .notIterable rfl

theorem elements_ok {v : Value} {keys : List Value} (walked : elements v = .ok keys) :
    parts? v = some keys ∧ ∀ items, v = .list items → ∀ item ∈ items, item.isKey = true := by
  cases v with
  | list items =>
    rw [elements] at walked
    split at walked
    · cases walked
    · next absent =>
      cases walked
      refine ⟨rfl, ?_⟩
      rintro _ ⟨⟩ item member
      simpa using List.find?_eq_none.mp absent item member
  | text s =>
    cases walked
    refine ⟨rfl, ?_⟩
    rintro _ ⟨⟩
  | table entries =>
    cases walked
    refine ⟨rfl, ?_⟩
    rintro _ ⟨⟩
  | _ => cases walked

theorem isLaunchKey_character (c : Char) : isLaunchKey (.text (String.ofList [c])) = false := by
  have longer : ∀ key ∈ launchKeys, key.toList.length ≠ 1 := by decide
  refine Bool.eq_false_iff.mpr fun known => ?_
  exact longer _ (List.contains_iff_mem.mp known) (by simp)

/-- Where all keys are known, only a table has their values. -/
theorem LaunchRead.of_walked {v : Value} {keys : List Value} (full : v ≠ .text "") (walked : elements v = .ok keys)
    (known : ∀ k ∈ keys, isLaunchKey k = true) : LaunchRead v (launchSection v) := by
  obtain ⟨parts, -⟩ := elements_ok walked
  have unknown : distinct (keys.filter fun k => !isLaunchKey k) = [] := unknownAmong_eq_nil_iff.mpr known
  cases v with
  | table entries =>
    cases parts
    exact .of_known (by simpa using known)
  | list items =>
    obtain rfl : items = keys := Option.some.inj parts
    have failed : launchSection (.list items) = .error (.shape .listIndex) := by
      unfold launchSection
      rw [walked]
      simp only [Except.mapError, bind, Except.bind, unknown]
      rfl
    rw [failed]
    exact .misshapen (.listIndex known)
  | text s =>
    cases parts
    cases characters : s.toList with
    | nil => exact absurd (congrArg Value.text (String.toList_eq_nil_iff.mp characters)) full
    | cons c rest =>
      have first := known _ (List.mem_map_of_mem (characters ▸ List.mem_cons_self))
      exact absurd first (Bool.eq_false_iff.mp (isLaunchKey_character c))
  | _ => cases parts

/-- An empty text is the one value that a launch section never is. -/
theorem launchSection_read {v : Value} (full : v ≠ .text "") : LaunchRead v (launchSection v) := by
  cases walked : elements v with
  | error e =>
    have failed : launchSection v = .error (.shape e) := by
      unfold launchSection
      rw [walked]
      rfl
    rw [failed]
    exact .misshapen (elements_error walked)
  | ok keys =>
    obtain ⟨parts, hashed⟩ := elements_ok walked
    by_cases known : ∀ k ∈ keys, isLaunchKey k = true
    · exact .of_walked full walked known
    · have present : unknownAmong keys ≠ [] := fun nothing => known (unknownAmong_eq_nil_iff.mp nothing)
      have failed : launchSection v = match rising (unknownAmong keys) with
          | .error e => .error (.shape e)
          | .ok sorted =>
            .error (if (Value.list sorted).isWritable then .unknownKeys sorted else .numeral .tooLongToWrite) := by
        unfold launchSection
        rw [walked]
        simp only [Except.mapError, bind, Except.bind]
        rw [← unknownAmong]
        split
        · next nothing => exact absurd nothing present
        · cases rising (unknownAmong keys) <;> rfl
      rw [failed]
      rcases rising_cases (unknownAmong keys) with ⟨⟨sorted, made⟩, ordered⟩ | ⟨a, b, both, apart, unsorted⟩
      · rw [made]
        refine .unknown parts hashed present ordered ?_
        split <;> rfl
      · rw [unsorted]
        exact .misshapen (.noOrder parts both apart)

/-- The launch section is a table of known keys with values that pass their checks. -/
def LaunchAccepted (v : Value) : Prop :=
  ∃ entries, v = .table entries ∧ (∀ e ∈ entries, isLaunchKey e.1 = true) ∧
    firstRefused Given.accepted (given entries) = none

theorem LaunchMisshapen.not_known {entries : List (Value × Value)} {e : ShapeError}
    (shape : LaunchMisshapen (.table entries) e) : ¬∀ e ∈ entries, isLaunchKey e.1 = true := by
  intro known
  cases shape with
  | notIterable whole => cases whole
  | noOrder walked both _ =>
    cases walked
    have unknown : unknownAmong (entries.map (·.1)) = [] := unknownAmong_eq_nil_iff.mpr (by simpa using known)
    rw [unknown] at both
    cases both

theorem LaunchRead.misshapen_of {v : Value} {e : ShapeError} {x : Except SettingsError LaunchConfig}
    (read : LaunchRead v x) (shape : LaunchMisshapen v e) : ∃ e', x = .error (.shape e') := by
  cases read with
  | misshapen _ => exact ⟨_, rfl⟩
  | unknown walked hashed present ordered invalid =>
    exfalso
    cases shape with
    | notIterable whole => cases walked.symm.trans whole
    | notKey member compound => cases (hashed _ rfl _ member).symm.trans compound
    | noOrder walked' both apart =>
      cases walked.symm.trans walked'
      exact apart (List.pairwise_iff_forall_sublist.mp ordered both)
    | listIndex known =>
      cases walked
      exact present (unknownAmong_eq_nil_iff.mpr known)
  | refused known _ | accepted known _ => exact absurd known shape.not_known

theorem LaunchRead.shape {v : Value} {e : ShapeError} (read : LaunchRead v (.error (.shape e))) :
    LaunchMisshapen v e := by
  generalize result : Except.error (SettingsError.shape e) = x at read
  cases read with
  | misshapen shape =>
    cases result
    exact shape
  | unknown _ _ _ _ invalid =>
    cases result
    cases invalid
  | @refused entries g known first =>
    rw [Given.refusal] at result
    split at result <;> cases result
  | accepted => cases result

theorem LaunchRead.ok_iff {v : Value} {x : Except SettingsError LaunchConfig} (read : LaunchRead v x) :
    (∃ c, x = .ok c) ↔ LaunchAccepted v := by
  cases read with
  | misshapen shape =>
    refine iff_of_false (fun ⟨c, made⟩ => nomatch made) ?_
    rintro ⟨entries, rfl, known, -⟩
    exact shape.not_known known
  | unknown walked _ present _ _ =>
    refine iff_of_false (fun ⟨c, made⟩ => nomatch made) ?_
    rintro ⟨entries, rfl, known, -⟩
    cases walked
    exact present (unknownAmong_eq_nil_iff.mpr (by simpa using known))
  | @refused entries g known first =>
    refine iff_of_false (fun ⟨c, made⟩ => nomatch made) ?_
    rintro ⟨_, ⟨rfl⟩, -, all⟩
    cases first.symm.trans all
  | accepted known all => exact iff_of_true ⟨_, rfl⟩ ⟨_, rfl, known, all⟩

/-- What is wrong with the shape of a table of settings.  The sections are looked at one after the other. -/
inductive Misshapen (entries : List (Value × Value)) : ShapeError → Prop where
  | launch {e : ShapeError} (shape : LaunchMisshapen (section? entries "server") e) : Misshapen entries e
  | logging (launch : LaunchAccepted (section? entries "server"))
      (other : ∀ es, section? entries "logging" ≠ .table es) :
      Misshapen entries (.noPart (section? entries "logging").typeName "get")
  | collaborators (launch : LaunchAccepted (section? entries "server"))
      (logging : ∃ es, section? entries "logging" = .table es)
      (other : ∀ es, section? entries "collaborators" ≠ .table es) :
      Misshapen entries (.noPart (section? entries "collaborators").typeName "get")

theorem section?_read (entries : List (Value × Value)) (key : String) :
    LaunchRead (section? entries key) (launchSection (section? entries key)) := by
  refine launchSection_read ?_
  unfold section?
  split
  · split
    · next v _ given =>
      rintro rfl
      cases given
    · exact nofun
  · exact nofun

theorem tableOf_cases (v : Value) :
    (∃ es, v = .table es ∧ tableOf v = .ok es) ∨
      (∀ es, v ≠ .table es) ∧ tableOf v = .error (.shape (.noPart v.typeName "get")) := by
  cases v with
  | table es => exact .inl ⟨es, rfl, rfl⟩
  | _ => exact .inr ⟨nofun, rfl⟩

/-- What the reading of a table of settings comes to, one case for each way to end it. -/
inductive EntriesRead (entries : List (Value × Value)) : Except SettingsError Settings → Prop where
  | launch {e : SettingsError} (failed : launchSection (section? entries "server") = .error e) :
      EntriesRead entries (.error e)
  | misshapen {e : ShapeError} (launch : LaunchAccepted (section? entries "server")) (shape : Misshapen entries e) :
      EntriesRead entries (.error (.shape e))
  | whole {s : Settings} (launch : LaunchAccepted (section? entries "server"))
      (logging : ∃ es, section? entries "logging" = .table es)
      (collaborators : ∃ es, section? entries "collaborators" = .table es) : EntriesRead entries (.ok s)

/-- A launch section that is not given is read as an empty one. -/
theorem ofEntries_eq (entries : List (Value × Value)) :
    ∃ make : LaunchConfig → List (Value × Value) → List (Value × Value) → Settings, ofEntries entries = (do
      let launch ← launchSection (section? entries "server")
      let logging ← tableOf (section? entries "logging")
      let paths ← tableOf (section? entries "collaborators")
      return make launch logging paths) := by
  unfold ofEntries
  split
  · next empty =>
    rw [empty]
    exact ⟨_, rfl⟩
  · exact ⟨_, rfl⟩

theorem ofEntries_read (entries : List (Value × Value)) : EntriesRead entries (ofEntries entries) := by
  obtain ⟨make, same⟩ := ofEntries_eq entries
  rw [same]
  cases made : launchSection (section? entries "server") with
  | error e => exact .launch made
  | ok c =>
    have launch := (section?_read entries "server").ok_iff.mp ⟨c, made⟩
    rcases tableOf_cases (section? entries "logging") with ⟨logging, table, read⟩ | ⟨other, read⟩
    · rcases tableOf_cases (section? entries "collaborators") with ⟨paths, table', read'⟩ | ⟨other, read'⟩
      · rw [read, read']
        exact .whole launch ⟨logging, table⟩ ⟨paths, table'⟩
      · rw [read, read']
        exact .misshapen launch (.collaborators launch ⟨logging, table⟩ other)
    · rw [read]
      exact .misshapen launch (.logging launch other)

theorem misshapen_of_shape {entries : List (Value × Value)} {e : ShapeError}
    (failed : ofEntries entries = .error (.shape e)) : Misshapen entries e := by
  have read := ofEntries_read entries
  rw [failed] at read
  cases read with
  | launch failed => exact .launch (failed ▸ section?_read entries "server").shape
  | misshapen _ shape => exact shape

theorem shape_of_misshapen {entries : List (Value × Value)} {e : ShapeError} (shape : Misshapen entries e) :
    ∃ e', ofEntries entries = .error (.shape e') := by
  have launchRead := section?_read entries "server"
  have read := ofEntries_read entries
  generalize ofEntries entries = result at read ⊢
  cases read with
  | launch failed =>
    rw [failed] at launchRead
    cases shape with
    | launch shape =>
      obtain ⟨e', same⟩ := launchRead.misshapen_of shape
      exact ⟨e', congrArg _ (Except.error.inj same)⟩
    | logging launch _ | collaborators launch _ _ =>
      obtain ⟨c, made⟩ := launchRead.ok_iff.mpr launch
      cases made
  | misshapen => exact ⟨_, rfl⟩
  | whole launch logging collaborators =>
    exfalso
    cases shape with
    | launch shape =>
      obtain ⟨es, table, known, -⟩ := launch
      exact (table ▸ shape).not_known known
    | logging _ other =>
      obtain ⟨es, table⟩ := logging
      exact other es table
    | collaborators _ _ other =>
      obtain ⟨es, table⟩ := collaborators
      exact other es table

/-- A table of settings is read, or it is refused as invalid, exactly when nothing is wrong with its shape; otherwise the
error tells what is. -/
theorem ofEntries_refused_as_invalid_iff (entries : List (Value × Value)) :
    (∀ e, ofEntries entries = .error (.shape e) → Misshapen entries e) ∧
      (((∃ s, ofEntries entries = .ok s) ∨ ∃ e, ofEntries entries = .error e ∧ e.isInvalid = true) ↔
        ∀ e, ¬Misshapen entries e) := by
  refine ⟨fun e => misshapen_of_shape, ?_, ?_⟩
  · intro invalid e shape
    obtain ⟨e', failed⟩ := shape_of_misshapen shape
    rw [failed] at invalid
    rcases invalid with ⟨s, ⟨⟩⟩ | ⟨_, ⟨rfl⟩, ⟨⟩⟩
  · intro shapely
    cases result : ofEntries entries with
    | ok s => exact .inl ⟨s, rfl⟩
    | error e =>
      cases e with
      | shape e => exact absurd (misshapen_of_shape result) (shapely e)
      | _ => exact .inr ⟨_, rfl, rfl⟩

example : ofEntries [(.text "server", .table [(.int 1, .text "a"), (.text "colour", .text "blue")])] =
    .error (.shape (.noOrder "str" "int")) := rfl

end Settings

end CastLaunch
