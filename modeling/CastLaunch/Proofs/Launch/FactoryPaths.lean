import CastLaunch.Launch
import Mathlib.Data.List.TakeWhile

/-!
Which paths lead to a factory.  A path that does is the label of its factory: a module of the catalog, a colon, and
the names that lead from the module to something callable.  Every other path is refused as a fault of the configuration,
except one whose module name begins with a dot: that is refused in another way, which the launch does not report as a
fault of its configuration.
-/

namespace CastLaunch
open CastLaunch.Text

namespace Catalog

/-! A path is cut at its first colon. -/

theorem ne_colon_of_not_mem {s : List Char} (absent : ':' ∉ s) : ∀ c ∈ s, (c != ':') = true :=
  fun _ member => bne_iff_ne.mpr fun same => absent (same ▸ member)

theorem splitPath_join {name chain : String} (first : ':' ∉ name.toList) :
    splitPath (name ++ ":" ++ chain) = (name, chain) := by
  have apart := ne_colon_of_not_mem first
  have whole : (name ++ ":" ++ chain).toList = name.toList ++ ':' :: chain.toList := by simp [String.toList_append]
  rw [splitPath]
  simp only [whole, List.takeWhile_append_of_pos apart, List.dropWhile_append_of_pos apart]
  simp

theorem splitPath_of_not_mem {path : String} (absent : ':' ∉ path.toList) : splitPath path = (path, "") := by
  have apart := ne_colon_of_not_mem absent
  rw [splitPath]
  simp only [List.takeWhile_eq_self_iff.mpr apart, List.dropWhile_eq_nil_iff.mpr apart]
  simp

theorem divided_or_not (path : String) :
    ':' ∉ path.toList ∨ ∃ name chain : String, path = name ++ ":" ++ chain ∧ ':' ∉ name.toList := by
  by_cases member : ':' ∈ path.toList
  · obtain ⟨front, back, same, first⟩ := List.eq_append_cons_of_mem member
    refine .inr ⟨String.ofList front, String.ofList back, ?_, by simpa using first⟩
    apply String.toList_inj.mp
    simp [same, String.toList_append]
  · exact .inl member

/-! The names of a chain stand between its dots. -/

def chainNames (chain : String) : List String := (chain.toList.splitOn '.').map String.ofList

theorem chainNames_intercalate {names : List String} (given : names ≠ []) (plain : ∀ n ∈ names, '.' ∉ n.toList) :
    chainNames (String.intercalate "." names) = names := by
  have back : (['.'].intercalate (names.map String.toList)).splitOn '.' = names.map String.toList := by
    refine List.splitOn_intercalate '.' ?_ (by simpa using given)
    simpa using plain
  rw [chainNames, String.toList_intercalate]
  show ((['.'].intercalate (names.map String.toList)).splitOn '.').map String.ofList = names
  rw [back, List.map_map]
  exact (List.map_congr_left fun n _ => String.ofList_toList).trans (List.map_id names)

theorem intercalate_chainNames (chain : String) : String.intercalate "." (chainNames chain) = chain := by
  apply String.toList_inj.mp
  rw [String.toList_intercalate, chainNames, List.map_map]
  have same : String.toList ∘ String.ofList = id := funext fun s => String.toList_ofList
  rw [same, List.map_id]
  exact List.intercalate_splitOn '.'

theorem not_mem_of_mem_splitOn {mark : Char} {part t : List Char} (member : part ∈ t.splitOn mark) : mark ∉ part := by
  induction t generalizing part with
  | nil =>
    obtain rfl : part = [] := by simpa using member
    exact List.not_mem_nil
  | cons c rest ih =>
    rw [List.splitOn_cons_eq_if_modifyHead] at member
    obtain ⟨first, others, split⟩ := List.exists_cons_of_ne_nil (List.splitOn_ne_nil mark rest)
    rw [split] at member ih
    split_ifs at member with hit
    · rcases List.mem_cons.mp member with rfl | behind
      · exact List.not_mem_nil
      · exact ih behind
    · rcases List.mem_cons.mp member with rfl | behind
      · exact List.not_mem_cons_of_ne_of_not_mem (fun same => hit (beq_iff_eq.mpr same.symm)) (ih List.mem_cons_self)
      · exact ih (List.mem_cons_of_mem first behind)

theorem chainNames_plain {chain name : String} (member : name ∈ chainNames chain) : '.' ∉ name.toList := by
  obtain ⟨part, split, rfl⟩ := List.mem_map.mp member
  simpa using not_mem_of_mem_splitOn split

/-! What a factory is. -/

/-- The names lead from the members to the target, each to the first member that has it. -/
inductive Reaches : List Member → List String → Member → Prop where
  | last {members : List Member} {name : String} {m : Member}
      (found : members.find? (fun m => m.name == name) = some m) : Reaches members [name] m
  | further {members : List Member} {name : String} {rest : List String} {m target : Member}
      (found : members.find? (fun m => m.name == name) = some m) (behind : Reaches m.members rest target) :
      Reaches members (name :: rest) target

theorem descend_eq_some_iff {members : List Member} {names : List String} {target : Member} :
    descend members names = some target ↔ Reaches members names target := by
  fun_induction descend members names with
  | case1 => exact ⟨nofun, nofun⟩
  | case2 members name =>
    constructor
    · exact .last
    · intro reaches
      cases reaches with
      | last found => exact found
      | further _ behind => cases behind
  | case3 members name rest more ih =>
    rw [Option.bind_eq_some_iff]
    constructor
    · rintro ⟨m, found, behind⟩
      exact .further found ((ih m).mp behind)
    · intro reaches
      cases reaches with
      | last => exact absurd rfl more
      | further found behind => exact ⟨_, found, (ih _).mpr behind⟩

theorem Reaches.unique {members : List Member} {names : List String} {a b : Member} (ha : Reaches members names a)
    (hb : Reaches members names b) : a = b :=
  Option.some.inj ((descend_eq_some_iff.mpr ha).symm.trans (descend_eq_some_iff.mpr hb))

/-- The names of the factory lead, from a module of the catalog, to something that can be called. -/
structure Offers (c : Catalog) (f : Factory) : Prop where
  named : f.moduleName ≠ ""
  undivided : ':' ∉ f.moduleName.toList
  absolute : f.moduleName.toList.head? ≠ some '.'
  chained : String.intercalate "." f.names ≠ ""
  plain : ∀ n ∈ f.names, '.' ∉ n.toList
  reached : ∃ m target, c.find? f.moduleName = some m ∧ Reaches m.members f.names target ∧ target.isCallable = true

section

variable {c : Catalog}

/-- How the search for a factory ends, by what is in front of the first colon of its path and what is behind it. -/
inductive Ends (c : Catalog) (name chain : String) : Except FactoryError Factory → Prop where
  | malformed (path : String) (short : name = "" ∨ chain = "") : Ends c name chain (.error (.malformedPath path))
  | relative (chained : chain ≠ "") (dotted : name.toList.head? = some '.') :
      Ends c name chain (.error (.relative name))
  | unloaded (e : ImportError) (absolute : name.toList.head? ≠ some '.') (missing : c.find? name = none) :
      Ends c name chain (.error (.cannotImport name e))
  | unreached (m : Module) (absolute : name.toList.head? ≠ some '.') (loaded : c.find? name = some m)
      (nowhere : ∀ target, ¬Reaches m.members (chainNames chain) target) :
      Ends c name chain (.error (.noAttribute name chain))
  | reached (m : Module) (target : Member) (named : name ≠ "") (chained : chain ≠ "")
      (absolute : name.toList.head? ≠ some '.') (loaded : c.find? name = some m)
      (leads : Reaches m.members (chainNames chain) target) (callable : target.isCallable = true) :
      Ends c name chain (.ok ⟨name, chainNames chain⟩)
  | uncallable (path : String) (m : Module) (target : Member) (absolute : name.toList.head? ≠ some '.')
      (loaded : c.find? name = some m) (leads : Reaches m.members (chainNames chain) target)
      (callable : target.isCallable = false) : Ends c name chain (.error (.notCallable path))

theorem resolve_ends {name chain : String} (first : ':' ∉ name.toList) :
    Ends c name chain (c.resolve (name ++ ":" ++ chain)) := by
  have names : (chain.toList.splitOn '.').map String.ofList = chainNames chain := rfl
  simp only [resolve, splitPath_join first, names]
  split_ifs with short dotted
  · exact .malformed _ short
  · exact .relative (not_or.mp short).2 dotted
  · obtain ⟨named, chained⟩ := not_or.mp short
    cases loaded : c.find? name with
    | none =>
      rw [load, loaded]
      exact .unloaded _ dotted loaded
    | some m =>
      rw [load, loaded]
      cases leads : descend m.members (chainNames chain) with
      | none =>
        have nowhere : ∀ target, ¬Reaches m.members (chainNames chain) target := by
          intro target reaches
          rw [← descend_eq_some_iff, leads] at reaches
          cases reaches
        simp only [leads]
        exact .unreached m dotted loaded nowhere
      | some target =>
        have reaches := descend_eq_some_iff.mp leads
        simp only [leads]
        split_ifs with callable
        · exact .reached m target named chained dotted loaded reaches callable
        · exact .uncallable _ m target dotted loaded reaches (Bool.eq_false_iff.mpr callable)

theorem resolve_of_not_mem {path : String} (absent : ':' ∉ path.toList) :
    c.resolve path = .error (.malformedPath path) := by
  simp [resolve, splitPath_of_not_mem absent]

/-- A path leads to a factory exactly when the catalog offers the factory and the path is its label. -/
theorem resolve_eq_ok_iff {path : String} {f : Factory} : c.resolve path = .ok f ↔ c.Offers f ∧ path = f.label := by
  constructor
  · intro resolved
    rcases divided_or_not path with absent | ⟨name, chain, rfl, first⟩
    · rw [resolve_of_not_mem absent] at resolved
      cases resolved
    · have ends : c.Ends name chain _ := resolve_ends first
      rw [resolved] at ends
      cases ends with
      | reached m target named chained absolute loaded leads callable =>
        have whole := intercalate_chainNames chain
        exact ⟨⟨named, first, absolute, whole.trans_ne chained, fun _ => chainNames_plain,
          m, target, loaded, leads, callable⟩, congrArg _ whole.symm⟩
  · rintro ⟨o, rfl⟩
    obtain ⟨m, target, loaded, leads, callable⟩ := o.reached
    have given : f.names ≠ [] := by
      intro none
      exact o.chained (by rw [none]; rfl)
    have names := chainNames_intercalate given o.plain
    have ends : c.Ends f.moduleName (String.intercalate "." f.names) _ := resolve_ends o.undivided
    rw [Factory.label]
    generalize c.resolve (f.moduleName ++ ":" ++ String.intercalate "." f.names) = result at ends ⊢
    cases ends with
    | malformed _ short => exact absurd short (not_or.mpr ⟨o.named, o.chained⟩)
    | relative _ dotted => exact absurd dotted o.absolute
    | unloaded _ _ missing =>
      rw [loaded] at missing
      cases missing
    | unreached m' _ loaded' nowhere =>
      obtain rfl : m = m' := Option.some.inj (loaded.symm.trans loaded')
      exact absurd (names.symm ▸ leads) (nowhere target)
    | reached => rw [names]
    | uncallable _ m' target' _ loaded' leads' other =>
      obtain rfl : m = m' := Option.some.inj (loaded.symm.trans loaded')
      obtain rfl : target = target' := leads.unique (names ▸ leads')
      rw [callable] at other
      cases other

/-- What is in front of the first colon begins with a dot, and something is behind it. -/
def IsRelative (path : String) : Prop :=
  ∃ name chain : String, path = name ++ ":" ++ chain ∧ ':' ∉ name.toList ∧ name.toList.head? = some '.' ∧ chain ≠ ""

theorem resolve_not_configuration_iff {path : String} :
    (∃ e, c.resolve path = .error e ∧ e.isConfiguration = false) ↔ IsRelative path := by
  rcases divided_or_not path with absent | ⟨name, chain, rfl, first⟩
  · rw [resolve_of_not_mem absent]
    constructor
    · rintro ⟨e, ⟨rfl⟩, other⟩
      cases other
    · rintro ⟨name, chain, rfl, -⟩
      exact absurd (by simp [String.toList_append]) absent
  · have relative : IsRelative (name ++ ":" ++ chain) ↔ name.toList.head? = some '.' ∧ chain ≠ "" := by
      constructor
      · rintro ⟨name', chain', same, first', dotted, chained⟩
        have parts := congrArg splitPath same
        rw [splitPath_join first, splitPath_join first'] at parts
        cases parts
        exact ⟨dotted, chained⟩
      · exact fun ⟨dotted, chained⟩ => ⟨name, chain, rfl, first, dotted, chained⟩
    have ends : c.Ends name chain _ := resolve_ends first
    rw [relative]
    generalize c.resolve (name ++ ":" ++ chain) = result at ends ⊢
    cases ends with
    | malformed _ short =>
      constructor
      · rintro ⟨_, ⟨rfl⟩, ⟨⟩⟩
      · rintro ⟨dotted, chained⟩
        rcases short with rfl | none
        · cases dotted
        · exact absurd none chained
    | relative chained dotted => exact ⟨fun _ => ⟨dotted, chained⟩, fun _ => ⟨_, rfl, rfl⟩⟩
    | unloaded _ absolute _ | unreached _ absolute _ _ | reached _ _ _ _ absolute _ _ _
    | uncallable _ _ _ absolute _ _ _ =>
      constructor
      · rintro ⟨_, ⟨rfl⟩, ⟨⟩⟩
      · exact fun ⟨dotted, _⟩ => absurd dotted absolute

end

example (c : Catalog) : c.resolve ".engine:create" = .error (.relative ".engine") := rfl

end Catalog

/-- The settings that a launch with this configuration follows, those of the renderers if they are needed. -/
def CollaboratorPaths.followed (p : CollaboratorPaths) (config : LaunchConfig) : List Value :=
  (if config.videoEnabled then [p.video] else []) ++ (if config.audioEnabled then [p.audio] else []) ++
    [p.engine, p.discovery]

namespace Catalog

/-- Behind settings that all lead to factories comes one of the kind. -/
inductive Meets (c : Catalog) (kind : Value → Prop) : List Value → Prop where
  | here {v : Value} {rest : List Value} (hit : kind v) : Meets c kind (v :: rest)
  | later {v : Value} {rest : List Value} {f : Factory} (leads : c.resolveValue v = .ok f)
      (behind : Meets c kind rest) : Meets c kind (v :: rest)

/-- The first of the settings that leads to no factory is given and fails with the error. -/
def Faults (c : Catalog) (e : FactoryError) : List Value → Prop :=
  c.Meets fun v => v.given = true ∧ c.resolveValue v = .error e

section

variable {c : Catalog} {e : FactoryError} {rest : List Value}

theorem faults_cons_of_error {v : Value} {e' : FactoryError} (failed : c.resolveValue v = .error e') :
    c.Faults e (v :: rest) ↔ v.given = true ∧ e' = e := by
  constructor
  · intro faults
    cases faults with
    | here hit => exact ⟨hit.1, Except.error.inj (failed.symm.trans hit.2)⟩
    | later leads => cases failed.symm.trans leads
  · rintro ⟨given, rfl⟩
    exact .here ⟨given, failed⟩

theorem faults_cons_of_ok {v : Value} {f : Factory} (leads : c.resolveValue v = .ok f) :
    c.Faults e (v :: rest) ↔ c.Faults e rest := by
  constructor
  · intro faults
    cases faults with
    | here hit => cases leads.symm.trans hit.2
    | later _ behind => exact behind
  · exact .later leads

theorem resolveValue_bind_iff {β : Type} {v : Value} {k : Factory → Except FactoryError β} (given : v.given = true)
    (behind : ∀ f, k f = .error e ↔ c.Faults e rest) : (c.resolveValue v >>= k) = .error e ↔ c.Faults e (v :: rest) := by
  cases result : c.resolveValue v with
  | error e' =>
    rw [faults_cons_of_error result]
    simp [given, bind, Except.bind]
  | ok f =>
    rw [faults_cons_of_ok result]
    exact behind f

theorem given_of_leads {v : Value} {f : Factory} (leads : c.resolveValue v = .ok f) : v.given = true := by
  cases v with
  | text path =>
    refine bne_iff_ne.mpr ?_
    rintro rfl
    cases leads
  | _ => cases leads

theorem resolveRenderer_bind_iff {β : Type} {needed : Bool} {role : Role} {v : Value}
    {k : Option Factory → Except FactoryError β} (other : e.isConfiguration = false)
    (behind : ∀ f, k f = .error e ↔ c.Faults e rest) :
    (c.resolveRenderer needed role v >>= k) = .error e ↔ c.Faults e ((if needed then [v] else []) ++ rest) := by
  rw [resolveRenderer]
  cases needed with
  | false => exact behind none
  | true =>
    cases given : v.given with
    | true =>
      have mapped : ((c.resolveValue v).map some >>= k) = c.resolveValue v >>= fun f => k (some f) := by
        cases c.resolveValue v <;> rfl
      exact mapped ▸ resolveValue_bind_iff given fun f => behind (some f)
    | false =>
      constructor
      · rintro ⟨⟩
        cases other
      · intro faults
        cases faults with
        | here hit => cases given.symm.trans hit.1
        | later leads => cases given.symm.trans (given_of_leads leads)

/-- The setting is a text and begins, as a path, with a dot. -/
def IsRelativeText (v : Value) : Prop := ∃ path, v = .text path ∧ IsRelative path

theorem isRelativeText_of_fault {v : Value} (other : e.isConfiguration = false)
    (text : v.given = true → ∃ path, v = .text path) (fault : v.given = true ∧ c.resolveValue v = .error e) :
    IsRelativeText v := by
  obtain ⟨path, rfl⟩ := text fault.1
  exact ⟨path, rfl, resolve_not_configuration_iff.mp ⟨e, fault.2, other⟩⟩

theorem Faults.meets_relative {vs : List Value} (other : e.isConfiguration = false) (faults : c.Faults e vs)
    (texts : ∀ v ∈ vs, v.given = true → ∃ path, v = .text path) : c.Meets IsRelativeText vs := by
  induction faults with
  | here hit => exact .here (isRelativeText_of_fault other (texts _ List.mem_cons_self) hit)
  | later leads _ ih => exact .later leads (ih fun v member => texts v (List.mem_cons_of_mem _ member))

theorem Meets.faults {vs : List Value} (meets : c.Meets IsRelativeText vs) :
    ∃ e, e.isConfiguration = false ∧ c.Faults e vs := by
  induction meets with
  | here hit =>
    obtain ⟨path, rfl, relative⟩ := hit
    obtain ⟨e, failed, other⟩ := (resolve_not_configuration_iff (c := c)).mpr relative
    refine ⟨e, other, .here ⟨bne_iff_ne.mpr ?_, failed⟩⟩
    rintro rfl
    cases failed
    cases other
  | later leads _ ih =>
    obtain ⟨e, other, faults⟩ := ih
    exact ⟨e, other, .later leads faults⟩

end

end Catalog

/-- The choice of the factories fails in another way than by a fault of the configuration exactly when the engine and
the registrar are named and the first of the followed settings that leads to no factory fails so. -/
theorem FactorySet.resolve_fault_iff {c : Catalog} {paths : CollaboratorPaths} {config : LaunchConfig}
    {e : FactoryError} (other : e.isConfiguration = false) :
    resolve c paths config = .error e ↔ paths.engine.given = true ∧ paths.discovery.given = true ∧
      c.Faults e (paths.followed config) := by
  have known : ∀ role, FactoryError.notConfigured role ≠ e := by
    rintro role rfl
    cases other
  rw [resolve, CollaboratorPaths.followed]
  cases engine : paths.engine.given with
  | false => simp [known, bind, Except.bind, throw, throwThe, MonadExceptOf.throw]
  | true =>
    cases discovery : paths.discovery.given with
    | false => simp [known, bind, Except.bind, throw, throwThe, MonadExceptOf.throw]
    | true =>
      -- From here on each setting is followed in its turn; those of the renderers come first.
      have steps : (do
          let video ← c.resolveRenderer config.videoEnabled .video paths.video
          let audio ← c.resolveRenderer config.audioEnabled .audio paths.audio
          let engine ← c.resolveValue paths.engine
          let discovery ← c.resolveValue paths.discovery
          return ({ engine, sink := builtInSink, video, audio, discovery } : FactorySet)) = .error e ↔ _ :=
        Catalog.resolveRenderer_bind_iff other fun video => Catalog.resolveRenderer_bind_iff other fun audio =>
          Catalog.resolveValue_bind_iff engine fun f => Catalog.resolveValue_bind_iff discovery fun g =>
            (⟨nofun, nofun⟩ : _ ↔ c.Faults e [])
      rw [List.append_assoc]
      exact steps.trans (by simp only [true_and])

namespace Launch
open CommandLine

/-- The launch comes, with these settings, to the choice of its collaborators: its logging is set up, with the log
file open. -/
structure ComesToChoice (h : Host) (argv : List String) (s : Settings) : Prop where
  configured : ∃ a, Arguments.parse argv = .ok a ∧ a.help = false ∧ configure h a = .ok s
  logged : ∃ setup, beginLog h s = .ok setup

/-- The launch exits with 1 and says why. -/
structure Refuses (o : Outcome) (s : Settings) (e : FactoryError) : Prop where
  exit : o.exit = 1
  errors : o.errors = "Error: " ++ e.message ++ "\n"
  events : o.events = s.launch.summary.map .log ++
    if e.isConfiguration then [.log ⟨.error, .bootstrap, e.message⟩] else []

theorem run_refuses {h : Host} {argv : List String} {s : Settings} {e : FactoryError} (comes : ComesToChoice h argv s)
    (failed : FactorySet.resolve h.catalog s.collaborators s.launch = .error e) : Refuses (run h argv) s e := by
  obtain ⟨a, parsed, unasked, configured⟩ := comes.configured
  obtain ⟨setup, logged⟩ := comes.logged
  have outcome : run h argv = conclude (serve h a).1 (serve h a).2 := by
    simp [run, runWith, parsed, unasked]
  rw [outcome, serve]
  simp only [configured, serveWith, logged, failed]
  cases known : e.isConfiguration with
  | true => exact ⟨rfl, rfl, by rw [known]; rfl⟩
  | false => exact ⟨rfl, rfl, by rw [known]; exact (List.append_nil _).symm⟩

/-- A path leads to the factory that it is the label of, and a path that is no such label is a fault of the
configuration unless it begins with a dot.  A launch that cannot choose its collaborators exits with 1 and says why; it
also logs this, except where the first of the paths that leads nowhere begins with a dot. -/
theorem paths_lead_or_refuse (h : Host) :
    (∀ path f, h.catalog.resolve path = .ok f ↔ h.catalog.Offers f ∧ path = f.label) ∧
    (∀ path, (∃ e, h.catalog.resolve path = .error e ∧ e.isConfiguration = false) ↔ Catalog.IsRelative path) ∧
    ∀ argv s e, ComesToChoice h argv s →
      (∀ v ∈ s.collaborators.followed s.launch, v.given = true → ∃ path, v = .text path) →
      FactorySet.resolve h.catalog s.collaborators s.launch = .error e →
      Refuses (run h argv) s e ∧ (e.isConfiguration = false ↔
        s.collaborators.engine.given = true ∧ s.collaborators.discovery.given = true ∧
          h.catalog.Meets Catalog.IsRelativeText (s.collaborators.followed s.launch)) := by
  refine ⟨fun path f => Catalog.resolve_eq_ok_iff, fun path => Catalog.resolve_not_configuration_iff, ?_⟩
  intro argv s e comes texts failed
  refine ⟨run_refuses comes failed, ?_, ?_⟩
  · intro other
    obtain ⟨engine, discovery, faults⟩ := (FactorySet.resolve_fault_iff other).mp failed
    exact ⟨engine, discovery, faults.meets_relative other texts⟩
  · rintro ⟨engine, discovery, meets⟩
    obtain ⟨e', other, faults⟩ := meets.faults
    have same := (FactorySet.resolve_fault_iff other).mpr ⟨engine, discovery, faults⟩
    exact Except.error.inj (failed.symm.trans same) ▸ other

/-- A settings file whose renderer is named by a path with a dot in front. -/
def dottedText : String :=
  "collaborators: \x7bengine: 'studio:engine', video_renderer: '.video:create'\x7d\nlogging: \x7bformat: ''\x7d\n"

def dottedSettings : Settings where
  collaborators := { engine := .text "studio:engine", video := .text ".video:create" }
  logging := { format := .text "" }

def dotted : Host where
  surroundings := { files := { entries := [(["uxlaunch.yml"], .file dottedText.toUTF8.toList)] } }
  catalog := ⟨builtInModules⟩
  addressFiles := []
  random := ⟨fun _ => 0⟩
  hostname := none
  scripts := []
  quiet := { reply := fun _ => .done, dynamicPort := 7000, hostname := none, localAddress := "192.0.2.10" }

theorem load_dottedText : Yaml.load dottedText.toList = .ok (.table [
    (.text "collaborators", .table [
      (.text "engine", .text "studio:engine"), (.text "video_renderer", .text ".video:create")]),
    (.text "logging", .table [(.text "format", .text "")])]) := by
  have scanned : Yaml.tokens dottedText.toList =
      [.blockMappingStart, .key, .scalar "collaborators" true, .value, .flowMappingStart,
        .key, .scalar "engine" true, .value, .scalar "studio:engine" false, .flowEntry,
        .key, .scalar "video_renderer" true, .value, .scalar ".video:create" false, .flowMappingEnd,
        .key, .scalar "logging" true, .value, .flowMappingStart, .key, .scalar "format" true, .value, .scalar "" false,
        .flowMappingEnd, .blockEnd] := by decide +kernel
  rw [Yaml.load, scanned]
  rfl

theorem configure_dotted : configure dotted {} = .ok dottedSettings := by
  have found : Settings.findFile dotted.surroundings = .ok (some ⟨"/", ["uxlaunch.yml"]⟩) := rfl
  have holds : Settings.bytesOf dotted.surroundings "/uxlaunch.yml" = .ok dottedText.toUTF8.toList := by
    have plain : "/uxlaunch.yml".contains '\x00' = false := by simp
    rw [Settings.bytesOf, plain]
    rfl
  have decoded : Text.Utf8.decode dottedText.toUTF8.toList = .ok dottedText.toList := by decide +kernel
  have unified : unifyBreaks dottedText.toList = dottedText.toList := by decide +kernel
  have loaded : Settings.loadBy dotted.loader dotted.surroundings = .ok dottedSettings := by
    rw [Settings.loadBy_of_found found holds decoded, unified]
    show (Yaml.load dottedText.toList).mapError FileError.unloadable >>= _ = _
    rw [load_dottedText]
    rfl
  rw [configure, loaded]
  rfl

theorem paths_lead_or_refuse_dotted :
    ComesToChoice dotted [] dottedSettings ∧
      FactorySet.resolve dotted.catalog dottedSettings.collaborators dottedSettings.launch =
        .error (.relative ".video") ∧
      Refuses (run dotted []) dottedSettings (.relative ".video") ∧
      dotted.catalog.Meets Catalog.IsRelativeText (dottedSettings.collaborators.followed dottedSettings.launch) := by
  have logged : beginLog dotted dottedSettings = .ok ⟨20, "%(message)s", none⟩ := by decide +kernel
  have comes : ComesToChoice dotted [] dottedSettings := ⟨⟨{}, rfl, rfl, configure_dotted⟩, ⟨_, logged⟩⟩
  have failed : FactorySet.resolve dotted.catalog dottedSettings.collaborators dottedSettings.launch =
      .error (.relative ".video") := by decide +kernel
  have followed : dottedSettings.collaborators.followed dottedSettings.launch =
      [.text ".video:create", .null, .text "studio:engine", ({} : CollaboratorPaths).discovery] := rfl
  have texts : ∀ v ∈ dottedSettings.collaborators.followed dottedSettings.launch,
      v.given = true → ∃ path, v = .text path := by
    rw [followed]
    simp [Value.given]
  obtain ⟨refuses, other⟩ :=
    (paths_lead_or_refuse dotted).2.2 [] dottedSettings (.relative ".video") comes texts failed
  exact ⟨comes, failed, refuses, (other.mp rfl).2.2⟩

end Launch

end CastLaunch
