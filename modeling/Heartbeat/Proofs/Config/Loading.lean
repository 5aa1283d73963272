import Heartbeat.Config.Loader
import Heartbeat.Proofs.Text.Utf8

/-!
Loading the configuration is all or nothing: the first candidate that exists is read as a whole,
or the defaults hold as a whole.
-/

namespace Heartbeat

namespace Environment

/-! The list of directories -/

/-- The text is these parts with colons between them. -/
structure Splits (text : List Char) (parts : List (List Char)) : Prop where
  whole : [':'].intercalate parts = text
  some : parts ≠ []
  plain : ∀ part ∈ parts, ':' ∉ part

theorem intercalate_cons (part : List Char) {parts : List (List Char)} (more : parts ≠ []) :
    [':'].intercalate (part :: parts) = part ++ ':' :: [':'].intercalate parts := by
  obtain ⟨next, parts, rfl⟩ := List.exists_cons_of_ne_nil more
  rw [List.intercalate_cons_cons, List.append_assoc, List.singleton_append]

theorem splits_splitColons (text : List Char) : Splits text (splitColons text) := by
  induction text with
  | nil => exact ⟨rfl, List.cons_ne_nil _ _, List.forall_mem_singleton.mpr List.not_mem_nil⟩
  | cons c text ih =>
      rw [splitColons]
      by_cases colon : c = ':'
      · subst colon
        rw [if_pos rfl]
        refine ⟨?_, List.cons_ne_nil _ _, List.forall_mem_cons.mpr ⟨List.not_mem_nil, ih.plain⟩⟩
        rw [intercalate_cons [] ih.some, ih.whole, List.nil_append]
      · rw [if_neg colon]
        obtain ⟨part, parts, same⟩ := List.exists_cons_of_ne_nil ih.some
        rw [same] at ih ⊢
        obtain ⟨first, others⟩ := List.forall_mem_cons.mp ih.plain
        refine ⟨?_, List.cons_ne_nil _ _, List.forall_mem_cons.mpr ⟨fun inside => ?_, others⟩⟩
        · rw [← ih.whole]
          cases parts with
          | nil => rfl
          | cons next parts => rw [List.intercalate_cons_cons, List.intercalate_cons_cons]; rfl
        · rcases List.mem_cons.mp inside with same | inside
          · exact colon same.symm
          · exact first inside

theorem splitColons_append {part : List Char} (plain : ':' ∉ part) (text : List Char) :
    splitColons (part ++ ':' :: text) = part :: splitColons text := by
  induction part with
  | nil => exact if_pos rfl
  | cons c part ih =>
      obtain ⟨apart, plain⟩ := not_or.mp (mt List.mem_cons.mpr plain)
      rw [List.cons_append, splitColons, if_neg (Ne.symm apart), ih plain]

theorem splitColons_of_plain {part : List Char} (plain : ':' ∉ part) :
    splitColons part = [part] := by
  induction part with
  | nil => rfl
  | cons c part ih =>
      obtain ⟨apart, plain⟩ := not_or.mp (mt List.mem_cons.mpr plain)
      rw [splitColons, if_neg (Ne.symm apart), ih plain]

theorem Splits.eq {text : List Char} {parts : List (List Char)} (splits : Splits text parts) :
    parts = splitColons text := by
  induction parts generalizing text with
  | nil => exact absurd rfl splits.some
  | cons part parts ih =>
      obtain ⟨first, others⟩ := List.forall_mem_cons.mp splits.plain
      rw [← splits.whole]
      by_cases last : parts = []
      · subst last
        rw [List.intercalate_singleton, splitColons_of_plain first]
      · rw [intercalate_cons part last, splitColons_append first, ← ih ⟨rfl, last, others⟩]

/-- The directory of the user: the one that is named if its path is absolute, or else the one at
home. -/
def IsUserDirectory (env : Environment) (home directory : String) : Prop :=
  env.configHome = some directory ∧ Path.isAbsolute directory = true ∨
    (∀ path ∈ env.configHome, Path.isAbsolute path = false) ∧ directory = Path.join home ".config"

/-- The directories of the system: those that are named with absolute paths, in their order, or
else a single one. -/
def AreSystemDirectories (env : Environment) (directories : List String) : Prop :=
  ∃ parts, Splits ((env.configDirs.map String.toList).getD []) parts ∧
    directories =
      if (parts.map String.ofList).filter Path.isAbsolute = [] then ["/etc/xdg"]
      else (parts.map String.ofList).filter Path.isAbsolute

/-- Where the configuration file may be, in this order. -/
inductive Searches (env : Environment) : List String → Prop
  | intro {path user : String} {directories : List String} (home : env.home = some path)
      (isUser : env.IsUserDirectory path user) (areSystem : env.AreSystemDirectories directories) :
      Searches env ((user :: directories).map fun directory =>
        Path.join (Path.join directory directoryName) fileName)

theorem isUserDirectory_iff (env : Environment) (path directory : String) :
    env.IsUserDirectory path directory ↔
      (env.configHome.bind absolute?).getD (Path.join path ".config") = directory := by
  unfold IsUserDirectory
  cases env.configHome with
  | none =>
      constructor
      · rintro (⟨⟨⟩, -⟩ | ⟨-, rfl⟩)
        rfl
      · rintro rfl
        exact .inr ⟨nofun, rfl⟩
  | some named =>
      rw [Option.bind_some, absolute?]
      by_cases absolute : Path.isAbsolute named = true
      · rw [if_pos absolute, Option.getD_some]
        constructor
        · rintro (⟨⟨⟩, -⟩ | ⟨relative, -⟩)
          · rfl
          · exact absurd (absolute.symm.trans (relative named rfl)) Bool.noConfusion
        · rintro rfl
          exact .inl ⟨rfl, absolute⟩
      · rw [if_neg absolute, Option.getD_none]
        constructor
        · rintro (⟨⟨⟩, absolute'⟩ | ⟨-, rfl⟩)
          · exact absurd absolute' absolute
          · rfl
        · rintro rfl
          refine .inr ⟨?_, rfl⟩
          rintro path ⟨⟩
          exact Bool.eq_false_iff.mpr absolute

theorem systemDirectories_eq {env : Environment} {named : List String}
    (same : ((splitColons ((env.configDirs.map String.toList).getD [])).map String.ofList).filter
      Path.isAbsolute = named) :
    env.systemDirectories = if named = [] then ["/etc/xdg"] else named := by
  have found : ((splitColons ((env.configDirs.map String.toList).getD [])).filterMap
      fun path => absolute? (String.ofList path)) = named := by
    rw [← same, ← List.filterMap_eq_filter, List.filterMap_map]
    rfl
  unfold systemDirectories
  simp only [found]
  cases named with
  | nil => rfl
  | cons path paths => rfl

theorem areSystemDirectories_iff (env : Environment) (directories : List String) :
    env.AreSystemDirectories directories ↔ env.systemDirectories = directories := by
  rw [systemDirectories_eq rfl]
  constructor
  · rintro ⟨parts, splits, rfl⟩
    rw [splits.eq]
  · rintro rfl
    exact ⟨_, splits_splitColons _, rfl⟩

theorem searches_iff (env : Environment) (paths : List String) :
    env.Searches paths ↔ env.candidates? = some paths := by
  rw [candidates?, userDirectory?]
  constructor
  · rintro ⟨home, isUser, areSystem⟩
    rw [home, ← (isUserDirectory_iff ..).mp isUser, ← (areSystemDirectories_iff ..).mp areSystem]
    rfl
  · intro found
    obtain ⟨user, named, rfl⟩ := Option.map_eq_some_iff.mp found
    obtain ⟨path, home, isUser⟩ := Option.map_eq_some_iff.mp named
    exact .intro home ((isUserDirectory_iff ..).mpr isUser) ((areSystemDirectories_iff ..).mpr rfl)

theorem candidates?_eq_none (env : Environment) : env.candidates? = none ↔ env.home = none := by
  rw [candidates?, userDirectory?, Option.map_eq_none_iff, Option.map_eq_none_iff]

end Environment

/-- There is something at this path, of whatever kind. -/
def Files.Holds (files : Files) (path : String) : Prop :=
  ∃ node, files.lookup path = .found node

namespace Config

/-- The file at a path is read as this configuration. -/
def ReadsAs (files : Files) (program path : String) (config : Config) : Prop :=
  ∃ text, files.lookup path = .found (.plain (Utf8.encode text)) ∧
    parse program text = .ok config

/-- The configuration that is loaded. Only the first path at which there is something counts. -/
inductive Loads (env : Environment) (files : Files) (program : String) : Config → Prop
  | homeless : env.home = none → Loads env files program (.default program)
  | missing : env.Searches paths → (∀ path ∈ paths, ¬ files.Holds path) →
      Loads env files program (.default program)
  | accepted : env.Searches (before ++ path :: behind) → (∀ other ∈ before, ¬ files.Holds other) →
      ReadsAs files program path config → Loads env files program config
  | rejected : env.Searches (before ++ path :: behind) → (∀ other ∈ before, ¬ files.Holds other) →
      files.Holds path → (∀ config, ¬ ReadsAs files program path config) →
      Loads env files program (.default program)

section

variable {env : Environment} {files : Files} {program path : String} {config : Config}

theorem exists?_iff (files : Files) (path : String) :
    exists? files path = true ↔ files.Holds path := by
  unfold exists? Files.Holds
  split
  · rename_i node found
    exact ⟨fun _ => ⟨node, found⟩, fun _ => rfl⟩
  · rename_i other
    exact ⟨nofun, fun ⟨node, found⟩ => absurd found (other node)⟩

theorem readText?_eq_some_iff {text : String} :
    readText? files path = some text ↔
      files.lookup path = .found (.plain (Utf8.encode text)) := by
  unfold readText?
  split
  · rename_i bytes found
    rw [Utf8.decode?_eq_some_iff, found]
    exact ⟨fun same => by rw [same], fun same => FileNode.plain.inj (Lookup.found.inj same)⟩
  · rename_i other
    exact ⟨nofun, fun found => absurd found (other _)⟩

theorem loadFile_of_readsAs (reads : ReadsAs files program path config) :
    (loadFile files program path).config = config := by
  obtain ⟨text, found, parsed⟩ := reads
  unfold loadFile
  simp only [readText?_eq_some_iff.mpr found, parsed]

theorem loadFile_of_not_readsAs (refused : ∀ config, ¬ ReadsAs files program path config) :
    (loadFile files program path).config = .default program := by
  unfold loadFile
  cases read : readText? files path with
  | none => rfl
  | some text =>
      cases parsed : parse program text with
      | error fault => simp only [parsed]
      | ok config => exact absurd ⟨text, readText?_eq_some_iff.mp read, parsed⟩ (refused config)

theorem load_of_missing {paths : List String} (searches : env.Searches paths)
    (missing : ∀ path ∈ paths, ¬ files.Holds path) :
    (load env files program).config = .default program := by
  have none : paths.find? (exists? files) = none :=
    List.find?_eq_none.mpr fun path inside held => missing path inside ((exists?_iff ..).mp held)
  unfold load
  simp only [(env.searches_iff paths).mp searches, none]

theorem load_of_first {before behind : List String}
    (searches : env.Searches (before ++ path :: behind))
    (missing : ∀ other ∈ before, ¬ files.Holds other) (holds : files.Holds path) :
    load env files program = loadFile files program path := by
  have first : (before ++ path :: behind).find? (exists? files) = some path := by
    refine List.find?_eq_some_iff_append.mpr ⟨(exists?_iff ..).mpr holds, before, behind, rfl, ?_⟩
    intro other inside
    rw [Bool.not_eq_true', ← Bool.not_eq_true, exists?_iff]
    exact missing other inside
  unfold load
  simp only [(env.searches_iff _).mp searches, first]

theorem Loads.eq_load (loads : Loads env files program config) :
    (load env files program).config = config := by
  cases loads with
  | homeless home =>
      unfold load
      rw [env.candidates?_eq_none.mpr home]
  | missing searches missing => exact load_of_missing searches missing
  | accepted searches missing reads =>
      obtain ⟨text, found, parsed⟩ := reads
      rw [load_of_first searches missing ⟨_, found⟩]
      exact loadFile_of_readsAs ⟨text, found, parsed⟩
  | rejected searches missing holds refused =>
      rw [load_of_first searches missing holds]
      exact loadFile_of_not_readsAs refused

theorem exists_loads (env : Environment) (files : Files) (program : String) :
    ∃ config, Loads env files program config := by
  cases candidates : env.candidates? with
  | none => exact ⟨_, .homeless (env.candidates?_eq_none.mp candidates)⟩
  | some paths =>
      have searches := (env.searches_iff paths).mpr candidates
      cases first : paths.find? (exists? files) with
      | none =>
          refine ⟨_, .missing searches fun path inside holds => ?_⟩
          exact List.find?_eq_none.mp first path inside ((exists?_iff ..).mpr holds)
      | some path =>
          obtain ⟨held, before, behind, rfl, unheld⟩ := List.find?_eq_some_iff_append.mp first
          have missing : ∀ other ∈ before, ¬ files.Holds other := by
            intro other inside holds
            have none := unheld other inside
            rw [(exists?_iff ..).mpr holds] at none
            cases none
          by_cases reads : ∃ config, ReadsAs files program path config
          · obtain ⟨config, reads⟩ := reads
            exact ⟨config, .accepted searches missing reads⟩
          · exact ⟨_, .rejected searches missing ((exists?_iff ..).mp held) (not_exists.mp reads)⟩

end

/-- Loading always gives the one configuration that the rules give. What there is behind the first
candidate that exists makes no difference, not even to what is noted. -/
theorem load_all_or_nothing (env : Environment) (files : Files) (program : String) :
    (∀ config, (load env files program).config = config ↔ Loads env files program config) ∧
      ∀ {before path behind}, env.Searches (before ++ path :: behind) →
        (∀ other ∈ before, ¬ files.Holds other) → files.Holds path →
          ∀ files', (∀ other ∈ before ++ [path], files'.lookup other = files.lookup other) →
            load env files' program = load env files program := by
  refine ⟨fun config => ⟨?_, Loads.eq_load⟩, ?_⟩
  · rintro rfl
    obtain ⟨config, loads⟩ := exists_loads env files program
    rw [loads.eq_load]
    exact loads
  · intro before path behind searches missing holds files' same
    obtain ⟨front, last⟩ := List.forall_mem_append.mp same
    have last := last path List.mem_cons_self
    have missing' : ∀ other ∈ before, ¬ files'.Holds other := by
      intro other inside holds'
      rw [Files.Holds, front other inside] at holds'
      exact missing other inside holds'
    have holds' : files'.Holds path := by
      rw [Files.Holds, last]
      exact holds
    rw [load_of_first searches missing holds, load_of_first searches missing' holds']
    unfold loadFile readText? unread
    rw [last]

/-- A file whose last value is ill-typed, with a good one in a later directory. -/
theorem load_all_or_nothing_past_bad_value :
    let env : Environment := { home := some "/h", configDirs := some "/a:b:/c" }
    let bad := "worker.name = 'n'\nreconnect.delay_ms = 'soon'"
    let front : List (List String × FileNode) := [(["a"], .directory),
      (["a", "worker-respondent"], .directory),
      (["a", "worker-respondent", "respondent.toml"], .plain (Utf8.encode bad))]
    let behind : List (List String × FileNode) := [(["c"], .directory),
      (["c", "worker-respondent"], .directory),
      (["c", "worker-respondent", "respondent.toml"], .plain (Utf8.encode "worker.name = 'm'"))]
    (load env { nodes := front ++ behind } "p").config = .default "p" ∧
      load env { nodes := front } "p" = load env { nodes := front ++ behind } "p" := by
  intro env bad front behind
  have searches : env.Searches (["/h/.config/worker-respondent/respondent.toml"] ++
      "/a/worker-respondent/respondent.toml" :: ["/c/worker-respondent/respondent.toml"]) :=
    (env.searches_iff _).mpr (by decide +kernel)
  have missing : ∀ other ∈ ["/h/.config/worker-respondent/respondent.toml"],
      ¬ Files.Holds { nodes := front ++ behind } other :=
    List.forall_mem_singleton.mpr fun holds =>
      absurd ((exists?_iff ..).mpr holds) (by decide +kernel)
  have found : Files.lookup { nodes := front ++ behind } "/a/worker-respondent/respondent.toml" =
      .found (.plain (Utf8.encode bad)) := by decide +kernel
  have refused : ∀ config, ¬ ReadsAs { nodes := front ++ behind } "p"
      "/a/worker-respondent/respondent.toml" config := by
    rintro config ⟨text, found', parsed⟩
    rw [found] at found'
    cases Utf8.encode_injective (FileNode.plain.inj (Lookup.found.inj found'))
    have failed : (parse "p" bad).isOk = false := by decide +kernel
    rw [parsed] at failed
    cases failed
  obtain ⟨law, only⟩ := load_all_or_nothing env { nodes := front ++ behind } "p"
  refine ⟨(law _).mpr (.rejected searches missing ⟨_, found⟩ refused),
    only searches missing ⟨_, found⟩ _ ?_⟩
  decide +kernel

end Config

end Heartbeat
