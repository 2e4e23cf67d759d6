import Mathlib.Data.List.Forall2
import TreeLint.Command.Run
import TreeLint.Proofs.Paths

/-!
# Which files are discovered

A file is discovered because it is named, or because it lies below a named
directory and its path from there passes the patterns.  The same file may be
reached in several ways, with another path from the directory each time, so each
argument selects on its own and the results are united.  The union is sorted
without repetitions, and neither the order nor the overlap of the arguments shows.

The patterns of a configuration decide only about what lies below directories and
what is excluded.  A files section that names no patterns to include has none.
-/

namespace TreeLint

/-! ## Patterns -/

/-- The pattern is valid and the text matches it. -/
def Glob.Matches (pattern text : String) : Prop :=
  ∃ pieces, Glob.parse pattern = .ok pieces ∧ Glob.isMatch pieces text = true

theorem compilePatterns_ok {patterns : List String} {compiled : List (List Glob.Piece)}
    (accepted : compilePatterns patterns = .ok compiled) :
    List.Forall₂ (fun pattern pieces => Glob.parse pattern = .ok pieces) patterns compiled := by
  induction patterns generalizing compiled with
  | nil =>
      cases accepted
      exact List.Forall₂.nil
  | cons pattern rest ih =>
      rw [compilePatterns] at accepted
      cases parsed : Glob.parse pattern with
      | error fault =>
          rw [parsed] at accepted
          cases accepted
      | ok pieces =>
          rw [parsed] at accepted
          cases compiledRest : compilePatterns rest with
          | error fault =>
              rw [compiledRest] at accepted
              cases accepted
          | ok others =>
              rw [compiledRest] at accepted
              cases accepted
              exact List.Forall₂.cons parsed (ih compiledRest)

/-- The pattern to include by default is valid. -/
theorem compilePatterns_json : compilePatterns ["**/*.json"] =
    .ok [.anyDirectories :: .anySequence :: ".json".toList.map .char] := by
  decide +kernel

theorem exists_compilePatterns_ok {patterns : List String}
    (valid : ∀ pattern ∈ patterns, ∃ pieces, Glob.parse pattern = .ok pieces) :
    ∃ compiled, compilePatterns patterns = .ok compiled := by
  induction patterns with
  | nil => exact ⟨[], rfl⟩
  | cons pattern rest ih =>
      obtain ⟨pieces, parsed⟩ := valid pattern List.mem_cons_self
      obtain ⟨compiled, compiledRest⟩ := ih fun other member =>
        valid other (List.mem_cons_of_mem _ member)
      rw [compilePatterns, parsed, compiledRest]
      exact ⟨pieces :: compiled, rfl⟩

/-- The compiled patterns match what some pattern matches. -/
theorem matchesAny_iff {patterns : List String} {compiled : List (List Glob.Piece)}
    (accepted : compilePatterns patterns = .ok compiled) (text : String) :
    matchesAny compiled text = true ↔ ∃ pattern ∈ patterns, Glob.Matches pattern text := by
  have parsed := compilePatterns_ok accepted
  clear accepted
  induction parsed with
  | nil => simp [matchesAny]
  | @cons pattern pieces patterns compiled isParsed _ ih =>
      have first : Glob.Matches pattern text ↔ Glob.isMatch pieces text = true := by
        simp [Glob.Matches, isParsed]
      rw [matchesAny, List.any_cons, Bool.or_eq_true, List.exists_mem_cons_iff, first]
      exact or_congr_right ih

namespace Config

/-- The text matches one of the patterns to include. -/
def Includes (config : Config) (text : String) : Prop :=
  ∃ pattern ∈ config.filesConfig.included.getD [], Glob.Matches pattern text

/-- The text matches one of the patterns to exclude. -/
def Excludes (config : Config) (text : String) : Prop :=
  ∃ pattern ∈ config.filesConfig.excluded.getD [], Glob.Matches pattern text

/-- All patterns of the configuration are valid. -/
def PatternsValid (config : Config) : Prop :=
  ∀ pattern ∈ config.filesConfig.included.getD [] ++ config.filesConfig.excluded.getD [],
    ∃ pieces, Glob.parse pattern = .ok pieces

end Config

namespace FileSystem

/-! ## What one argument selects -/

/-- The path leads to a file or to a directory.  To the discovery, anything else is
missing. -/
def Present (system : FileSystem) (path : String) : Prop :=
  system.isFile path = true ∨ system.isDirectory path = true

/-- The path leads to a directory, and going down from there along the names, without
following a link, leads to a file. -/
structure HoldsBelow (system : FileSystem) (path : String) (relative : List String) : Prop where
  proper : relative ≠ []
  isFile : ∃ place content, system.find path = .ok (place, .directory) ∧
    system.occupant? (place ++ relative) = some (.entry (.file content))

/-- The paths that one argument contributes: the path of a file as it is given, and
the paths of the files below a directory. -/
inductive Selects (system : FileSystem) (config : Config) (argument : String) : String → Prop
  | named (isFile : system.isFile argument = true) (kept : ¬ config.Excludes argument) :
      Selects system config argument argument
  | below (relative : List String) (held : system.HoldsBelow argument relative)
      (ordinary : relative.getLastD "" ∉ configFileNames)
      (wanted : config.Includes (String.intercalate "/" relative))
      (kept : ¬ config.Excludes (String.intercalate "/" relative)) :
      Selects system config argument (relative.foldl Path.join argument)

/-- The files have names that an entry of a directory can have. -/
def ProperlyNamed (system : FileSystem) : Prop :=
  ∀ names ∈ system.files.map Prod.fst ++ system.unreadable.map Prod.fst,
    ∀ name ∈ names, Path.IsName name

/-- A directory that the path leads to can be listed, and so can all that are below it. -/
def Walkable (system : FileSystem) (path : String) : Prop :=
  ∀ place, system.find path = .ok (place, .directory) →
    ∀ relative ∈ [] :: system.directoriesBelow place,
      system.refusal? path place relative = none

theorem occupant?_eq_file_iff (system : FileSystem) (place : List String) :
    (∃ content, system.occupant? place = some (.entry (.file content))) ↔
      ∃ file ∈ system.contents, file.1 = place := by
  unfold occupant?
  cases found : system.contents.lookup place with
  | some content =>
      have member : ∃ file ∈ system.contents, file.1 = place := by
        by_contra absent
        have none : system.contents.lookup place = none := by
          rw [List.lookup_eq_none_iff]
          intro file isFile
          simp only [bne_iff_ne, ne_eq]
          rintro rfl
          exact absent ⟨file, isFile, rfl⟩
        rw [none] at found
        cases found
      simp [member]
  | none =>
      rw [List.lookup_eq_none_iff] at found
      have absent : ¬ ∃ file ∈ system.contents, file.1 = place := by
        rintro ⟨file, isFile, rfl⟩
        simpa using found file isFile
      simp only [absent, iff_false]
      rintro ⟨content, held⟩
      -- what is looked for next is special, a link or a directory
      repeat' split at held
      all_goals cases held

/-- The files below a place are those whose names continue the names of the place. -/
theorem mem_below_iff (system : FileSystem) (place relative : List String) :
    relative ∈ system.below place ↔
      relative ≠ [] ∧ ∃ content,
        system.occupant? (place ++ relative) = some (.entry (.file content)) := by
  rw [occupant?_eq_file_iff, below, List.mem_filterMap]
  constructor
  · rintro ⟨file, isFile, chosen⟩
    split at chosen
    · rename_i continues
      simp only [Bool.and_eq_true, List.isPrefixOf_iff_prefix, decide_eq_true_eq] at continues
      obtain ⟨⟨rest, continued⟩, longer⟩ := continues
      rw [← continued, List.drop_left, Option.some.injEq] at chosen
      subst chosen
      refine ⟨?_, file, isFile, continued.symm⟩
      rintro rfl
      simp [← continued] at longer
    · cases chosen
  · rintro ⟨proper, file, isFile, continued⟩
    refine ⟨file, isFile, ?_⟩
    have longer : 0 < relative.length := List.length_pos_iff.mpr proper
    rw [continued, if_pos (by simp [longer]), List.drop_left]

theorem isFile_iff (system : FileSystem) (path : String) :
    system.isFile path = true ↔ ∃ place content, system.find path = .ok (place, .file content) := by
  unfold isFile
  split
  · rename_i place content found
    simp [found]
  · rename_i other
    simp only [Bool.false_eq_true, false_iff]
    rintro ⟨place, content, found⟩
    exact other place content found

theorem isDirectory_iff (system : FileSystem) (path : String) :
    system.isDirectory path = true ↔ ∃ place, system.find path = .ok (place, .directory) := by
  unfold isDirectory
  split
  · rename_i place found
    simp [found]
  · rename_i other
    simp only [Bool.false_eq_true, false_iff]
    rintro ⟨place, found⟩
    exact other place found

theorem firstRefusal?_eq_none_iff (system : FileSystem) (path : String) (place : List String) :
    system.firstRefusal? path place = none ↔
      ∀ relative ∈ [] :: system.directoriesBelow place,
        system.refusal? path place relative = none := by
  rw [firstRefusal?, List.head?_eq_none_iff, List.eq_nil_iff_length_eq_zero,
    List.length_mergeSort, List.length_eq_zero_iff, List.filterMap_eq_nil_iff]
  simp only [Option.map_eq_none_iff]

theorem walkable_iff {system : FileSystem} {path : String} {place : List String}
    (found : system.find path = .ok (place, .directory)) :
    system.Walkable path ↔ system.firstRefusal? path place = none := by
  rw [firstRefusal?_eq_none_iff]
  constructor
  · intro walkable
    exact walkable place found
  · intro bounded other foundAgain
    cases found.symm.trans foundAgain
    exact bounded

theorem walkable_of_isFile {system : FileSystem} {path : String}
    (isFile : system.isFile path = true) : system.Walkable path := by
  obtain ⟨place, content, found⟩ := (system.isFile_iff path).mp isFile
  intro other foundAgain
  cases found.symm.trans foundAgain

theorem holdsBelow_iff {system : FileSystem} {path : String} {place : List String}
    (found : system.find path = .ok (place, .directory)) (relative : List String) :
    system.HoldsBelow path relative ↔ relative ∈ system.below place := by
  rw [mem_below_iff]
  constructor
  · rintro ⟨proper, other, content, foundAgain, held⟩
    cases found.symm.trans foundAgain
    exact ⟨proper, content, held⟩
  · rintro ⟨proper, content, held⟩
    exact ⟨proper, place, content, found, held⟩

theorem ne_empty_of_find {system : FileSystem} {path : String} {place : List String}
    {entry : Entry} (found : system.find path = .ok (place, entry)) : path ≠ "" := by
  rintro rfl
  have refused : system.find "" = .error .notFound := rfl
  rw [refused] at found
  cases found

theorem isName_of_mem_contents {system : FileSystem} (named : system.ProperlyNamed)
    {file : List String × Except FileFault ByteArray} (isFile : file ∈ system.contents) :
    ∀ name ∈ file.1, Path.IsName name := by
  obtain ⟨listed, isListed, rfl⟩ := List.mem_map.mp isFile
  intro name isPart
  rcases List.mem_append.mp isPart with aboveTop | belowTop
  · obtain ⟨component, member, isText⟩ := List.mem_filterMap.mp aboveTop
    cases component <;> cases isText
    exact Path.isName_of_mem_components member
  · apply named listed.1 _ name belowTop
    simp only [List.mem_append, List.mem_map] at isListed ⊢
    rcases isListed with ⟨readable, member, rfl⟩ | ⟨unreadable, member, rfl⟩
    · exact .inl ⟨readable, member, rfl⟩
    · exact .inr ⟨unreadable, member, rfl⟩

/-- What lies below a directory has the components of the directory and then names. -/
theorem HoldsBelow.components_eq {system : FileSystem} (named : system.ProperlyNamed)
    {path : String} {relative : List String} (held : system.HoldsBelow path relative) :
    Path.components (relative.foldl Path.join path) =
      Path.components path ++ relative.map .name := by
  obtain ⟨place, content, found, isFile⟩ := held.isFile
  obtain ⟨file, member, continued⟩ := (system.occupant?_eq_file_iff _).mp ⟨content, isFile⟩
  apply Path.components_foldl_join (ne_empty_of_find found)
  intro name isPart
  apply isName_of_mem_contents named member
  rw [continued]
  exact List.mem_append_right _ isPart

/-- The test of a file below a directory, by what the patterns match. -/
theorem passes_iff {config : Config} {included excluded : List (List Glob.Piece)}
    (includes : compilePatterns (config.filesConfig.included.getD []) = .ok included)
    (excludes : compilePatterns (config.filesConfig.excluded.getD []) = .ok excluded)
    (name text : String) :
    (!configFileNames.contains name && matchesAny included text &&
        !matchesAny excluded text) = true ↔
      name ∉ configFileNames ∧ config.Includes text ∧ ¬ config.Excludes text := by
  rw [Config.Includes, Config.Excludes, ← matchesAny_iff includes, ← matchesAny_iff excludes,
    Bool.and_eq_true, Bool.and_eq_true, Bool.not_eq_true', Bool.not_eq_true',
    ← Bool.not_eq_true, ← Bool.not_eq_true, List.contains_iff_mem, and_assoc]

/-- The files of one argument, where they can be determined, are those it selects. -/
theorem mem_filesFor {system : FileSystem} {config : Config}
    {included excluded : List (List Glob.Piece)}
    (includes : compilePatterns (config.filesConfig.included.getD []) = .ok included)
    (excludes : compilePatterns (config.filesConfig.excluded.getD []) = .ok excluded)
    {argument : String} {files : List String}
    (answered : system.filesFor included excluded argument = .ok files) (path : String) :
    path ∈ files ↔ system.Selects config argument path := by
  rw [filesFor] at answered
  split at answered
  · rename_i place content found
    cases answered
    have isFile : system.isFile argument = true :=
      (system.isFile_iff argument).mpr ⟨place, content, found⟩
    have dropped : matchesAny excluded argument = true ↔ config.Excludes argument :=
      matchesAny_iff excludes argument
    constructor
    · intro member
      split at member
      · cases member
      · rename_i kept
        rw [List.mem_singleton] at member
        subst member
        exact .named isFile (by rwa [← dropped])
    · rintro (⟨-, kept⟩ | ⟨relative, ⟨-, other, _, foundAgain, -⟩, -⟩)
      · rw [if_neg (by rwa [dropped])]
        exact List.mem_singleton_self _
      · cases found.symm.trans foundAgain
  · rename_i place found
    split at answered
    · cases answered
    · cases answered
      simp only [List.mem_map, selectedBelow, List.mem_filter, passes_iff includes excludes,
        ← holdsBelow_iff found]
      constructor
      · rintro ⟨relative, ⟨held, ordinary, wanted, kept⟩, rfl⟩
        exact .below relative held ordinary wanted kept
      · rintro (⟨isFile, -⟩ | ⟨relative, held, ordinary, wanted, kept⟩)
        · obtain ⟨other, content, foundAgain⟩ := (system.isFile_iff argument).mp isFile
          cases found.symm.trans foundAgain
        · exact ⟨relative, ⟨held, ordinary, wanted, kept⟩, rfl⟩
  · cases answered
  · cases answered

theorem filesFor_of_walkable {system : FileSystem} {path : String} {place : List String}
    (found : system.find path = .ok (place, .directory)) (walkable : system.Walkable path)
    (included excluded : List (List Glob.Piece)) :
    system.filesFor included excluded path =
      .ok ((system.selectedBelow included excluded place).map fun relative =>
        relative.foldl Path.join path) := by
  rw [filesFor, found]
  dsimp only
  rw [(walkable_iff found).mp walkable]

theorem exists_filesFor_ok {system : FileSystem} {path : String} (present : system.Present path)
    (walkable : system.Walkable path) (included excluded : List (List Glob.Piece)) :
    ∃ files, system.filesFor included excluded path = .ok files := by
  rw [Present, isFile_iff, isDirectory_iff] at present
  rcases present with ⟨place, content, found⟩ | ⟨place, found⟩
  · rw [filesFor, found]
    exact ⟨_, rfl⟩
  · exact ⟨_, filesFor_of_walkable found walkable included excluded⟩

theorem exists_filesFor_error {system : FileSystem} {path : String}
    (missing : ¬ system.Present path) (included excluded : List (List Glob.Piece)) :
    ∃ error, system.filesFor included excluded path = .error error := by
  rw [Present, isFile_iff, isDirectory_iff] at missing
  rw [filesFor]
  split
  · rename_i place content found
    exact (missing (.inl ⟨place, content, found⟩)).elim
  · rename_i place found
    exact (missing (.inr ⟨place, found⟩)).elim
  · exact ⟨_, rfl⟩
  · exact ⟨_, rfl⟩

/-! ## What all arguments select -/

/-- Either some argument fails and with it the whole, or the files are those of all
arguments. -/
theorem filesForAll_cases (system : FileSystem) (included excluded : List (List Glob.Piece))
    (arguments : List String) :
    (∃ error, system.filesForAll included excluded arguments = .error error ∧
      ∃ argument ∈ arguments, system.filesFor included excluded argument = .error error) ∨
    ∃ files, system.filesForAll included excluded arguments = .ok files ∧
      (∀ argument ∈ arguments, ∃ own, system.filesFor included excluded argument = .ok own) ∧
      ∀ path, path ∈ files ↔ ∃ argument ∈ arguments, ∃ own,
        system.filesFor included excluded argument = .ok own ∧ path ∈ own := by
  induction arguments with
  | nil => exact .inr ⟨[], rfl, by simp, by simp⟩
  | cons argument rest ih =>
      rw [filesForAll]
      cases found : system.filesFor included excluded argument with
      | error error => exact .inl ⟨error, rfl, argument, List.mem_cons_self, found⟩
      | ok own =>
          rcases ih with ⟨error, failed, other, member, cause⟩ | ⟨files, foundRest, each, members⟩
          · rw [failed]
            exact .inl ⟨error, rfl, other, List.mem_cons_of_mem _ member, cause⟩
          · rw [foundRest]
            refine .inr ⟨own ++ files, rfl, ?_, ?_⟩
            · exact List.forall_mem_cons.mpr ⟨⟨own, found⟩, each⟩
            · intro path
              rw [List.mem_append, members, List.exists_mem_cons_iff, found]
              simp

theorem discoverFiles_of_compiled {system : FileSystem} {config : Config}
    {included excluded : List (List Glob.Piece)}
    (includes : compilePatterns (config.filesConfig.included.getD []) = .ok included)
    (excludes : compilePatterns (config.filesConfig.excluded.getD []) = .ok excluded)
    (arguments : List String) :
    system.discoverFiles config arguments =
      (system.filesForAll included excluded arguments).map sortPaths := by
  rw [discoverFiles, includes, excludes]

theorem exists_compiled_of_discoverFiles {system : FileSystem} {config : Config}
    {arguments files : List String} (found : system.discoverFiles config arguments = .ok files) :
    ∃ included excluded,
      compilePatterns (config.filesConfig.included.getD []) = .ok included ∧
      compilePatterns (config.filesConfig.excluded.getD []) = .ok excluded := by
  rw [discoverFiles] at found
  split at found
  · cases found
  · rename_i included includes
    split at found
    · cases found
    · rename_i excluded excludes
      exact ⟨included, excluded, includes, excludes⟩

/-- The discovered files are the sorted union of what the arguments select. -/
theorem exists_union_of_discoverFiles {system : FileSystem} {config : Config}
    {arguments files : List String} (found : system.discoverFiles config arguments = .ok files) :
    ∃ union, files = sortPaths union ∧
      ∀ path, path ∈ union ↔ ∃ argument ∈ arguments, system.Selects config argument path := by
  obtain ⟨included, excluded, includes, excludes⟩ := exists_compiled_of_discoverFiles found
  rw [discoverFiles_of_compiled includes excludes] at found
  rcases system.filesForAll_cases included excluded arguments with
    ⟨error, failed, -⟩ | ⟨union, united, each, members⟩
  · rw [failed] at found
    cases found
  · rw [united] at found
    cases found
    refine ⟨union, rfl, ?_⟩
    intro path
    rw [members]
    constructor
    · rintro ⟨argument, member, own, foundOwn, listed⟩
      exact ⟨argument, member, (mem_filesFor includes excludes foundOwn path).mp listed⟩
    · rintro ⟨argument, member, selects⟩
      obtain ⟨own, foundOwn⟩ := each argument member
      exact ⟨argument, member, own, foundOwn,
        (mem_filesFor includes excludes foundOwn path).mpr selects⟩

theorem exists_discoverFiles_ok {system : FileSystem} {config : Config} {arguments : List String}
    (valid : config.PatternsValid)
    (present : ∀ argument ∈ arguments, system.Present argument)
    (walkable : ∀ argument ∈ arguments, system.Walkable argument) :
    ∃ files, system.discoverFiles config arguments = .ok files := by
  obtain ⟨included, includes⟩ := exists_compilePatterns_ok fun pattern member =>
    valid pattern (List.mem_append_left _ member)
  obtain ⟨excluded, excludes⟩ := exists_compilePatterns_ok fun pattern member =>
    valid pattern (List.mem_append_right _ member)
  rw [discoverFiles_of_compiled includes excludes]
  rcases system.filesForAll_cases included excluded arguments with
    ⟨error, -, argument, member, failed⟩ | ⟨union, united, -⟩
  · obtain ⟨own, foundOwn⟩ :=
      exists_filesFor_ok (present argument member) (walkable argument member) included excluded
    rw [foundOwn] at failed
    cases failed
  · rw [united]
    exact ⟨_, rfl⟩

theorem exists_discoverFiles_error {system : FileSystem} {arguments : List String}
    (missing : ∃ argument ∈ arguments, ¬ system.Present argument) (config : Config) :
    ∃ error, system.discoverFiles config arguments = .error error := by
  cases found : system.discoverFiles config arguments with
  | error error => exact ⟨error, rfl⟩
  | ok files =>
      obtain ⟨included, excluded, includes, excludes⟩ := exists_compiled_of_discoverFiles found
      rw [discoverFiles_of_compiled includes excludes] at found
      obtain ⟨argument, member, absent⟩ := missing
      obtain ⟨error, failed⟩ := exists_filesFor_error absent included excluded
      rcases system.filesForAll_cases included excluded arguments with
        ⟨cause, stopped, -⟩ | ⟨union, -, each, -⟩
      · rw [stopped] at found
        cases found
      · obtain ⟨own, foundOwn⟩ := each argument member
        rw [failed] at foundOwn
        cases foundOwn

/-- The discovered files increase strictly, and up to how paths are written they are
the paths that some argument selects. -/
theorem discoverFiles_spec {system : FileSystem} {config : Config} {arguments files : List String}
    (found : system.discoverFiles config arguments = .ok files) :
    (files.Pairwise fun first second => Path.compare first second = .lt) ∧
    ∀ path, path ∈ files.map Path.components ↔
      ∃ argument ∈ arguments, ∃ selected,
        system.Selects config argument selected ∧ Path.components selected = path := by
  obtain ⟨union, rfl, members⟩ := exists_union_of_discoverFiles found
  refine ⟨pairwise_sortPaths union, ?_⟩
  intro path
  rw [mem_map_components_sortPaths, List.mem_map]
  constructor
  · rintro ⟨selected, listed, rfl⟩
    obtain ⟨argument, member, selects⟩ := (members selected).mp listed
    exact ⟨argument, member, selected, selects, rfl⟩
  · rintro ⟨argument, member, selected, selects, rfl⟩
    exact ⟨selected, (members selected).mpr ⟨argument, member, selects⟩, rfl⟩

end FileSystem

theorem forall₂_same_iff {left right : List String} :
    List.Forall₂ (fun first second => Path.same first second = true) left right ↔
      left.map Path.components = right.map Path.components := by
  simp only [Path.same_iff]
  have mapped : List.Forall₂ (· = ·) (left.map Path.components) (right.map Path.components) ↔
      List.Forall₂ (fun first second => Path.components first = Path.components second)
        left right := by
    rw [List.forall₂_map_left_iff, List.forall₂_map_right_iff]
  rw [← mapped, List.forall₂_eq_eq_eq]

/-- For valid patterns and arguments that exist as files or as directories that can be
listed all the way down, the discovered files increase strictly in the order of paths.
They are, up to how paths are written, the named files that are not excluded and the
files below named directories that are no configuration files and whose path from there
is included and not excluded.  Arguments in another order give the same files.  If some
argument leads to neither a file nor a directory, the discovery fails in every order.
A path below a directory is the path of the directory continued by names. -/
theorem discovery_selects_exactly (system : FileSystem) (config : Config)
    (arguments : List String) :
    (config.PatternsValid → (∀ argument ∈ arguments, system.Present argument) →
      (∀ argument ∈ arguments, system.Walkable argument) →
      ∃ files, system.discoverFiles config arguments = .ok files ∧
        (files.Pairwise fun first second => Path.compare first second = .lt) ∧
        (∀ path, (∃ file ∈ files, Path.same file path = true) ↔
          ∃ argument ∈ arguments, ∃ selected,
            system.Selects config argument selected ∧ Path.same selected path = true) ∧
        ∀ rearranged, rearranged.Perm arguments →
          ∃ others, system.discoverFiles config rearranged = .ok others ∧
            List.Forall₂ (fun file other => Path.same file other = true) files others) ∧
    ((∃ argument ∈ arguments, ¬ system.Present argument) →
      ∀ rearranged, rearranged.Perm arguments →
        ∃ error, system.discoverFiles config rearranged = .error error) ∧
    (system.ProperlyNamed → ∀ argument relative, system.HoldsBelow argument relative →
      Path.components (relative.foldl Path.join argument) =
        Path.components argument ++ relative.map .name) := by
  refine ⟨?_, ?_, ?_⟩
  · intro valid present walkable
    obtain ⟨files, found⟩ := FileSystem.exists_discoverFiles_ok valid present walkable
    obtain ⟨increasing, members⟩ := FileSystem.discoverFiles_spec found
    refine ⟨files, found, increasing, ?_, ?_⟩
    · intro path
      simp only [Path.same_iff]
      rw [← members, List.mem_map]
    · intro rearranged order
      obtain ⟨others, foundOthers⟩ := FileSystem.exists_discoverFiles_ok valid
        (fun argument member => present argument (order.subset member))
        (fun argument member => walkable argument (order.subset member))
      obtain ⟨othersIncrease, otherMembers⟩ := FileSystem.discoverFiles_spec foundOthers
      refine ⟨others, foundOthers, forall₂_same_iff.mpr ?_⟩
      apply map_components_eq_of_increasing increasing othersIncrease
      intro path
      rw [members, otherMembers]
      simp only [order.mem_iff]
  · rintro ⟨argument, member, missing⟩ rearranged order
    exact FileSystem.exists_discoverFiles_error
      ⟨argument, order.mem_iff.mpr member, missing⟩ config
  · intro named argument relative held
    exact held.components_eq named

/-- Two files in two directories, one inside the other, and a link to the inner one. -/
def nestedFiles : FileSystem where
  base := "/home"
  working := ["d"]
  files := [(["d", "a"], .empty), (["d", "e", "b"], .empty)]
  directories := []
  links := [(["d", "l"], "e")]

/-- Seen from the outer directory the inner file is excluded. -/
def innerExcluded : Config where
  files := some ⟨some ["*"], some ["e/*"]⟩

namespace nestedFiles

theorem isFile_inner : nestedFiles.isFile "../d//e/b" = true := rfl

theorem find_outer : nestedFiles.find "/home/d" = .ok (["home", "d"], .directory) := rfl

theorem find_root : nestedFiles.find "/" = .ok ([], .directory) := rfl

theorem find_link : nestedFiles.find "l" = .ok (["home", "d", "e"], .directory) := rfl

theorem find_absent : nestedFiles.find "/f" = .error .notFound := rfl

theorem holdsBelow_root : nestedFiles.HoldsBelow "/" ["home", "d", "e", "b"] :=
  ⟨by simp, [], .ok .empty, find_root, rfl⟩

end nestedFiles

theorem innerExcluded_patternsValid : innerExcluded.PatternsValid := by
  intro pattern member
  rcases List.mem_pair.mp member with rfl | rfl
  · exact ⟨[.anySequence], by decide +kernel⟩
  · exact ⟨[.char 'e', .char '/', .anySequence], by decide +kernel⟩

theorem nestedFiles_discovered :
    (∃ files others,
      nestedFiles.discoverFiles innerExcluded ["../d//e/b", "/home/d", "/", "l"] = .ok files ∧
      nestedFiles.discoverFiles innerExcluded ["l", "/", "/home/d", "../d//e/b"] = .ok others ∧
      List.Forall₂ (fun file other => Path.same file other = true) files others ∧
      (files.Pairwise fun first second => Path.compare first second = .lt) ∧
      (∃ file ∈ files, Path.same file "../d/e/b" = true) ∧
      ∃ file ∈ files, Path.same file "/home/d/e/b" = true) ∧
    (∃ error, nestedFiles.discoverFiles innerExcluded ["/home/d", "/f"] = .error error) ∧
    Path.components "/home/d/e/b" =
      Path.components "/" ++ [.name "home", .name "d", .name "e", .name "b"] := by
  have path : ["home", "d", "e", "b"].foldl Path.join "/" = "/home/d/e/b" := by
    decide +kernel
  have includes : compilePatterns (innerExcluded.filesConfig.included.getD []) =
      .ok [[.anySequence]] := by decide +kernel
  have excludes : compilePatterns (innerExcluded.filesConfig.excluded.getD []) =
      .ok [[.char 'e', .char '/', .anySequence]] := by decide +kernel
  have present : ∀ argument ∈ ["../d//e/b", "/home/d", "/", "l"],
      nestedFiles.Present argument := by
    simp only [List.forall_mem_cons, FileSystem.Present, FileSystem.isDirectory_iff]
    exact ⟨.inl nestedFiles.isFile_inner, .inr ⟨_, nestedFiles.find_outer⟩,
      .inr ⟨_, nestedFiles.find_root⟩, .inr ⟨_, nestedFiles.find_link⟩, by simp⟩
  have walkable : ∀ argument ∈ ["../d//e/b", "/home/d", "/", "l"],
      nestedFiles.Walkable argument := by
    simp only [List.forall_mem_cons, FileSystem.walkable_iff nestedFiles.find_outer,
      FileSystem.walkable_iff nestedFiles.find_root,
      FileSystem.walkable_iff nestedFiles.find_link, FileSystem.firstRefusal?_eq_none_iff]
    exact ⟨FileSystem.walkable_of_isFile nestedFiles.isFile_inner, by decide +kernel,
      by decide +kernel, by decide +kernel, by simp⟩
  obtain ⟨selection, -, below⟩ :=
    discovery_selects_exactly nestedFiles innerExcluded ["../d//e/b", "/home/d", "/", "l"]
  obtain ⟨files, found, increasing, members, order⟩ :=
    selection innerExcluded_patternsValid present walkable
  obtain ⟨others, foundOthers, same⟩ := order ["l", "/", "/home/d", "../d//e/b"] (by decide)
  refine ⟨⟨files, others, found, foundOthers, same, increasing, ?_, ?_⟩, ?_, ?_⟩
  · have kept : ¬ innerExcluded.Excludes "../d//e/b" := by
      rw [Config.Excludes, ← matchesAny_iff excludes]
      decide +kernel
    exact (members "../d/e/b").mpr
      ⟨"../d//e/b", by simp, _, .named nestedFiles.isFile_inner kept, by decide +kernel⟩
  · have text : String.intercalate "/" ["home", "d", "e", "b"] = "home/d/e/b" := rfl
    have wanted : innerExcluded.Includes "home/d/e/b" := by
      rw [Config.Includes, ← matchesAny_iff includes]
      decide +kernel
    have kept : ¬ innerExcluded.Excludes "home/d/e/b" := by
      rw [Config.Excludes, ← matchesAny_iff excludes]
      decide +kernel
    have selected : nestedFiles.Selects innerExcluded "/" "/home/d/e/b" := by
      rw [← path]
      exact .below _ nestedFiles.holdsBelow_root (by decide) (by rwa [text]) (by rwa [text])
    exact (members "/home/d/e/b").mpr ⟨"/", by simp, _, selected, by decide +kernel⟩
  · obtain ⟨-, fails, -⟩ := discovery_selects_exactly nestedFiles innerExcluded ["/home/d", "/f"]
    have missing : ¬ nestedFiles.Present "/f" := by
      simp [FileSystem.Present, FileSystem.isFile, FileSystem.isDirectory, nestedFiles.find_absent]
    exact fails ⟨"/f", by simp, missing⟩ _ (.refl _)
  · have proper : nestedFiles.ProperlyNamed := by
      unfold FileSystem.ProperlyNamed
      decide +kernel
    rw [← path]
    exact below proper "/" _ nestedFiles.holdsBelow_root

end TreeLint
