import TreeLint.Proofs.Discovery

/-!
# Patterns to include that are left out

A configuration without a files section has default patterns to include, and
patterns to exclude from the command line leave them in place.  A files section
that gives no patterns to include has no such default: its list is empty, nothing
below a directory matches, and of the arguments only the named files are left.
The discovery agrees with the documented default exactly where every file that the
default would find below a directory is named as well.
-/

namespace TreeLint

/-- The configuration with these patterns to include and all else as it was. -/
def Config.including (config : Config) (patterns : List String) : Config :=
  { config with files := some { config.filesConfig with included := some patterns } }

namespace FileSystem

variable {system : FileSystem}

theorem included_withPatterns {config : Config} {files : FilesConfig}
    (given : config.files = some files) (unset : files.included = none)
    (excluded : List String) : (withPatterns config [] excluded).filesConfig.included = none := by
  cases excluded <;> simp [withPatterns, Config.filesConfig, given, unset]

/-! ## Failures do not depend on the patterns to include -/

theorem filesFor_error {included excluded : List (List Glob.Piece)} {path : String}
    {error : DiscoveryError} (failed : system.filesFor included excluded path = .error error)
    (others : List (List Glob.Piece)) : system.filesFor others excluded path = .error error := by
  rw [filesFor] at failed ⊢
  split at failed
  · cases failed
  · split at failed
    · exact failed
    · cases failed
  · exact failed
  · exact failed

theorem filesForAll_error {included excluded : List (List Glob.Piece)} {arguments : List String}
    {error : DiscoveryError}
    (failed : system.filesForAll included excluded arguments = .error error)
    (others : List (List Glob.Piece)) :
    system.filesForAll others excluded arguments = .error error := by
  induction arguments with
  | nil => cases failed
  | cons argument rest ih =>
      rw [filesForAll] at failed ⊢
      cases found : system.filesFor included excluded argument with
      | error cause =>
          rw [found] at failed
          rw [filesFor_error found others]
          exact failed
      | ok own =>
          rw [found] at failed
          cases foundOthers : system.filesFor others excluded argument with
          | error cause =>
              rw [filesFor_error foundOthers included] at found
              cases found
          | ok ownOthers =>
              cases failedRest : system.filesForAll included excluded rest with
              | ok files =>
                  rw [failedRest] at failed
                  cases failed
              | error cause =>
                  rw [failedRest] at failed
                  cases failed
                  dsimp only
                  rw [ih failedRest]
                  rfl

/-- With other valid patterns to include the discovery fails where it failed before, and
for the same reason. -/
theorem discoverFiles_error_iff {config : Config} {patterns : List String}
    (valid : ∀ pattern ∈ config.filesConfig.included.getD [], ∃ pieces,
      Glob.parse pattern = .ok pieces)
    (othersValid : ∀ pattern ∈ patterns, ∃ pieces, Glob.parse pattern = .ok pieces)
    (arguments : List String) (error : DiscoveryError) :
    system.discoverFiles config arguments = .error error ↔
      system.discoverFiles (config.including patterns) arguments = .error error := by
  obtain ⟨included, includes⟩ := exists_compilePatterns_ok valid
  obtain ⟨others, othersIncludes⟩ := exists_compilePatterns_ok othersValid
  have replaced : (config.including patterns).filesConfig.included.getD [] = patterns := rfl
  have untouched : (config.including patterns).filesConfig.excluded =
      config.filesConfig.excluded := rfl
  rw [discoverFiles, discoverFiles, includes, replaced, othersIncludes, untouched]
  dsimp only
  split
  · rfl
  · rename_i excluded _
    have failing : ∀ first second : List (List Glob.Piece),
        (system.filesForAll first excluded arguments).map sortPaths = .error error →
          (system.filesForAll second excluded arguments).map sortPaths = .error error := by
      intro first second failed
      cases found : system.filesForAll first excluded arguments with
      | ok files =>
          rw [found] at failed
          cases failed
      | error cause =>
          rw [found] at failed
          rw [filesForAll_error found second]
          exact failed
    exact ⟨failing included others, failing others included⟩

/-! ## What is selected -/

/-- Without patterns to include an argument selects nothing but itself. -/
theorem selects_iff_of_unset {config : Config} (unset : config.filesConfig.included = none)
    (argument path : String) :
    system.Selects config argument path ↔
      path = argument ∧ system.isFile argument = true ∧ ¬ config.Excludes argument := by
  constructor
  · rintro (⟨isFile, kept⟩ | ⟨relative, -, -, ⟨pattern, member, -⟩, -⟩)
    · exact ⟨rfl, isFile, kept⟩
    · rw [unset] at member
      cases member
  · rintro ⟨rfl, isFile, kept⟩
    exact .named isFile kept

/-- The discovery finds the files that it finds with other patterns to include exactly if
each of these is a named file. -/
theorem forall₂_same_including_iff {config : Config}
    (unset : config.filesConfig.included = none) {patterns arguments files expected : List String}
    (found : system.discoverFiles config arguments = .ok files)
    (foundExpected : system.discoverFiles (config.including patterns) arguments = .ok expected) :
    List.Forall₂ (fun file other => Path.same file other = true) files expected ↔
      ∀ argument ∈ arguments, ∀ selected,
        system.Selects (config.including patterns) argument selected →
          ∃ named ∈ arguments, system.isFile named = true ∧ ¬ config.Excludes named ∧
            Path.same named selected = true := by
  obtain ⟨increasing, members⟩ := discoverFiles_spec found
  obtain ⟨expectedIncreases, expectedMembers⟩ := discoverFiles_spec foundExpected
  simp only [selects_iff_of_unset unset] at members
  rw [forall₂_same_iff]
  constructor
  · intro equal argument member selected selects
    have listed := (expectedMembers (Path.components selected)).mpr
      ⟨argument, member, selected, selects, rfl⟩
    rw [← equal, members] at listed
    obtain ⟨named, isArgument, _, ⟨rfl, isFile, kept⟩, same⟩ := listed
    exact ⟨_, isArgument, isFile, kept, Path.same_iff.mpr same⟩
  · intro covered
    apply map_components_eq_of_increasing increasing expectedIncreases
    intro path
    rw [members, expectedMembers]
    constructor
    · rintro ⟨argument, member, _, ⟨rfl, isFile, kept⟩, same⟩
      exact ⟨_, member, _, .named isFile kept, same⟩
    · rintro ⟨argument, member, selected, selects, rfl⟩
      obtain ⟨named, isArgument, isFile, kept, same⟩ := covered argument member selected selects
      exact ⟨named, isArgument, named, ⟨rfl, isFile, kept⟩, Path.same_iff.mp same⟩

end FileSystem

/-- A files section without patterns to include acts like one with an empty list, whatever
the command line excludes: only named files are found, and nothing below a directory.
It fails like the documented default does.  Where both find files, they find the same
ones exactly if every file that the default selects is also named and not excluded. -/
theorem unset_include_finds_named_only (system : FileSystem) {config : Config}
    {files : FilesConfig} (given : config.files = some files) (unset : files.included = none)
    (excluded arguments : List String) :
    let applied := FileSystem.withPatterns config [] excluded
    let documented := applied.including ["**/*.json"]
    system.discoverFiles applied arguments =
      system.discoverFiles (applied.including []) arguments ∧
    (∀ error, system.discoverFiles applied arguments = .error error ↔
      system.discoverFiles documented arguments = .error error) ∧
    ∀ found, system.discoverFiles applied arguments = .ok found →
      (∀ path ∈ found,
        path ∈ arguments ∧ system.isFile path = true ∧ ¬ applied.Excludes path) ∧
      ∀ expected, system.discoverFiles documented arguments = .ok expected →
        (List.Forall₂ (fun file other => Path.same file other = true) found expected ↔
          ∀ argument ∈ arguments, ∀ selected, system.Selects documented argument selected →
            ∃ named ∈ arguments, system.isFile named = true ∧ ¬ applied.Excludes named ∧
              Path.same named selected = true) := by
  intro applied documented
  have noPatterns : applied.filesConfig.included = none :=
    FileSystem.included_withPatterns given unset excluded
  refine ⟨?_, ?_, ?_⟩
  · have same : (applied.including []).filesConfig.included.getD [] =
        applied.filesConfig.included.getD [] := by
      rw [noPatterns]
      rfl
    have untouched : (applied.including []).filesConfig.excluded =
        applied.filesConfig.excluded := rfl
    rw [FileSystem.discoverFiles, FileSystem.discoverFiles, same, untouched]
  · intro error
    apply FileSystem.discoverFiles_error_iff
    · rw [noPatterns]
      simp
    · intro pattern member
      rw [List.mem_singleton] at member
      subst member
      exact ⟨_, (List.forall₂_cons.mp (compilePatterns_ok compilePatterns_json)).1⟩
  · intro found discovered
    constructor
    · intro path listed
      obtain ⟨union, rfl, members⟩ := FileSystem.exists_union_of_discoverFiles discovered
      obtain ⟨argument, member, selects⟩ := (members path).mp (sortPaths_subset listed)
      obtain ⟨rfl, isFile, kept⟩ :=
        (FileSystem.selects_iff_of_unset noPatterns argument path).mp selects
      exact ⟨member, isFile, kept⟩
    · intro expected discoveredExpected
      exact FileSystem.forall₂_same_including_iff noPatterns discovered discoveredExpected

/-- One tree below a directory. -/
def oneTree : FileSystem where
  base := "/"
  working := []
  files := [(["d", "a.json"], .empty)]
  directories := []

def onlyExcluded : Config where
  files := some ⟨none, some ["**/target/**"]⟩

theorem discoverFiles_oneTree (config : Config) {included excluded : List (List Glob.Piece)}
    (includes : compilePatterns (config.filesConfig.included.getD []) = .ok included)
    (excludes : compilePatterns (config.filesConfig.excluded.getD []) = .ok excluded) :
    oneTree.discoverFiles config ["d"] =
      .ok (sortPaths ((oneTree.selectedBelow included excluded ["d"]).map fun relative =>
        relative.foldl Path.join "d")) := by
  have found : oneTree.find "d" = .ok (["d"], .directory) := rfl
  have walkable : oneTree.Walkable "d" := by
    rw [FileSystem.walkable_iff found, FileSystem.firstRefusal?_eq_none_iff]
    decide +kernel
  rw [FileSystem.discoverFiles_of_compiled includes excludes, FileSystem.filesForAll,
    FileSystem.filesFor_of_walkable found walkable]
  simp only [FileSystem.filesForAll, Except.map, List.append_nil]

theorem compilePatterns_target : compilePatterns ["**/target/**"] =
    .ok [.anyDirectories :: "target/".toList.map .char ++ [.anyDirectories]] := by
  decide +kernel

theorem discoverFiles_onlyExcluded : oneTree.discoverFiles onlyExcluded ["d"] = .ok [] := by
  have nothing : oneTree.selectedBelow []
      [.anyDirectories :: "target/".toList.map .char ++ [.anyDirectories]] ["d"] = [] := by
    decide +kernel
  rw [discoverFiles_oneTree onlyExcluded rfl compilePatterns_target, nothing, List.map_nil, sortPaths_nil]

theorem discoverFiles_onlyExcluded_including :
    oneTree.discoverFiles (onlyExcluded.including ["**/*.json"]) ["d"] = .ok ["d/a.json"] := by
  have selected : oneTree.selectedBelow
      [.anyDirectories :: .anySequence :: ".json".toList.map .char]
      [.anyDirectories :: "target/".toList.map .char ++ [.anyDirectories]] ["d"] =
        [["a.json"]] := by
    decide +kernel
  have path : ["a.json"].foldl Path.join "d" = "d/a.json" := by decide +kernel
  rw [discoverFiles_oneTree (onlyExcluded.including _) compilePatterns_json
    compilePatterns_target, selected, List.map_singleton, path, sortPaths_singleton]

theorem onlyExcluded_misses_unnamed :
    oneTree.discoverFiles onlyExcluded ["d"] =
      oneTree.discoverFiles (onlyExcluded.including []) ["d"] ∧
    ¬ ∀ selected,
      oneTree.Selects (onlyExcluded.including ["**/*.json"]) "d" selected →
        oneTree.isFile "d" = true ∧ ¬ onlyExcluded.Excludes "d" ∧
          Path.same "d" selected = true := by
  obtain ⟨empty, -, spec⟩ := unset_include_finds_named_only oneTree
    (show onlyExcluded.files = some ⟨none, some ["**/target/**"]⟩ from rfl) rfl [] ["d"]
  refine ⟨empty, ?_⟩
  obtain ⟨-, agree⟩ := spec [] discoverFiles_onlyExcluded
  intro named
  have same := (agree ["d/a.json"] discoverFiles_onlyExcluded_including).mpr (by
    intro argument member selected selects
    rw [List.mem_singleton] at member
    subst member
    exact ⟨_, List.mem_singleton_self _, named selected selects⟩)
  cases same

/-- The documented default does not stand in for a list that a files section leaves out. -/
theorem unset_include_is_not_default :
    ¬ ∀ (system : FileSystem) (config : Config) (files : FilesConfig)
      (excluded arguments : List String), config.files = some files → files.included = none →
        system.discoverFiles (FileSystem.withPatterns config [] excluded) arguments =
          system.discoverFiles
            ((FileSystem.withPatterns config [] excluded).including ["**/*.json"]) arguments := by
  intro default
  have same : oneTree.discoverFiles onlyExcluded ["d"] =
      oneTree.discoverFiles (onlyExcluded.including ["**/*.json"]) ["d"] :=
    default oneTree onlyExcluded _ [] ["d"] rfl rfl
  rw [discoverFiles_onlyExcluded, discoverFiles_onlyExcluded_including] at same
  cases same

end TreeLint
