import Mathlib.Data.List.Sort
import TreeLint.Command.Discover

/-!
# Paths by their components

Two paths are the same if they have the same components, however often a slash is
repeated and wherever a dot stands between slashes.  Going down to an entry of a
directory adds one component.  Paths are compared component by component, and among
components the order is total.  A sorted list of paths therefore depends, up to the
way its paths are written, only on the set of component lists that went into it.
-/

namespace TreeLint

open Std

namespace Path

/-! ## Joining -/

/-- The text can be the name of an entry of a directory. -/
structure IsName (text : String) : Prop where
  notEmpty : text ≠ ""
  notCurrent : text ≠ "."
  notParent : text ≠ ".."
  noSlash : '/' ∉ text.toList

instance (text : String) : Decidable (IsName text) :=
  decidable_of_iff (text ≠ "" ∧ text ≠ "." ∧ text ≠ ".." ∧ '/' ∉ text.toList)
    ⟨fun ⟨notEmpty, notCurrent, notParent, noSlash⟩ => ⟨notEmpty, notCurrent, notParent, noSlash⟩,
      fun isName => ⟨isName.notEmpty, isName.notCurrent, isName.notParent, isName.noSlash⟩⟩

/-- What the text before the first slash stands for. -/
def leading (piece : String) : List Component :=
  if piece = "" then [.root] else if piece = "." then [.current] else ofPieces [piece]

theorem eq_of_pieces_eq_singleton {path piece : String} (whole : pieces path = [piece]) :
    path = piece := by
  obtain ⟨chars, divided, rfl⟩ := List.map_eq_singleton_iff.mp whole
  have joined : ['/'].intercalate (path.toList.splitOn '/') = path.toList :=
    List.intercalate_splitOn '/'
  rw [divided, List.intercalate_singleton] at joined
  rw [joined, String.ofList_toList]

theorem ofPieces_append (first second : List String) :
    ofPieces (first ++ second) = ofPieces first ++ ofPieces second :=
  List.filterMap_append

/-- A path begins with what its leading piece stands for. -/
theorem components_of_pieces {path first : String} {rest : List String} (notEmpty : path ≠ "")
    (divided : pieces path = first :: rest) :
    components path = leading first ++ ofPieces rest := by
  rw [components, divided]
  cases rest with
  | nil =>
      rw [eq_of_pieces_eq_singleton divided] at notEmpty
      simp [leading, notEmpty, ofPieces]
  | cons second rest =>
      by_cases isRoot : first = ""
      · simp [leading, isRoot]
      · by_cases isCurrent : first = "."
        · simp [leading, isCurrent]
        · simp only [leading, isRoot, isCurrent, if_false]
          rw [← ofPieces_append, List.singleton_append]
          split <;> simp_all

theorem pieces_ne_nil (path : String) : pieces path ≠ [] := by
  rw [pieces, ne_eq, List.map_eq_nil_iff]
  exact List.splitOn_ne_nil _ _

theorem pieces_append (directory entry : String) :
    pieces (directory ++ "/" ++ entry) = pieces directory ++ pieces entry := by
  have text : (directory ++ "/" ++ entry).toList = directory.toList ++ '/' :: entry.toList := by
    simp
  rw [pieces, text, List.splitOn_append_cons_self, List.map_append]
  rfl

theorem IsName.pieces_eq {text : String} (isName : IsName text) : pieces text = [text] := by
  rw [pieces, List.splitOn_eq_singleton isName.noSlash, List.map_singleton, String.ofList_toList]

theorem IsName.ofPieces_eq {text : String} (isName : IsName text) :
    ofPieces [text] = [.name text] := by
  simp [ofPieces, isName.notEmpty, isName.notCurrent, isName.notParent]

/-- The last piece of a directory is empty where its path ends in a slash; in the path of
an entry the name takes its place. -/
theorem pieces_join (directory : String) {entry : String} (isName : IsName entry) :
    ∃ first rest last, pieces directory = first :: (rest ++ last) ∧ ofPieces last = [] ∧
      pieces (join directory entry) = first :: (rest ++ [entry]) := by
  rw [join]
  split
  · rename_i endsWithSlash
    obtain ⟨front, rfl⟩ := String.endsWith_char_iff_exists_append.mp endsWithSlash
    obtain ⟨first, rest, divided⟩ := List.exists_cons_of_ne_nil (pieces_ne_nil front)
    have slash : String.singleton '/' = "/" := rfl
    refine ⟨first, rest, [""], ?_, rfl, ?_⟩
    · have behind := pieces_append front ""
      rwa [String.append_empty, divided, List.cons_append] at behind
    · rw [slash, pieces_append, divided, isName.pieces_eq, List.cons_append]
  · obtain ⟨first, rest, divided⟩ := List.exists_cons_of_ne_nil (pieces_ne_nil directory)
    refine ⟨first, rest, [], ?_, rfl, ?_⟩
    · rw [divided, List.append_nil]
    · rw [pieces_append, divided, isName.pieces_eq, List.cons_append]

theorem join_ne_empty (directory : String) {entry : String} (isName : IsName entry) :
    join directory entry ≠ "" := by
  rw [join]
  split <;> simp [isName.notEmpty]

/-- The path of an entry has the components of the directory and then the name. -/
theorem components_join {directory entry : String} (notEmpty : directory ≠ "")
    (isName : IsName entry) :
    components (join directory entry) = components directory ++ [.name entry] := by
  obtain ⟨first, rest, last, divided, lastEmpty, joined⟩ := pieces_join directory isName
  rw [components_of_pieces (join_ne_empty directory isName) joined,
    components_of_pieces notEmpty divided, ofPieces_append, ofPieces_append, lastEmpty,
    isName.ofPieces_eq, List.append_nil, List.append_assoc]

theorem components_foldl_join {directory : String} (notEmpty : directory ≠ "")
    {relative : List String} (names : ∀ name ∈ relative, IsName name) :
    components (relative.foldl join directory) =
      components directory ++ relative.map .name := by
  induction relative generalizing directory with
  | nil => simp
  | cons name rest ih =>
      obtain ⟨isName, others⟩ := List.forall_mem_cons.mp names
      rw [List.foldl_cons, ih (join_ne_empty directory isName) others,
        components_join notEmpty isName, List.append_assoc, List.map_cons,
        List.singleton_append]

/-! ## Names among the components -/

theorem separator_not_mem_splitOn {separator : Char} {chars : List Char} :
    ∀ part ∈ chars.splitOn separator, separator ∉ part := by
  induction chars with
  | nil => simp
  | cons c rest ih =>
      obtain ⟨first, others, divided⟩ :=
        List.exists_cons_of_ne_nil (List.splitOn_ne_nil separator rest)
      rw [divided, List.forall_mem_cons] at ih
      rw [List.splitOn_eq_splitOnP] at divided
      rw [List.splitOn_eq_splitOnP, List.splitOnP_cons_eq_if_modifyHead, divided]
      by_cases isSeparator : c = separator
      · simpa [isSeparator] using ih
      · simpa [isSeparator, Ne.symm isSeparator] using ih

theorem isName_of_mem_ofPieces {pieces : List String}
    (plain : ∀ piece ∈ pieces, '/' ∉ piece.toList) {text : String}
    (member : .name text ∈ ofPieces pieces) : IsName text := by
  obtain ⟨piece, isPiece, stands⟩ := List.mem_filterMap.mp member
  split at stands
  · cases stands
  · rename_i notEmpty
    split at stands
    · cases stands
    · rename_i notParent
      cases stands
      simp only [Bool.or_eq_true, beq_iff_eq, not_or] at notEmpty notParent
      exact ⟨notEmpty.1, notEmpty.2, notParent, plain _ isPiece⟩

/-- The names in a path can be names of entries. -/
theorem isName_of_mem_components {path text : String}
    (member : .name text ∈ components path) : IsName text := by
  have plain : ∀ piece ∈ pieces path, '/' ∉ piece.toList := by
    intro piece isPiece
    obtain ⟨chars, divided, rfl⟩ := List.mem_map.mp isPiece
    rw [String.toList_ofList]
    exact separator_not_mem_splitOn chars divided
  unfold components at member
  split at member
  · rename_i piece whole
    rw [whole] at plain
    split at member
    · simp at member
    · exact isName_of_mem_ofPieces plain member
  · rename_i behind divided
    rw [divided, List.forall_mem_cons] at plain
    exact isName_of_mem_ofPieces plain.2 (by simpa using member)
  · rename_i behind divided
    rw [divided, List.forall_mem_cons] at plain
    exact isName_of_mem_ofPieces plain.2 (by simpa using member)
  · exact isName_of_mem_ofPieces plain member

/-! ## Order -/

/-- The text of a name; the other components are told apart by their rank. -/
def Component.text : Component → String
  | .name text => text
  | _ => ""

theorem Component.compare_eq_compareLex :
    Component.compare = compareLex (compareOn Component.rank) (compareOn Component.text) := by
  funext first second
  cases first <;> cases second <;> rfl

theorem compareComponents_eq_compareLex :
    compareComponents = List.compareLex Component.compare := by
  funext first second
  fun_induction compareComponents first second with
  | case1 => rfl
  | case2 => rfl
  | case3 => rfl
  | case4 first firsts second seconds equal ih =>
      rw [List.compareLex_cons_cons, equal, ih]
      rfl
  | case5 first firsts second seconds different =>
      rw [List.compareLex_cons_cons]
      cases order : first.compare second with
      | eq => exact (different order).elim
      | lt => rfl
      | gt => rfl

instance : TransCmp compareComponents := by
  rw [compareComponents_eq_compareLex, Component.compare_eq_compareLex]
  infer_instance

instance : LawfulEqCmp Component.compare where
  eq_of_compare {first second} equal := by
    rw [Component.compare_eq_compareLex, compareLex_eq_eq] at equal
    obtain ⟨sameRank, sameText⟩ := equal
    have rank : first.rank = second.rank := LawfulEqCmp.eq_of_compare sameRank
    have text : first.text = second.text := LawfulEqCmp.eq_of_compare sameText
    cases first <;> cases second <;> simp_all [Component.rank, Component.text]
  compare_self {component} := by
    rw [Component.compare_eq_compareLex]
    exact ReflCmp.compare_self

instance : LawfulEqCmp compareComponents := by
  rw [compareComponents_eq_compareLex]
  infer_instance

instance : TransCmp Path.compare where
  eq_swap {first second} :=
    @OrientedCmp.eq_swap _ compareComponents _ (components first) (components second)
  isLE_trans {first second third} :=
    @TransCmp.isLE_trans _ compareComponents _ (components first) (components second)
      (components third)

theorem same_iff {first second : String} :
    same first second = true ↔ components first = components second := by
  rw [same, beq_iff_eq, Path.compare, LawfulEqCmp.compare_eq_iff_eq]

end Path

/-! ## Sorting -/

theorem dropRepeated_sublist (paths : List String) : (dropRepeated paths).Sublist paths := by
  fun_induction dropRepeated paths with
  | case1 => exact List.Sublist.refl _
  | case2 path => exact List.Sublist.refl _
  | case3 first second rest repeated ih => exact ih.trans ((List.sublist_cons_self ..).cons_cons _)
  | case4 first second rest different ih => exact ih.cons_cons first

/-- Dropping a repetition loses no list of components. -/
theorem mem_map_components_dropRepeated (paths : List String) (path : List Path.Component) :
    path ∈ (dropRepeated paths).map Path.components ↔ path ∈ paths.map Path.components := by
  fun_induction dropRepeated paths with
  | case1 => rfl
  | case2 => rfl
  | case3 first second rest repeated ih =>
      rw [ih, List.map_cons, List.map_cons, List.map_cons, ← Path.same_iff.mp repeated]
      simp
  | case4 first second rest different ih => rw [List.map_cons, List.mem_cons, ih]; simp

theorem pairwise_dropRepeated {paths : List String}
    (sorted : paths.Pairwise fun first second => (Path.compare first second).isLE = true) :
    (dropRepeated paths).Pairwise fun first second => Path.compare first second = .lt := by
  fun_induction dropRepeated paths with
  | case1 => exact List.Pairwise.nil
  | case2 path => exact List.pairwise_singleton _ _
  | case3 first second rest repeated ih =>
      exact ih (sorted.sublist ((List.sublist_cons_self ..).cons_cons _))
  | case4 first second rest different ih =>
      obtain ⟨firstLeast, restSorted⟩ := List.pairwise_cons.mp sorted
      -- only the next path could be the same as the first, and it is not
      have nextBehind : Path.compare first second = .lt := by
        rcases Ordering.isLE_iff_eq_lt_or_eq_eq.mp (firstLeast second List.mem_cons_self) with
          behind | equal
        · exact behind
        · rw [Path.same, equal] at different
          exact (different rfl).elim
      refine List.pairwise_cons.mpr ⟨?_, ih restSorted⟩
      intro path kept
      rcases List.mem_cons.mp ((dropRepeated_sublist _).subset kept) with rfl | later
      · exact nextBehind
      · exact TransCmp.lt_of_lt_of_isLE nextBehind ((List.pairwise_cons.mp restSorted).1 path later)

/-- A sorted list increases strictly. -/
theorem pairwise_sortPaths (paths : List String) :
    (sortPaths paths).Pairwise fun first second => Path.compare first second = .lt := by
  apply pairwise_dropRepeated
  have isLE : ∀ first second : String,
      (Path.compare first second != .gt) = (Path.compare first second).isLE := by
    intro first second
    cases Path.compare first second <;> rfl
  simp only [isLE]
  apply List.pairwise_mergeSort
  · intro first second third
    exact TransCmp.isLE_trans
  · intro first second
    have swapped : Path.compare second first = (Path.compare first second).swap :=
      OrientedCmp.eq_swap
    rw [swapped]
    cases Path.compare first second <;> rfl

theorem mem_map_components_sortPaths (paths : List String) (path : List Path.Component) :
    path ∈ (sortPaths paths).map Path.components ↔ path ∈ paths.map Path.components := by
  rw [sortPaths, mem_map_components_dropRepeated]
  exact ((List.mergeSort_perm paths _).map Path.components).mem_iff

theorem sortPaths_subset {paths : List String} {path : String} (kept : path ∈ sortPaths paths) :
    path ∈ paths :=
  List.mem_mergeSort.mp ((dropRepeated_sublist _).subset kept)

theorem dropRepeated_of_increasing {paths : List String}
    (increasing : paths.Pairwise fun first second => Path.compare first second = .lt) :
    dropRepeated paths = paths := by
  fun_induction dropRepeated paths with
  | case1 => rfl
  | case2 => rfl
  | case3 first second rest repeated ih =>
      have behind := (List.pairwise_cons.mp increasing).1 second List.mem_cons_self
      rw [Path.same, behind] at repeated
      cases repeated
  | case4 first second rest different ih => rw [ih (List.pairwise_cons.mp increasing).2]

/-- A list that increases strictly is sorted already. -/
theorem sortPaths_of_increasing {paths : List String}
    (increasing : paths.Pairwise fun first second => Path.compare first second = .lt) :
    sortPaths paths = paths := by
  have sorted : paths.mergeSort (fun first second => Path.compare first second != .gt) = paths := by
    apply List.mergeSort_of_pairwise
    apply increasing.imp
    intro first second behind
    rw [behind]
    rfl
  rw [sortPaths, sorted, dropRepeated_of_increasing increasing]

@[simp]
theorem sortPaths_nil : sortPaths [] = [] :=
  sortPaths_of_increasing List.Pairwise.nil

@[simp]
theorem sortPaths_singleton (path : String) : sortPaths [path] = [path] :=
  sortPaths_of_increasing (List.pairwise_singleton _ _)

theorem pairwise_map_components {paths : List String}
    (increasing : paths.Pairwise fun first second => Path.compare first second = .lt) :
    (paths.map Path.components).Pairwise fun first second =>
      Path.compareComponents first second = .lt := by
  rw [List.pairwise_map]
  exact increasing

theorem nodup_of_increasing {paths : List (List Path.Component)}
    (increasing : paths.Pairwise fun first second =>
      Path.compareComponents first second = .lt) : paths.Nodup := by
  apply increasing.imp
  rintro path _ behind rfl
  have equal : Path.compareComponents path path = .eq := ReflCmp.compare_self
  rw [equal] at behind
  cases behind

/-- Strictly increasing lists of paths with the same members have the same paths in the
same places, up to how they are written. -/
theorem map_components_eq_of_increasing {left right : List String}
    (leftIncreases : left.Pairwise fun first second => Path.compare first second = .lt)
    (rightIncreases : right.Pairwise fun first second => Path.compare first second = .lt)
    (members : ∀ path, path ∈ left.map Path.components ↔ path ∈ right.map Path.components) :
    left.map Path.components = right.map Path.components := by
  have leftOrdered := pairwise_map_components leftIncreases
  have rightOrdered := pairwise_map_components rightIncreases
  have rearranged : (left.map Path.components).Perm (right.map Path.components) :=
    (List.perm_ext_iff_of_nodup (nodup_of_increasing leftOrdered)
      (nodup_of_increasing rightOrdered)).mpr members
  apply rearranged.eq_of_pairwise _ leftOrdered rightOrdered
  intro first second _ _ before behind
  exact (OrientedCmp.not_lt_of_lt before behind).elim

end TreeLint
