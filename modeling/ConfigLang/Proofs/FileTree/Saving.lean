import ConfigLang.FileTree
/-! Saving a text in a file. What a path leads to stays, unless it is the file that is saved or
a directory that had to be made for it. -/
namespace ConfigLang.FileTree

/-- The tree in which the file of these names holds the text, whatever it held before. -/
def saveAt (tree : FileTree) (names : List String) (text : String) : FileTree :=
  { tree with files := tree.files.filter (·.1 ≠ names) ++ [(names, some text)] }

def save (tree : FileTree) (path text : String) : FileTree := tree.saveAt (namesOf path) text

section

variable {tree : FileTree} {names target : List String} {text : String}

theorem find?_saveAt_self :
    (tree.saveAt target text).files.find? (·.1 = target) = some (target, some text) := by
  have cleared : (tree.files.filter (·.1 ≠ target)).find? (·.1 = target) = none := by
    apply List.find?_eq_none.2
    intro file member
    simpa using (List.mem_filter.1 member).2
  rw [saveAt, List.find?_append, cleared, Option.none_or]
  simp

theorem find?_saveAt (other : names ≠ target) :
    (tree.saveAt target text).files.find? (·.1 = names) = tree.files.find? (·.1 = names) := by
  have kept : (fun file : List String × Option String =>
      decide (decide (file.1 ≠ target) = true ∧ decide (file.1 = names) = true)) =
      fun file => decide (file.1 = names) := by
    funext file
    by_cases same : file.1 = names
    · simp [same, other]
    · simp [same]
  rw [saveAt, List.find?_append, List.find?_filter, kept]
  simp [Ne.symm other]

theorem mem_keys_saveAt {file : List String} :
    file ∈ (tree.saveAt target text).files.map Prod.fst ↔
      file ∈ tree.files.map Prod.fst ∨ file = target := by
  by_cases same : file = target <;> simp [saveAt, same]

theorem any_files_iff {names : List String} :
    (tree.files.any fun (file, _) => names.isPrefixOf file) = true ↔
      ∃ file ∈ tree.files.map Prod.fst, names <+: file := by
  simp

theorem node?_saveAt_self :
    (tree.saveAt target text).node? target = some (.file (some text)) := by
  rw [node?, find?_saveAt_self]

theorem node?_saveAt_of_some {node : Node} (other : names ≠ target)
    (found : tree.node? names = some node) : (tree.saveAt target text).node? names = some node := by
  rw [node?, find?_saveAt other]
  rw [node?] at found
  split
  · next present => rwa [present] at found
  · next absent =>
    rw [absent] at found
    simp only [Bool.or_eq_true, any_files_iff, mem_keys_saveAt, Option.ite_none_right_eq_some]
      at found ⊢
    obtain ⟨reason, same⟩ := found
    refine ⟨reason.imp_right ?_, same⟩
    rintro ⟨file, there, above⟩
    exact ⟨file, .inl there, above⟩

end

/-! ### Paths -/

section

variable {tree : FileTree} {names target reached : List String} {node : Node} {text : String}

theorem follow_eq_ok {path : List String} (found : tree.follow names path = .ok (reached, node)) :
    reached = path.foldl step names ∧ tree.node? reached = some node := by
  induction path generalizing names with
  | nil =>
    rw [follow] at found
    split at found
    · next present =>
      cases found
      exact ⟨rfl, present⟩
    · cases found
  | cons segment rest ih =>
    rw [follow] at found
    split at found
    · cases found
    · cases found
    · exact ih found

theorem follow_append (tree : FileTree) (names front back : List String) :
    tree.follow names (front ++ back) =
      (tree.follow names front).bind fun (reached, _) => tree.follow reached back := by
  induction front generalizing names with
  | nil =>
    -- Both sides look at the node under the names, the left one when it goes on from there.
    rw [List.nil_append, follow.eq_1]
    split
    · rfl
    · next absent =>
      cases back <;> simp [follow, absent, Except.bind]
  | cons segment rest ih =>
    rw [List.cons_append, follow, follow]
    split
    · rfl
    · rfl
    · exact ih _

/-- In the saved tree each path leads to the same names, and to the same node unless these
are the names that the text was saved under. -/
theorem follow_saveAt {path : List String} (text : String)
    (free : tree.node? target ≠ some .directory)
    (found : tree.follow names path = .ok (reached, node)) :
    (tree.saveAt target text).follow names path =
      .ok (reached, if reached = target then .file (some text) else node) := by
  induction path generalizing names with
  | nil =>
    rw [follow] at found ⊢
    split at found
    · next present =>
      cases found
      by_cases here : reached = target
      · rw [here, node?_saveAt_self, if_pos rfl]
      · rw [node?_saveAt_of_some here present, if_neg here]
    · cases found
  | cons segment rest ih =>
    rw [follow] at found
    split at found
    · cases found
    · cases found
    · next present =>
      -- The path goes on through a directory, which the saved file does not stand in for.
      have other : names ≠ target := by
        rintro rfl
        exact free present
      rw [follow, node?_saveAt_of_some other present]
      exact ih found

theorem resolve_save {path saved : String} (text : String)
    (free : tree.node? (namesOf saved) ≠ some .directory)
    (found : tree.resolve path = .ok (reached, node)) :
    ∃ held, (tree.save saved text).resolve path = .ok (reached, held) := by
  rw [resolve] at found ⊢
  split at found
  · cases found
  · next named =>
    rw [if_neg named]
    exact ⟨_, follow_saveAt text free found⟩

end

/-! ### What lies below -/

theorem below_subset {tree larger : FileTree} {names : List String}
    (more : ∀ found ∈ tree.files.map Prod.fst ++ tree.directories,
      found ∈ larger.files.map Prod.fst ++ larger.directories) :
    tree.below names ⊆ larger.below names := by
  intro within there
  simp only [below, List.mem_mergeSort, List.mem_eraseDups, List.mem_cons, List.mem_flatMap,
    List.mem_filterMap] at there ⊢
  refine there.imp_right ?_
  rintro ⟨rest, ⟨found, known, behind⟩, part⟩
  exact ⟨rest, ⟨found, more found known, behind⟩, part⟩

theorem below_saveAt (tree : FileTree) (names target : List String) (text : String) :
    tree.below names ⊆ (tree.saveAt target text).below names := by
  apply below_subset
  intro found known
  rcases List.mem_append.1 known with file | directory
  · exact List.mem_append_left _ (mem_keys_saveAt.2 (.inl file))
  · exact List.mem_append_right _ directory

end ConfigLang.FileTree
