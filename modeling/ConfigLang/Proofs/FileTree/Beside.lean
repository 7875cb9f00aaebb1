import ConfigLang.Proofs.FileTree.Saving
/-! Files beside each other. What stands in front of the last name of a path leads to one
directory, whatever the name is, so that saving one file leaves those beside it alone. -/
namespace ConfigLang.FileTree

/-! ### The segments of a path -/

structure IsName (name : String) : Prop where
  whole : '/' ∉ name.toList
  empty : name ≠ ""
  here : name ≠ "."
  back : name ≠ ".."

theorem IsName.step {name : String} (isName : IsName name) (names : List String) :
    step names name = names ++ [name] := by
  simp [FileTree.step, isName.empty, isName.here, isName.back]

theorem isName_append {stem ending : String} (wholeStem : '/' ∉ stem.toList)
    (wholeEnding : '/' ∉ ending.toList) (long : 2 < ending.toList.length) :
    IsName (stem ++ ending) := by
  have longer : 2 < (stem ++ ending).toList.length := by
    rw [String.toList_append, List.length_append]
    omega
  constructor
  · rw [String.toList_append, List.mem_append]
    exact not_or.2 ⟨wholeStem, wholeEnding⟩
  all_goals
    intro same
    rw [same] at longer
    exact absurd longer (by decide)

/-! ### Directories -/

/-- The front of a path leads to a directory: up to the last name the path is followed from
the same names on, over the same segments, whatever the last name is. -/
structure Route (front : String) (start steps : List String) : Prop where
  origin : ∀ name : String, '/' ∉ name.toList → origin (front ++ name) = start
  segments : ∀ name : String, '/' ∉ name.toList → segments (front ++ name) = steps ++ [name]

def Opens (tree : FileTree) (front : String) (directory : List String) : Prop :=
  ∃ start steps, Route front start steps ∧ tree.follow start steps = .ok (directory, .directory)

section

variable {tree : FileTree} {front name saved text : String} {directory names : List String}
  {node : Node}

theorem resolve_of_route {start steps : List String} (route : Route front start steps)
    (isName : IsName name) : tree.resolve (front ++ name) = tree.follow start (steps ++ [name]) := by
  have named : front ++ name ≠ "" := by
    intro nothing
    have := congrArg String.toList nothing
    simp only [String.toList_append, String.toList_empty, List.append_eq_nil_iff] at this
    exact isName.empty (String.toList_inj.1 this.2)
  rw [resolve, if_neg named, route.origin name isName.whole, route.segments name isName.whole]

theorem follow_last (found : tree.node? directory = some .directory) (isName : IsName name) :
    tree.follow directory [name] = tree.follow (directory ++ [name]) [] := by
  rw [follow.eq_2, found, isName.step]

theorem Opens.resolve (opens : tree.Opens front directory) (isName : IsName name) :
    tree.resolve (front ++ name) = tree.follow (directory ++ [name]) [] := by
  obtain ⟨start, steps, route, walked⟩ := opens
  rw [resolve_of_route route isName, follow_append, walked]
  exact follow_last (follow_eq_ok walked).2 isName

theorem Opens.namesOf (opens : tree.Opens front directory) (isName : IsName name) :
    namesOf (front ++ name) = directory ++ [name] := by
  obtain ⟨start, steps, route, walked⟩ := opens
  rw [FileTree.namesOf, route.origin name isName.whole, route.segments name isName.whole,
    List.foldl_append, ← (follow_eq_ok walked).1]
  exact isName.step directory

variable (opens : tree.Opens front directory) (savedIsName : IsName saved)
  (free : tree.node? (directory ++ [saved]) ≠ some .directory)

include opens savedIsName free

theorem Opens.save : (tree.save (front ++ saved) text).Opens front directory := by
  rw [FileTree.save, opens.namesOf savedIsName]
  obtain ⟨start, steps, route, walked⟩ := opens
  have other : directory ≠ directory ++ [saved] := by simp
  have still := follow_saveAt text free walked
  rw [if_neg other] at still
  exact ⟨start, steps, route, still⟩

theorem Opens.resolve_save :
    (tree.save (front ++ saved) text).resolve (front ++ saved) =
      .ok (directory ++ [saved], .file (some text)) := by
  rw [(opens.save savedIsName free).resolve savedIsName, FileTree.save, opens.namesOf savedIsName,
    follow, node?_saveAt_self]

end

end ConfigLang.FileTree
