import Mathlib.Data.List.TakeWhile
import ConfigLang.Cli.Fixtures
import ConfigLang.Error
import ConfigLang.Proofs.FileTree.Beside
/-! The files of a fixture. A document that can be read has its argument and its expected value
beside it, and saving the expected value changes neither of the other two. -/
namespace ConfigLang.Cli

open FileTree

/-! ### Names and endings -/

theorem read_eq_ok_iff {tree : FileTree} {path text : String} :
    tree.read path = .ok text ↔ ∃ names, tree.resolve path = .ok (names, .file (some text)) := by
  rw [FileTree.read, except_bind_eq_ok]
  constructor
  · rintro ⟨⟨names, node⟩, found, held⟩
    cases node with
    | directory => cases held
    | file content =>
      cases content with
      | none => cases held
      | some content =>
        cases held
        exact ⟨names, found⟩
  · rintro ⟨names, found⟩
    exact ⟨_, found, rfl⟩

/-- The files of a fixture stand in one directory, under one stem. -/
structure Stands (disk : FileTree) (path front stem : String) (directory : List String) :
    Prop where
  opens : disk.Opens front directory
  whole : '/' ∉ stem.toList
  document : path = front ++ (stem ++ ("." ++ documentExtension))
  beside : ∀ extension, withExtension extension path = front ++ (stem ++ ("." ++ extension))

section

variable {disk : FileTree} {path front stem text : String} {directory : List String}
  (stands : Stands disk path front stem directory)

include stands

theorem Stands.isName {extension : String} (whole : '/' ∉ extension.toList)
    (long : 1 < extension.toList.length) : IsName (stem ++ ("." ++ extension)) := by
  refine isName_append stands.whole ?_ ?_
  · rw [String.toList_append, List.mem_append]
    exact not_or.2 ⟨by decide, whole⟩
  · rw [String.toList_append, List.length_append]
    exact Nat.add_lt_add_left long 1

theorem Stands.isName_expected : IsName (stem ++ ("." ++ "json")) :=
  stands.isName (by decide) (by decide)

theorem Stands.free (apart : disk.read (expectedPath path) ≠ .error .isDirectory) :
    disk.node? (directory ++ [stem ++ ("." ++ "json")]) ≠ some .directory := by
  intro isDirectory
  apply apart
  rw [expectedPath, stands.beside, FileTree.read, stands.opens.resolve stands.isName_expected,
    follow, isDirectory]
  rfl

variable (free : disk.node? (directory ++ [stem ++ ("." ++ "json")]) ≠ some .directory)

include free

end

/-! ### The fixtures of a directory -/

/-- A document at or below a directory, with or without an expected value beside it. -/
def HoldsDocument (disk : FileTree) (directory : String) (fixture : Fixture) : Prop :=
  ∃ names node, disk.resolve directory = .ok (names, node) ∧ fixture.names ∈ disk.below names ∧
    fixture.path = joinPath directory fixture.names ∧
    extension? fixture.path = some documentExtension

theorem HoldsDocument.save {disk : FileTree} {directory saved text : String} {fixture : Fixture}
    (holds : HoldsDocument disk directory fixture)
    (free : disk.node? (namesOf saved) ≠ some .directory) :
    HoldsDocument (disk.save saved text) directory fixture := by
  obtain ⟨names, node, resolved, there, path_eq, ending⟩ := holds
  obtain ⟨held, still⟩ := resolve_save text free resolved
  exact ⟨names, held, still, below_saveAt _ _ _ _ there, path_eq, ending⟩

end ConfigLang.Cli
