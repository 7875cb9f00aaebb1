import ConfigLang.Proofs.Merge.KeyByKey
/-! When merging fails. It fails if and only if both sides have a value under some path of keys and
the two have different shapes, and the conflict that it ends in is the first of these clashes. The
paths are taken in the order in which the values of the right side stand: a map comes before its
entries, and an entry with all that is in it before the next one. -/
namespace ConfigLang.Value

mutual

/-- The paths of keys under which there is a value, each before those that it is the start of. -/
def paths : Value → List (List String)
  | string _ => [[]]
  | list _ => [[]]
  | map entries => [] :: pathsOfEntries entries

def pathsOfEntries : List (String × Value) → List (List String)
  | [] => []
  | (key, value) :: rest => (paths value).map (key :: ·) ++ pathsOfEntries rest

end

def pathsOf : Option Value → List (List String)
  | none => []
  | some value => value.paths

/-- Both sides have a value under the path, and the two have different shapes. -/
def Clashes (a b : Option Value) (path : List String) : Prop :=
  ∃ x y, under path a = some x ∧ under path b = some y ∧ x.shape ≠ y.shape

def clash? (a b : Option Value) (path : List String) : Option Conflict :=
  match under path a, under path b with
  | some x, some y => if x.shape = y.shape then none else some ⟨x.shape, y.shape, path⟩
  | _, _ => none

def conflict? {α : Type} : Except Conflict α → Option Conflict
  | .ok _ => none
  | .error conflict => some conflict

theorem conflict?_eq_some_iff {α : Type} {x : Except Conflict α} {conflict : Conflict} :
    conflict? x = some conflict ↔ x = .error conflict := by
  cases x <;> simp [conflict?]

theorem conflict?_map {α β : Type} (x : Except Conflict α) (f : α → β) :
    conflict? (x.map f) = conflict? x := by
  cases x <;> rfl

section clashes

variable {a b : Option Value} {path : List String}

theorem clash?_eq_some_iff {conflict : Conflict} :
    clash? a b path = some conflict ↔ ∃ x y, under path a = some x ∧ under path b = some y ∧
      x.shape ≠ y.shape ∧ conflict = ⟨x.shape, y.shape, path⟩ := by
  unfold clash?
  cases under path a with
  | none => simp
  | some x =>
    cases under path b with
    | none => simp
    | some y => by_cases same : x.shape = y.shape <;> simp [same, eq_comm]

theorem clash?_eq_none_iff : clash? a b path = none ↔ ¬ Clashes a b path := by
  unfold clash? Clashes
  cases under path a with
  | none => simp
  | some x =>
    cases under path b with
    | none => simp
    | some y => by_cases same : x.shape = y.shape <;> simp [same]

theorem clash?_none (b : Option Value) (path : List String) : clash? none b path = none := by
  rw [clash?, under_none]

theorem clash?_top (x y : Value) : clash? (some x) (some y) [] =
    if x.shape = y.shape then none else some ⟨x.shape, y.shape, []⟩ := rfl

theorem clash?_cons (left right : Entries Value) (key : String) (path : List String) :
    clash? (some (map left)) (some (map right)) (key :: path) =
      (clash? (Entries.get? key left) (Entries.get? key right) path).map (Conflict.under key) := by
  unfold clash?
  rw [under, under]
  cases under path (Entries.get? key left) with
  | none => rfl
  | some x =>
    cases under path (Entries.get? key right) with
    | none => rfl
    | some y => by_cases same : x.shape = y.shape <;> simp [same, Conflict.under]

end clashes

theorem mem_pathsOfEntries {entries : Entries Value} {entry : String × Value}
    (member : entry ∈ entries) {path : List String} (inside : path ∈ entry.2.paths) :
    entry.1 :: path ∈ pathsOfEntries entries := by
  induction entries with
  | nil => cases member
  | cons first rest ih =>
    rw [pathsOfEntries]
    rcases List.mem_cons.1 member with rfl | later
    · exact List.mem_append_left _ (List.mem_map_of_mem inside)
    · exact List.mem_append_right _ (ih later)

theorem mem_paths_of_under {path : List String} {value found : Value}
    (leads : under path (some value) = some found) : path ∈ value.paths := by
  induction path generalizing value with
  | nil => cases value <;> simp [paths]
  | cons key path ih =>
    cases value with
    | string text => cases leads
    | list items => cases leads
    | map entries =>
      rw [under] at leads
      cases held : Entries.get? key entries with
      | none =>
        rw [held, under_none] at leads
        cases leads
      | some inner =>
        rw [held] at leads
        have there : (key, inner) ∈ entries := Entries.mem_of_get? held
        rw [paths]
        exact List.mem_cons_of_mem _ (mem_pathsOfEntries there (ih leads))

theorem mem_pathsOf_of_under {path : List String} {b : Option Value} {found : Value}
    (leads : under path b = some found) : path ∈ pathsOf b := by
  cases b with
  | none => cases (under_none path).symm.trans leads
  | some value => exact mem_paths_of_under leads

def firstClash? (a b : Option Value) : Option Conflict := (pathsOf b).findSome? (clash? a b)

theorem exists_firstClash?_iff {a b : Option Value} :
    (∃ conflict, firstClash? a b = some conflict) ↔ ∃ path, Clashes a b path := by
  constructor
  · rintro ⟨conflict, first⟩
    obtain ⟨path, _, found⟩ := List.exists_of_findSome?_eq_some first
    obtain ⟨x, y, inLeft, inRight, differ, _⟩ := clash?_eq_some_iff.1 found
    exact ⟨path, x, y, inLeft, inRight, differ⟩
  · rintro ⟨path, x, y, inLeft, inRight, differ⟩
    have listed : path ∈ pathsOf b := mem_pathsOf_of_under inRight
    have found := clash?_eq_some_iff.2 ⟨x, y, inLeft, inRight, differ, rfl⟩
    have some : (firstClash? a b).isSome = true :=
      List.findSome?_isSome_iff.2 ⟨path, listed, by rw [found, Option.isSome_some]⟩
    exact Option.isSome_iff_exists.1 some

theorem firstClash?_under (left right : Entries Value) (key : String) (value : Value)
    (held : Entries.get? key right = some value) :
    (value.paths.map (key :: ·)).findSome? (clash? (some (map left)) (some (map right))) =
      (firstClash? (Entries.get? key left) (some value)).map (Conflict.under key) := by
  rw [firstClash?, pathsOf, List.findSome?_map, List.map_findSome?]
  congr 1
  funext path
  exact held ▸ clash?_cons left right key path

theorem conflict?_mergeEntries {left grown whole right : Entries Value}
    (inner : ∀ entry ∈ right, ∀ a, conflict? (merge a (some entry.2)) = firstClash? a (some entry.2))
    (held : ∀ entry ∈ right, Entries.get? entry.1 whole = some entry.2)
    (nodup : (Entries.keys right).Nodup)
    (untouched : ∀ key ∈ Entries.keys right, Entries.get? key grown = Entries.get? key left) :
    conflict? (mergeEntries grown right) =
      (pathsOfEntries right).findSome? (clash? (some (map left)) (some (map whole))) := by
  induction right generalizing grown with
  | nil => rfl
  | cons entry rest ih =>
    obtain ⟨key, value⟩ := entry
    obtain ⟨absent, nodup⟩ := List.nodup_cons.1 nodup
    obtain ⟨innerHere, inner⟩ := List.forall_mem_cons.1 inner
    obtain ⟨heldHere, held⟩ := List.forall_mem_cons.1 held
    obtain ⟨untouchedHere, untouched⟩ := List.forall_mem_cons.1 untouched
    have later (merged : Value) :
        conflict? (mergeEntries (Entries.insert key merged grown) rest) =
          (pathsOfEntries rest).findSome? (clash? (some (map left)) (some (map whole))) := by
      refine ih inner held nodup fun other member => ?_
      have differs : key ≠ other := fun same => absent (same ▸ member)
      rw [Entries.get?_insert, if_neg differs, untouched other member]
    rw [pathsOfEntries, List.findSome?_append, firstClash?_under left whole key value heldHere,
      ← innerHere, ← untouchedHere, mergeEntries]
    cases Entries.get? key grown with
    | none => exact later value
    | some current =>
      rw [merge_some, conflict?_map]
      dsimp only
      cases mergeOnto current value with
      | error conflict => rfl
      | ok merged => exact later merged

theorem paths_of_shape {y : Value} (leaf : y.shape ≠ .map) : y.paths = [[]] := by
  cases y with
  | map entries => exact absurd rfl leaf
  | string text => rfl
  | list items => rfl

theorem conflict?_merge_of_shape {y : Value} (leaf : y.shape ≠ .map) (a : Option Value) :
    conflict? (merge a (some y)) = firstClash? a (some y) := by
  have alone : firstClash? a (some y) = clash? a (some y) [] := by
    rw [firstClash?, pathsOf, paths_of_shape leaf, List.findSome?_singleton]
  rw [alone]
  cases a with
  | none => rfl
  | some x =>
    rw [merge_some, conflict?_map, clash?_top]
    cases y with
    | map entries => exact absurd rfl leaf
    | string text => cases x <;> rfl
    | list items => cases x <;> rfl

theorem firstClash?_maps (left right : Entries Value) :
    firstClash? (some (map left)) (some (map right)) =
      (pathsOfEntries right).findSome? (clash? (some (map left)) (some (map right))) := by
  rw [firstClash?, pathsOf, paths, List.findSome?_cons]
  rfl

theorem conflict?_merge_some {y : Value} (distinct : y.DistinctKeys) (a : Option Value) :
    conflict? (merge a (some y)) = firstClash? a (some y) := by
  induction y using Value.induct generalizing a with
  | string text => exact conflict?_merge_of_shape (y := .string text) nofun a
  | list items _ => exact conflict?_merge_of_shape (y := .list items) nofun a
  | map entries ih =>
    obtain ⟨nodup, values⟩ := distinctKeys_map.1 distinct
    cases a with
    | none =>
      have silent : firstClash? none (some (map entries)) = none :=
        List.findSome?_eq_none_iff.2 fun path _ => clash?_none _ path
      rw [silent]
      rfl
    | some x =>
      cases x with
      | map left =>
        have inner : ∀ entry ∈ entries, ∀ a,
            conflict? (merge a (some entry.2)) = firstClash? a (some entry.2) :=
          fun entry member => ih entry member (values entry member)
        have held : ∀ entry ∈ entries, Entries.get? entry.1 entries = some entry.2 :=
          fun entry member => Entries.get?_of_mem nodup member
        rw [merge_some, conflict?_map, mergeOnto, conflict?_map,
          conflict?_mergeEntries inner held nodup fun _ _ => rfl, firstClash?_maps]
      | string text => rfl
      | list items => rfl

theorem conflict?_merge {a b : Option Value} (distinct : Distinct b) :
    conflict? (merge a b) = firstClash? a b := by
  cases b with
  | none =>
    rw [merge_none_right]
    rfl
  | some y => exact conflict?_merge_some (distinct_some.1 distinct) a

/-! ### The path as a stack -/

mutual

/-- The second value merged onto the first, with the keys that lead to the two on a stack. A key
is pushed before what it leads to is merged, and popped behind that. A conflict takes the stack
as it finds it. -/
def mergeOnStack (stack : List String) : Value → Value → Except Conflict (Value × List String)
  | map left, map right => (mergeEntriesOnStack stack left right).map fun (entries, stack) =>
      (map entries, stack)
  | list _, list items => .ok (list items, stack)
  | string _, string text => .ok (string text, stack)
  | a, b => .error ⟨a.shape, b.shape, stack⟩

def mergeEntriesOnStack (stack : List String) (left : List (String × Value)) :
    List (String × Value) → Except Conflict (List (String × Value) × List String)
  | [] => .ok (left, stack)
  | (key, value) :: rest =>
    let pushed := stack ++ [key]
    match Entries.get? key left with
    | none => mergeEntriesOnStack pushed.dropLast (Entries.insert key value left) rest
    | some current =>
      match mergeOnStack pushed current value with
      | .error conflict => .error conflict
      | .ok (merged, stack) =>
        mergeEntriesOnStack stack.dropLast (Entries.insert key merged left) rest

end

def aboveStack {α : Type} (stack : List String) : Except Conflict α →
    Except Conflict (α × List String)
  | .ok merged => .ok (merged, stack)
  | .error conflict => .error { conflict with path := stack ++ conflict.path }

theorem mergeEntriesOnStack_eq {right : Entries Value}
    (inner : ∀ entry ∈ right, ∀ stack a,
      mergeOnStack stack a entry.2 = aboveStack stack (mergeOnto a entry.2))
    (stack : List String) (left : Entries Value) :
    mergeEntriesOnStack stack left right = aboveStack stack (mergeEntries left right) := by
  induction right generalizing left with
  | nil => rfl
  | cons entry rest ih =>
    obtain ⟨key, value⟩ := entry
    obtain ⟨here, inner⟩ := List.forall_mem_cons.1 inner
    rw [mergeEntriesOnStack, mergeEntries]
    cases Entries.get? key left with
    | none =>
      simp only [List.dropLast_concat]
      exact ih inner _
    | some current =>
      simp only [here]
      cases mergeOnto current value with
      | error conflict => simp [aboveStack, Conflict.under]
      | ok merged =>
        simp only [aboveStack, List.dropLast_concat]
        exact ih inner _

/-- One stack, handed down and popped, gives each conflict the path that it has. -/
theorem mergeOnStack_eq (b : Value) : ∀ stack a,
    mergeOnStack stack a b = aboveStack stack (mergeOnto a b) := by
  induction b using Value.induct with
  | string text =>
    intro stack a
    cases a <;> simp [mergeOnStack, mergeOnto, aboveStack]
  | list items _ =>
    intro stack a
    cases a <;> simp [mergeOnStack, mergeOnto, aboveStack]
  | map entries ih =>
    intro stack a
    cases a with
    | map left =>
      rw [mergeOnStack, mergeOnto, mergeEntriesOnStack_eq ih]
      cases mergeEntries left entries <;> rfl
    | string text => simp [mergeOnStack, mergeOnto, aboveStack]
    | list items => simp [mergeOnStack, mergeOnto, aboveStack]

/-- Merging fails if and only if there is a clash. The conflict that it ends in is a clash, with
the shapes of the two sides there, and none of the paths before it is one. It is the same conflict
if the path is a stack that all of the merge pushes to and pops from. -/
theorem merge_fails_at_first_clash {a b : Option Value} (distinct : Distinct b) :
    ((∃ conflict, merge a b = .error conflict) ↔ ∃ path, Clashes a b path) ∧
      (∀ conflict, merge a b = .error conflict →
        (∃ x y, under conflict.path a = some x ∧ under conflict.path b = some y ∧
          x.shape ≠ y.shape ∧ conflict.left = x.shape ∧ conflict.right = y.shape) ∧
        ∃ before after, pathsOf b = before ++ conflict.path :: after ∧
          ∀ path ∈ before, ¬ Clashes a b path) ∧
      ∀ x ∈ a, ∀ y ∈ b, (mergeOnStack [] x y).map (some ·.1) = merge a b := by
  have first (conflict : Conflict) :
      merge a b = .error conflict ↔ firstClash? a b = some conflict := by
    rw [← conflict?_merge distinct, conflict?_eq_some_iff]
  refine ⟨?_, ?_, ?_⟩
  · simp only [first]
    exact exists_firstClash?_iff
  · intro conflict failed
    obtain ⟨before, path, after, order, found, none⟩ :=
      List.findSome?_eq_some_iff.1 ((first conflict).1 failed)
    obtain ⟨x, y, inLeft, inRight, differ, rfl⟩ := clash?_eq_some_iff.1 found
    refine ⟨⟨x, y, inLeft, inRight, differ, rfl, rfl⟩, before, after, order, ?_⟩
    exact fun other member => clash?_eq_none_iff.1 (none other member)
  · intro x inLeft y inRight
    cases inLeft
    cases inRight
    rw [mergeOnStack_eq, merge_some]
    cases mergeOnto x y <;> rfl

/-- Two clashes, below `a` and at `b`. The right side comes to `a` first, and there to `z` behind a
key that the two sides agree under. -/
theorem merge_fails_at_first_clash_below_a :
    let a := map [("b", string "1"), ("a", map [("z", list []), ("y", string "2")])]
    let b := map [("new", string "3"), ("a", map [("y", string "4"), ("z", string "5")]),
      ("b", list [])]
    let conflict : Conflict := ⟨.list, .string, ["a", "z"]⟩
    Distinct (some b) ∧ merge (some a) (some b) = .error conflict ∧
      Clashes (some a) (some b) ["b"] ∧
      (∃ path, Clashes (some a) (some b) path) ∧
      (∃ before after, pathsOf (some b) = before ++ ["a", "z"] :: after ∧
        ∀ path ∈ before, ¬ Clashes (some a) (some b) path) ∧
      (mergeOnStack [] a b).map (some ·.1) = .error conflict := by
  intro a b conflict
  have distinct : Distinct (some b) := by
    apply distinct_some.2
    simp [b, DistinctKeys, DistinctKeysOfEntries, DistinctKeysOfItems, Entries.keys]
  have failed : merge (some a) (some b) = .error conflict := rfl
  obtain ⟨iff, reported, onStack⟩ := merge_fails_at_first_clash (a := some a) distinct
  have later : Clashes (some a) (some b) ["b"] := ⟨string "1", list [], rfl, rfl, by decide⟩
  exact ⟨distinct, failed, later, iff.1 ⟨conflict, failed⟩, (reported conflict failed).2,
    (onStack a rfl b rfl).trans failed⟩

end ConfigLang.Value
