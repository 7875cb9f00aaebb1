import ConfigLang.Proofs.Merge.Associative
/-! Merging acts key by key at every depth. What a merged value holds at the end of a path of
keys is the merge of what the two sides hold there, and its maps have the keys of the left side
in their order, then the new ones of the right side. -/
namespace ConfigLang.Value

/-- What lies at the end of a path of keys. Only maps are entered; elsewhere there is nothing. -/
def under : List String → Option Value → Option Value
  | [], value => value
  | key :: path, some (map entries) => under path (Entries.get? key entries)
  | _ :: _, _ => none

def keysOf : Option Value → List String
  | some (map entries) => Entries.keys entries
  | _ => []

theorem under_none (path : List String) : under path none = none := by
  cases path <;> rfl

theorem under_of_shape {value : Value} (noMap : value.shape ≠ .map) (key : String)
    (path : List String) : under (key :: path) (some value) = none := by
  cases value with
  | map entries => exact absurd rfl noMap
  | string text => rfl
  | list items => rfl

theorem keysOf_of_shape {value : Value} (noMap : value.shape ≠ .map) :
    keysOf (some value) = [] := by
  cases value with
  | map entries => exact absurd rfl noMap
  | string text => rfl
  | list items => rfl

theorem merge_cases {a b merged : Option Value} (done : merge a b = .ok merged) :
    (a = none ∧ merged = b) ∨ (b = none ∧ merged = a) ∨
      (∃ lefts rights entries, a = some (map lefts) ∧ b = some (map rights) ∧
        mergeEntries lefts rights = .ok entries ∧ merged = some (map entries)) ∨
      ∃ old new, a = some old ∧ b = some new ∧ merged = some new ∧ old.shape = new.shape ∧
        new.shape ≠ .map := by
  cases a with
  | none =>
    cases done
    exact .inl ⟨rfl, rfl⟩
  | some old =>
    cases b with
    | none =>
      cases done
      exact .inr (.inl ⟨rfl, rfl⟩)
    | some new =>
      refine .inr (.inr ?_)
      have same := (shape_of_merge done).1
      cases new with
      | map rights =>
        cases old with
        | map lefts =>
          obtain ⟨entries, met, whole⟩ := (merge_map _ _ _).1 done
          exact .inl ⟨lefts, rights, entries, rfl, rfl, met, whole⟩
        | _ => cases same
      | string text =>
        cases old with
        | string before => exact .inr ⟨_, _, rfl, rfl, (Except.ok.inj done).symm, rfl, nofun⟩
        | _ => cases same
      | list items =>
        cases old with
        | list before => exact .inr ⟨_, _, rfl, rfl, (Except.ok.inj done).symm, rfl, nofun⟩
        | _ => cases same

theorem Distinct.get? {entries : Entries Value} (distinct : Distinct (some (map entries)))
    (key : String) : Distinct (Entries.get? key entries) := by
  intro value found
  exact (distinct_some.1 distinct).get? found

theorem merge_under {a b merged : Option Value} (distinct : Distinct b)
    (done : merge a b = .ok merged) (path : List String) :
    merge (under path a) (under path b) = .ok (under path merged) := by
  induction path generalizing a b merged with
  | nil => exact done
  | cons key path ih =>
    rcases merge_cases done with ⟨rfl, rfl⟩ | ⟨rfl, rfl⟩ | ⟨lefts, rights, entries, rfl, rfl, met, rfl⟩ |
      ⟨old, new, rfl, rfl, rfl, same, noMap⟩
    · rw [under_none, merge_none_left]
    · rw [under_none, merge_none_right]
    · have nodup := (distinctKeys_map.1 (distinct_some.1 distinct)).1
      exact ih (distinct.get? key) (get?_mergeEntries nodup met key)
    · rw [under_of_shape noMap, merge_none_right, under_of_shape (same ▸ noMap)]

theorem keysOf_merge {a b merged : Option Value} (distinct : Distinct b)
    (done : merge a b = .ok merged) :
    keysOf merged = keysOf a ++ (keysOf b).filter (· ∉ keysOf a) := by
  rcases merge_cases done with ⟨rfl, rfl⟩ | ⟨rfl, rfl⟩ | ⟨lefts, rights, entries, rfl, rfl, met, rfl⟩ |
    ⟨old, new, rfl, rfl, rfl, same, noMap⟩
  · simp [keysOf]
  · simp [keysOf]
  · exact keys_mergeEntries (distinctKeys_map.1 (distinct_some.1 distinct)).1 met
  · rw [keysOf_of_shape noMap, keysOf_of_shape (same ▸ noMap)]
    rfl

theorem isSome_of_merge {a b merged : Option Value} (done : merge a b = .ok merged)
    (held : a.isSome ∨ b.isSome) : merged.isSome := by
  rcases merge_cases done with ⟨rfl, rfl⟩ | ⟨rfl, rfl⟩ | ⟨_, _, _, _, _, _, rfl⟩ |
    ⟨_, _, _, _, rfl, _, _⟩
  · simpa using held
  · simpa using held
  · rfl
  · rfl

theorem eq_of_merge_none {a merged : Option Value} (done : merge a none = .ok merged) :
    merged = a := by
  rw [merge_none_right] at done
  exact (Except.ok.inj done).symm

theorem string_of_merge {a b : Option Value} {text : String}
    (done : merge a b = .ok (some (string text))) :
    b = some (string text) ∨ b = none ∧ a = some (string text) := by
  rcases merge_cases done with ⟨_, same⟩ | ⟨absent, same⟩ | ⟨_, _, _, _, _, _, same⟩ |
    ⟨_, _, _, right, same, _, _⟩
  · exact .inl same.symm
  · exact .inr ⟨absent, same.symm⟩
  · cases same
  · exact .inl (right.trans same.symm)

theorem Distinct.under {value : Option Value} (distinct : Distinct value) (path : List String) :
    Distinct (under path value) := by
  induction path generalizing value with
  | nil => exact distinct
  | cons key path ih =>
    cases value with
    | none => exact distinct_none
    | some value =>
      cases value with
      | map entries => exact ih (distinct.get? key)
      | string text => exact distinct_none
      | list items => exact distinct_none

/-! ### Merging in place -/

mutual

/-- The second value merged onto the first, in place. A value that is merged is taken out of
the map that holds it, and an empty text stands in its place until the merged value is there. -/
def mergeInPlace : Value → Value → Except Conflict Value
  | map left, map right => (mergeEntriesInPlace left right).map map
  | list _, list items => .ok (list items)
  | string _, string text => .ok (string text)
  | a, b => .error ⟨a.shape, b.shape, []⟩

def mergeEntriesInPlace (left : List (String × Value)) :
    List (String × Value) → Except Conflict (List (String × Value))
  | [] => .ok left
  | (key, value) :: rest =>
    match Entries.get? key left with
    | none => mergeEntriesInPlace (Entries.insert key value left) rest
    | some current =>
      let emptied := Entries.insert key (string "") left
      match mergeInPlace current value with
      | .error conflict => .error (conflict.under key)
      | .ok merged => mergeEntriesInPlace (Entries.insert key merged emptied) rest

end

theorem mergeEntriesInPlace_eq {right : Entries Value}
    (inner : ∀ entry ∈ right, ∀ a, mergeInPlace a entry.2 = mergeOnto a entry.2)
    (left : Entries Value) : mergeEntriesInPlace left right = mergeEntries left right := by
  induction right generalizing left with
  | nil => rfl
  | cons entry rest ih =>
    obtain ⟨key, value⟩ := entry
    obtain ⟨here, inner⟩ := List.forall_mem_cons.1 inner
    rw [mergeEntriesInPlace, mergeEntries]
    cases Entries.get? key left with
    | none => exact ih inner _
    | some current =>
      dsimp only
      rw [here]
      cases mergeOnto current value with
      | error conflict => rfl
      | ok merged =>
        dsimp only
        rw [Entries.insert_insert]
        exact ih inner _

/-- The empty texts that stand in during the merge leave no trace. -/
theorem mergeInPlace_eq (b : Value) : ∀ a, mergeInPlace a b = mergeOnto a b := by
  induction b using Value.induct with
  | string text =>
    intro a
    cases a <;> rfl
  | list items _ =>
    intro a
    cases a <;> rfl
  | map entries ih =>
    intro a
    cases a with
    | map left => rw [mergeInPlace, mergeOnto, mergeEntriesInPlace_eq ih]
    | string text => rfl
    | list items => rfl

/-- Under every path of keys the merged value holds the merge of what the two sides hold there,
with the keys of the left side in their order before the new ones of the right side. So what
either side holds somewhere is not lost, what the right side does not mention stays, and every
text under a path is one of the two sides' under this path, though the merge in place puts an
empty text for each value that it takes out. -/
theorem merge_key_by_key {a b merged : Option Value} (distinct : Distinct b)
    (done : merge a b = .ok merged) (path : List String) :
    merge (under path a) (under path b) = .ok (under path merged) ∧
      keysOf (under path merged) = keysOf (under path a) ++
        (keysOf (under path b)).filter (· ∉ keysOf (under path a)) ∧
      ((under path a).isSome ∨ (under path b).isSome → (under path merged).isSome) ∧
      (under path b = none → under path merged = under path a) ∧
      (∀ text, under path merged = some (string text) →
        under path b = some (string text) ∨
          under path b = none ∧ under path a = some (string text)) ∧
      ∀ x ∈ a, ∀ y ∈ b, (mergeInPlace x y).map some = .ok merged := by
  have here := merge_under distinct done path
  refine ⟨here, keysOf_merge (distinct.under path) here, isSome_of_merge here, ?_, ?_, ?_⟩
  · intro absent
    rw [absent] at here
    exact eq_of_merge_none here
  · intro text found
    rw [found] at here
    exact string_of_merge here
  · intro x inLeft y inRight
    cases inLeft
    cases inRight
    rw [mergeInPlace_eq]
    exact done

theorem merge_key_by_key_below_a :
    let a := map [("a", map [("x", string "1"), ("w", string "0")]), ("keep", list [string "1"])]
    let b := map [("keep", list []), ("a", map [("y", string "2"), ("x", string "5")])]
    ∃ merged, merge (some a) (some b) = .ok merged ∧
      keysOf (under ["a"] merged) = ["x", "w", "y"] ∧
      merge (some (string "1")) (some (string "5")) = .ok (under ["a", "x"] merged) ∧
      under ["a", "w"] merged = some (string "0") ∧
      (mergeInPlace a b).map some = .ok merged := by
  intro a b
  have distinct : Distinct (some b) := by
    apply distinct_some.2
    simp [b, DistinctKeys, DistinctKeysOfEntries, DistinctKeysOfItems, Entries.keys]
  obtain ⟨merged, done⟩ : ∃ merged, merge (some a) (some b) = .ok merged := ⟨_, rfl⟩
  obtain ⟨_, keys, _, _, _, inPlace⟩ := merge_key_by_key distinct done ["a"]
  have both := (merge_key_by_key distinct done ["a", "x"]).1
  have onlyLeft := (merge_key_by_key distinct done ["a", "w"]).2.2.2.1 (by decide)
  exact ⟨merged, done, keys, both, onlyLeft, inPlace a rfl b rfl⟩

end ConfigLang.Value
