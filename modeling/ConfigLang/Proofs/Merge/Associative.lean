import ConfigLang.Proofs.Merge.Pointwise
/-! Merging is associative. Either both ways of grouping three values succeed, and then with the
same value, or both meet a conflict. The induction is on the middle value: where it is absent
there is nothing to show, and under a key that it has it is smaller. The same holds of spreads,
which append lists. -/
namespace ConfigLang.Value

theorem shape_of_mergeOnto {a b value : Value} (done : mergeOnto a b = .ok value) :
    a.shape = b.shape ∧ value.shape = b.shape := by
  unfold mergeOnto at done
  split at done
  · next left right =>
    cases met : mergeEntries left right with
    | error conflict => simp [Except.map, met] at done
    | ok merged =>
      rw [met] at done
      exact ⟨rfl, by rw [← Except.ok.inj done]; rfl⟩
  · exact ⟨rfl, by rw [← Except.ok.inj done]⟩
  · exact ⟨rfl, by rw [← Except.ok.inj done]⟩
  · cases done

def Associates (a b c : Option Value) : Prop :=
  ∀ value, (∃ ab, merge a b = .ok ab ∧ merge ab c = .ok value) ↔
    ∃ bc, merge b c = .ok bc ∧ merge a bc = .ok value

theorem associates_none (a c : Option Value) : Associates a none c := by
  simp [Associates]

theorem associates_none_left (b c : Option Value) : Associates none b c := by
  simp [Associates]

theorem associates_none_right (a b : Option Value) : Associates a b none := by
  simp [Associates]

theorem merge_map (left right : Entries Value) (merged : Option Value) :
    merge (some (map left)) (some (map right)) = .ok merged ↔
      ∃ entries, mergeEntries left right = .ok entries ∧ merged = some (map entries) := by
  rw [merge_some, mergeOnto]
  cases mergeEntries left right with
  | error conflict => simp [Except.map]
  | ok entries => simp [Except.map, eq_comm]

theorem keys_associate (left middle right : List String) :
    (left ++ middle.filter (· ∉ left)) ++
        right.filter (· ∉ left ++ middle.filter (· ∉ left)) =
      left ++ (middle ++ right.filter (· ∉ middle)).filter (· ∉ left) := by
  rw [List.filter_append, List.filter_filter, List.append_assoc]
  congr 2
  refine List.filter_congr fun key _ => ?_
  by_cases inLeft : key ∈ left <;> by_cases inMiddle : key ∈ middle <;> simp [inLeft, inMiddle]

section maps

variable {left middle right : Entries Value} (hl : (Entries.keys left).Nodup)
  (hm : (Entries.keys middle).Nodup) (hr : (Entries.keys right).Nodup)
  (inner : ∀ key, Associates (Entries.get? key left) (Entries.get? key middle)
    (Entries.get? key right))

include hl hm hr inner

theorem mergeEntries_shift_right {lm merged : Entries Value}
    (first : mergeEntries left middle = .ok lm) (second : mergeEntries lm right = .ok merged) :
    ∃ mr, mergeEntries middle right = .ok mr ∧ mergeEntries left mr = .ok merged := by
  have hlm := nodup_mergeEntries hl hm first
  have pointwise := fun key => (inner key (Entries.get? key merged)).1
    ⟨_, get?_mergeEntries hm first key, get?_mergeEntries hr second key⟩
  obtain ⟨mr, done⟩ := exists_mergeEntries hr fun key _ =>
    (pointwise key).imp fun _ found => found.1
  refine ⟨mr, done, (mergeEntries_eq_ok_iff hl (nodup_mergeEntries hm hr done)).2 ⟨?_, ?_⟩⟩
  · rw [keys_mergeEntries hr second, keys_mergeEntries hm first, keys_mergeEntries hr done]
    exact keys_associate _ _ _
  · intro key
    obtain ⟨held, below, above⟩ := pointwise key
    have same := Except.ok.inj (below.symm.trans (get?_mergeEntries hr done key))
    rwa [← same]

theorem mergeEntries_shift_left {mr merged : Entries Value}
    (first : mergeEntries middle right = .ok mr) (second : mergeEntries left mr = .ok merged) :
    ∃ lm, mergeEntries left middle = .ok lm ∧ mergeEntries lm right = .ok merged := by
  have hmr := nodup_mergeEntries hm hr first
  have pointwise := fun key => (inner key (Entries.get? key merged)).2
    ⟨_, get?_mergeEntries hr first key, get?_mergeEntries hmr second key⟩
  obtain ⟨lm, done⟩ := exists_mergeEntries hm fun key _ =>
    (pointwise key).imp fun _ found => found.1
  refine ⟨lm, done, (mergeEntries_eq_ok_iff (nodup_mergeEntries hl hm done) hr).2 ⟨?_, ?_⟩⟩
  · rw [keys_mergeEntries hmr second, keys_mergeEntries hr first, keys_mergeEntries hm done]
    exact (keys_associate _ _ _).symm
  · intro key
    obtain ⟨held, below, above⟩ := pointwise key
    have same := Except.ok.inj (below.symm.trans (get?_mergeEntries hm done key))
    rwa [← same]

theorem associates_map : Associates (some (map left)) (some (map middle)) (some (map right)) := by
  intro value
  constructor
  · rintro ⟨ab, first, second⟩
    obtain ⟨lm, below, rfl⟩ := (merge_map _ _ _).1 first
    obtain ⟨merged, above, rfl⟩ := (merge_map _ _ _).1 second
    obtain ⟨mr, below, above⟩ := mergeEntries_shift_right hl hm hr inner below above
    exact ⟨_, (merge_map _ _ _).2 ⟨mr, below, rfl⟩, (merge_map _ _ _).2 ⟨merged, above, rfl⟩⟩
  · rintro ⟨bc, first, second⟩
    obtain ⟨mr, below, rfl⟩ := (merge_map _ _ _).1 first
    obtain ⟨merged, above, rfl⟩ := (merge_map _ _ _).1 second
    obtain ⟨lm, below, above⟩ := mergeEntries_shift_left hl hm hr inner below above
    exact ⟨_, (merge_map _ _ _).2 ⟨lm, below, rfl⟩, (merge_map _ _ _).2 ⟨merged, above, rfl⟩⟩

end maps

theorem shape_of_merge {a b : Value} {merged : Option Value}
    (done : merge (some a) (some b) = .ok merged) :
    a.shape = b.shape ∧ ∃ value, merged = some value ∧ value.shape = b.shape := by
  obtain ⟨value, rfl⟩ := exists_of_merge_some done
  rw [merge_some] at done
  cases met : mergeOnto a b with
  | error conflict => simp [Except.map, met] at done
  | ok held =>
    obtain ⟨same, shape⟩ := shape_of_mergeOnto met
    simp only [met, Except.map, Except.ok.injEq, Option.some.injEq] at done
    exact ⟨same, value, rfl, done ▸ shape⟩

/-- Where only values of one shape are put together, values of different shapes conflict either
way. -/
theorem regroups_of_shapes
    {put : Option Value → Option Value → Except Conflict (Option Value)}
    (shapes : ∀ {a b : Value} {both : Option Value}, put (some a) (some b) = .ok both →
      a.shape = b.shape ∧ ∃ value, both = some value ∧ value.shape = b.shape)
    {a b c : Value} (differ : ¬ (a.shape = b.shape ∧ b.shape = c.shape)) (value : Option Value) :
    (∃ ab, put (some a) (some b) = .ok ab ∧ put ab (some c) = .ok value) ↔
      ∃ bc, put (some b) (some c) = .ok bc ∧ put (some a) bc = .ok value := by
  constructor
  · rintro ⟨ab, first, second⟩
    obtain ⟨left, held, rfl, shape⟩ := shapes first
    obtain ⟨right, _⟩ := shapes second
    exact absurd ⟨left, shape ▸ right⟩ differ
  · rintro ⟨bc, first, second⟩
    obtain ⟨right, held, rfl, shape⟩ := shapes first
    obtain ⟨left, _⟩ := shapes second
    exact absurd ⟨left.trans (shape.trans right.symm), right⟩ differ

theorem associates_of_shapes {a b c : Value} (differ : ¬ (a.shape = b.shape ∧ b.shape = c.shape)) :
    Associates (some a) (some b) (some c) :=
  regroups_of_shapes shape_of_merge differ

theorem associates_of_overriding {a b c : Value}
    (right : ∀ x y : Value, x.shape = y.shape → y.shape = b.shape → mergeOnto x y = .ok y)
    (same : a.shape = b.shape ∧ b.shape = c.shape) : Associates (some a) (some b) (some c) := by
  intro value
  have ab : merge (some a) (some b) = .ok (some b) := by
    rw [merge_some, right a b same.1 rfl]
    rfl
  have bc : merge (some b) (some c) = .ok (some c) := by
    rw [merge_some, right b c same.2 same.2.symm]
    rfl
  have ac : merge (some a) (some c) = .ok (some c) := by
    rw [merge_some, right a c (same.1.trans same.2) same.2.symm]
    rfl
  constructor
  · rintro ⟨left, first, second⟩
    cases ab.symm.trans first
    cases bc.symm.trans second
    exact ⟨some c, bc, ac⟩
  · rintro ⟨later, first, second⟩
    cases bc.symm.trans first
    cases ac.symm.trans second
    exact ⟨some b, ab, bc⟩

theorem associates_some (b : Value) : ∀ a c : Value, a.DistinctKeys → b.DistinctKeys →
    c.DistinctKeys → Associates (some a) (some b) (some c) := by
  induction b using Value.induct with
  | string text =>
    intro a c _ _ _
    by_cases same : a.shape = .string ∧ .string = c.shape
    · refine associates_of_overriding (fun x y left right => ?_) same
      cases y with
      | string => cases x <;> first | rfl | cases left
      | _ => cases right
    · exact associates_of_shapes same
  | list items ih =>
    intro a c _ _ _
    by_cases same : a.shape = .list ∧ .list = c.shape
    · refine associates_of_overriding (fun x y left right => ?_) same
      cases y with
      | list => cases x <;> first | rfl | cases left
      | _ => cases right
    · exact associates_of_shapes same
  | map entries ih =>
    intro a c ha hb hc
    by_cases same : a.shape = .map ∧ .map = c.shape
    · cases a with
      | map left =>
        cases c with
        | map right =>
          have nodup {held : Entries Value} (distinct : (map held).DistinctKeys) :
              (Entries.keys held).Nodup := (distinctKeys_map.1 distinct).1
          refine associates_map (nodup ha) (nodup hb) (nodup hc) fun key => ?_
          cases found : Entries.get? key entries with
          | none => exact associates_none _ _
          | some middle =>
            cases here : Entries.get? key left with
            | none => exact associates_none_left _ _
            | some first =>
              cases there : Entries.get? key right with
              | none => exact associates_none_right _ _
              | some last =>
                exact ih _ (Entries.mem_of_get? found) first last (ha.get? here) (hb.get? found)
                  (hc.get? there)
        | _ => cases same.2
      | _ => cases same.1
    · exact associates_of_shapes same

end ConfigLang.Value
