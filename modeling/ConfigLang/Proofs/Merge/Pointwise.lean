import ConfigLang.Proofs.Value.Distinct
/-! Merging maps key by key. The merged map holds under each key the merge of what the two sides
hold there; its keys are those of the left side, then the new ones of the right side. It exists
as soon as the two sides agree under every key of the right side. -/
namespace ConfigLang.Value

theorem merge_some (a b : Value) : merge (some a) (some b) = (mergeOnto a b).map some := rfl

theorem exists_of_merge_some {a : Option Value} {b : Value} {merged : Option Value}
    (done : merge a (some b) = .ok merged) : ∃ value, merged = some value := by
  cases a with
  | none => exact ⟨b, (Except.ok.inj done).symm⟩
  | some a =>
    rw [merge_some] at done
    cases met : mergeOnto a b with
    | error conflict => simp [Except.map, met] at done
    | ok value =>
      rw [met] at done
      exact ⟨value, (Except.ok.inj done).symm⟩

theorem mergeEntries_cons_ok {left rest merged : Entries Value} {key : String} {value : Value} :
    mergeEntries left ((key, value) :: rest) = .ok merged ↔
      ∃ held, merge (Entries.get? key left) (some value) = .ok (some held) ∧
        mergeEntries (Entries.insert key held left) rest = .ok merged := by
  rw [mergeEntries]
  cases Entries.get? key left with
  | none => simp [merge]
  | some current =>
    rw [merge_some]
    cases met : mergeOnto current value with
    | error conflict => simp [Except.map, met]
    | ok held => simp [Except.map, met]

variable {left right merged : Entries Value}

theorem get?_mergeEntries (nodup : (Entries.keys right).Nodup)
    (done : mergeEntries left right = .ok merged) (key : String) :
    merge (Entries.get? key left) (Entries.get? key right) = .ok (Entries.get? key merged) := by
  induction right generalizing left with
  | nil =>
    rw [mergeEntries] at done
    cases done
    exact merge_none_right _
  | cons head rest ih =>
    obtain ⟨name, value⟩ := head
    obtain ⟨absent, nodup⟩ := List.nodup_cons.1 nodup
    obtain ⟨held, here, later⟩ := mergeEntries_cons_ok.1 done
    have others := ih nodup later
    rw [Entries.get?_insert] at others
    by_cases same : name = key
    · subst same
      rw [if_pos rfl, Entries.get?_eq_none_iff.2 absent, merge_none_right] at others
      rw [Entries.get?_cons, if_pos rfl, here, others]
    · rw [if_neg same] at others
      rwa [Entries.get?_cons, if_neg same]

theorem keys_mergeEntries (nodup : (Entries.keys right).Nodup)
    (done : mergeEntries left right = .ok merged) :
    Entries.keys merged = Entries.keys left ++
      (Entries.keys right).filter (· ∉ Entries.keys left) := by
  induction right generalizing left with
  | nil =>
    rw [mergeEntries] at done
    cases done
    simp [Entries.keys]
  | cons head rest ih =>
    obtain ⟨name, value⟩ := head
    obtain ⟨absent, nodup⟩ := List.nodup_cons.1 nodup
    obtain ⟨held, _, later⟩ := mergeEntries_cons_ok.1 done
    rw [ih nodup later]
    have whole : Entries.keys ((name, value) :: rest) = name :: Entries.keys rest := rfl
    by_cases present : name ∈ Entries.keys left
    · rw [Entries.keys_insert_of_mem name held left present, whole,
        List.filter_cons_of_neg (by simpa using present)]
    · rw [Entries.keys_insert_of_not_mem name held left present, whole,
        List.filter_cons_of_pos (by simpa using present), List.append_assoc, List.singleton_append]
      refine congrArg (fun more => Entries.keys left ++ name :: more) ?_
      refine List.filter_congr fun key member => ?_
      have other : key ≠ name := fun same => absent (same ▸ member)
      simp [other]

theorem exists_mergeEntries (nodup : (Entries.keys right).Nodup)
    (agree : ∀ key ∈ Entries.keys right, ∃ held,
      merge (Entries.get? key left) (Entries.get? key right) = .ok held) :
    ∃ merged, mergeEntries left right = .ok merged := by
  induction right generalizing left with
  | nil => exact ⟨left, rfl⟩
  | cons head rest ih =>
    obtain ⟨name, value⟩ := head
    obtain ⟨absent, nodup⟩ := List.nodup_cons.1 nodup
    obtain ⟨held, here⟩ := agree name List.mem_cons_self
    rw [Entries.get?_cons, if_pos rfl] at here
    obtain ⟨held, rfl⟩ := exists_of_merge_some here
    obtain ⟨merged, later⟩ :
        ∃ merged, mergeEntries (Entries.insert name held left) rest = .ok merged := by
      refine ih nodup fun key member => ?_
      have other : name ≠ key := fun same => absent (same ▸ member)
      obtain ⟨found, there⟩ := agree key (List.mem_cons_of_mem _ member)
      rw [Entries.get?_cons, if_neg other] at there
      exact ⟨found, by rwa [Entries.get?_insert, if_neg other]⟩
    exact ⟨merged, mergeEntries_cons_ok.2 ⟨held, here, later⟩⟩

theorem nodup_mergeEntries (hl : (Entries.keys left).Nodup) (hr : (Entries.keys right).Nodup)
    (done : mergeEntries left right = .ok merged) : (Entries.keys merged).Nodup := by
  rw [keys_mergeEntries hr done]
  refine hl.append (hr.filter _) fun key here there => ?_
  simpa [here] using (List.mem_filter.1 there).2

/-- The merged map is the only one with these keys that holds the merge under each of them. -/
theorem mergeEntries_eq_ok_iff (hl : (Entries.keys left).Nodup)
    (hr : (Entries.keys right).Nodup) :
    mergeEntries left right = .ok merged ↔
      Entries.keys merged = Entries.keys left ++
          (Entries.keys right).filter (· ∉ Entries.keys left) ∧
        ∀ key, merge (Entries.get? key left) (Entries.get? key right) =
          .ok (Entries.get? key merged) := by
  constructor
  · exact fun done => ⟨keys_mergeEntries hr done, get?_mergeEntries hr done⟩
  · rintro ⟨order, pointwise⟩
    obtain ⟨found, done⟩ := exists_mergeEntries hr fun key _ => ⟨_, pointwise key⟩
    have same : found = merged := by
      refine Entries.ext_get? (nodup_mergeEntries hl hr done) ?_ fun key => ?_
      · rw [keys_mergeEntries hr done, order]
      · exact Except.ok.inj ((get?_mergeEntries hr done key).symm.trans (pointwise key))
    rwa [← same]

end ConfigLang.Value
