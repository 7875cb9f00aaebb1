import ConfigLang.Error
import ConfigLang.Proofs.Merge.Spread
/-! The laws of merging. An absent value is neutral on either side, a value merged onto itself
stays as it is, and of three values it does not matter which two are merged first. Two groupings
may meet different conflicts, but a conflict in one is a conflict in the other. -/
namespace ConfigLang.Value

theorem mergeEntries_self {entries : Entries Value} (nodup : (Entries.keys entries).Nodup)
    (inner : ∀ entry ∈ entries, mergeOnto entry.2 entry.2 = .ok entry.2) :
    mergeEntries entries entries = .ok entries := by
  apply (mergeEntries_eq_ok_iff nodup nodup).2
  constructor
  · have nothingNew : (Entries.keys entries).filter (· ∉ Entries.keys entries) = [] := by
      simp
    rw [nothingNew, List.append_nil]
  · intro key
    cases found : Entries.get? key entries with
    | none => rfl
    | some value =>
      have same := inner _ (Entries.mem_of_get? found)
      rw [merge_some, same]
      rfl

theorem mergeOnto_self {value : Value} (distinct : value.DistinctKeys) :
    mergeOnto value value = .ok value := by
  induction value using Value.induct with
  | string text => rfl
  | list items _ => rfl
  | map entries ih =>
    obtain ⟨nodup, values⟩ := distinctKeys_map.1 distinct
    have whole := mergeEntries_self nodup fun entry member => ih entry member (values entry member)
    rw [mergeOnto, whole]
    rfl

theorem merge_self {a : Option Value} (distinct : Distinct a) : merge a a = .ok a := by
  cases a with
  | none => rfl
  | some value =>
    rw [merge_some, mergeOnto_self (distinct_some.1 distinct)]
    rfl

theorem associates {a b c : Option Value} (ha : Distinct a) (hb : Distinct b)
    (hc : Distinct c) : Associates a b c := by
  cases b with
  | none => exact associates_none a c
  | some middle =>
    cases a with
    | none => exact associates_none_left (some middle) c
    | some left =>
      cases c with
      | none => exact associates_none_right (some left) (some middle)
      | some right =>
        exact associates_some middle left right (distinct_some.1 ha) (distinct_some.1 hb)
          (distinct_some.1 hc)

theorem toOption_eq_of_values {x y : Except Conflict (Option Value)}
    (same : ∀ value, x = .ok value ↔ y = .ok value) : x.toOption = y.toOption := by
  cases x with
  | ok value =>
    rw [(same value).1 rfl]
  | error conflict =>
    cases y with
    | ok value => cases (same value).2 rfl
    | error conflict' => rfl

/-- Merging is a monoid on optional values in which every element is idempotent, and so is
spreading but for idempotence: the two groupings of three operands come to the same value, with
its keys in the same order, or both meet a conflict. -/
theorem merge_monoid {a b c : Option Value} (ha : Distinct a) (hb : Distinct b)
    (hc : Distinct c) :
    merge a none = .ok a ∧ merge none b = .ok b ∧ merge a a = .ok a ∧
      (merge a b >>= fun ab => merge ab c).toOption =
        (merge b c >>= fun bc => merge a bc).toOption ∧
      ∀ v w : Value, v.DistinctKeys → w.DistinctKeys →
        (appendSpread a v >>= fun av => appendSpread av w).toOption =
          (appendSpread (some v) w >>= fun vw => spreadOnto a vw).toOption := by
  refine ⟨merge_none_right a, merge_none_left b, merge_self ha, ?_, ?_⟩
  · apply toOption_eq_of_values
    intro value
    rw [except_bind_eq_ok, except_bind_eq_ok]
    exact associates ha hb hc value
  · intro v w hv hw
    apply toOption_eq_of_values
    intro value
    rw [except_bind_eq_ok, except_bind_eq_ok]
    exact spreadsAssociate ha (distinct_some.2 hv) (distinct_some.2 hw) value

/-- Grouped to the left the clash under `x` comes first, grouped to the right the one under
`y`; neither grouping gives a value. -/
theorem merge_monoid_of_two_clashes :
    let a := map [("x", string "1")]
    let b := map [("x", list []), ("y", string "2")]
    let c := map [("y", map [])]
    merge (some a) (some b) = .error ⟨.string, .list, ["x"]⟩ ∧
      merge (some b) (some c) = .error ⟨.string, .map, ["y"]⟩ ∧
      (merge (some a) (some b) >>= fun ab => merge ab (some c)).toOption =
        (merge (some b) (some c) >>= fun bc => merge (some a) bc).toOption ∧
      (appendSpread (some a) b >>= fun ab => appendSpread ab c).toOption =
        (appendSpread (some b) c >>= fun bc => spreadOnto (some a) bc).toOption := by
  intro a b c
  have ha : a.DistinctKeys := by simp [a, DistinctKeys, DistinctKeysOfEntries, Entries.keys]
  have hb : b.DistinctKeys := by
    simp [b, DistinctKeys, DistinctKeysOfEntries, DistinctKeysOfItems, Entries.keys]
  have hc : c.DistinctKeys := by simp [c, DistinctKeys, DistinctKeysOfEntries, Entries.keys]
  obtain ⟨_, _, _, merged, spread⟩ :=
    merge_monoid (distinct_some.2 ha) (distinct_some.2 hb) (distinct_some.2 hc)
  exact ⟨rfl, rfl, merged, spread b c hb hc⟩

end ConfigLang.Value
