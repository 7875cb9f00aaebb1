import ConfigLang.Proofs.Eval.Items
import ConfigLang.Proofs.Merge.Spread
/-! Evaluation never gives a map that has a key twice, if the argument has none. -/
namespace ConfigLang

namespace Value

theorem DistinctKeys.mergeEntries {right left merged : Entries Value}
    (inner : ∀ entry ∈ right, ∀ {a held : Value}, a.DistinctKeys →
      mergeOnto a entry.2 = .ok held → held.DistinctKeys)
    (hr : ∀ entry ∈ right, entry.2.DistinctKeys) (hl : (map left).DistinctKeys)
    (done : mergeEntries left right = .ok merged) : (map merged).DistinctKeys := by
  induction right generalizing left with
  | nil =>
    rw [Value.mergeEntries] at done
    cases done
    exact hl
  | cons entry rest ih =>
    obtain ⟨key, value⟩ := entry
    obtain ⟨here, inner⟩ := List.forall_mem_cons.1 inner
    obtain ⟨hv, hr⟩ := List.forall_mem_cons.1 hr
    obtain ⟨held, met, later⟩ := mergeEntries_cons_ok.1 done
    refine ih inner hr (hl.insert key ?_) later
    cases found : Entries.get? key left with
    | none =>
      rw [found] at met
      cases met
      exact hv
    | some current =>
      rw [found, merge_some] at met
      cases onto : mergeOnto current value with
      | error conflict => rw [onto] at met; cases met
      | ok value =>
        rw [onto] at met
        cases met
        exact here (hl.get? found) onto

theorem DistinctKeys.mergeOnto {b : Value} : ∀ {a merged : Value}, a.DistinctKeys →
    b.DistinctKeys → mergeOnto a b = .ok merged → merged.DistinctKeys := by
  induction b using Value.induct with
  | string text =>
    intro a merged _ hb done
    cases a with
    | string => cases done; exact hb
    | _ => cases done
  | list items _ =>
    intro a merged _ hb done
    cases a with
    | list => cases done; exact hb
    | _ => cases done
  | map entries ih =>
    intro a merged ha hb done
    cases a with
    | map left =>
      rw [Value.mergeOnto] at done
      cases met : Value.mergeEntries left entries with
      | error conflict => rw [met] at done; cases done
      | ok whole =>
        rw [met] at done
        cases done
        have values := (distinctKeys_map.1 hb).2
        exact DistinctKeys.mergeEntries
          (fun entry member _ _ distinct => ih entry member distinct (values entry member))
          values ha met
    | _ => cases done

theorem Distinct.spreadOnto {a b spread : Option Value} (ha : Distinct a) (hb : Distinct b)
    (done : spreadOnto a b = .ok spread) : Distinct spread := by
  cases b with
  | none =>
    cases done
    exact ha
  | some b =>
    cases a with
    | none =>
      cases done
      exact hb
    | some a =>
      by_cases lists : a.shape = .list ∧ b.shape = .list
      · obtain ⟨xs, rfl⟩ := exists_items lists.1
        obtain ⟨ys, rfl⟩ := exists_items lists.2
        cases done
        exact distinct_some.2 ((distinct_some.1 ha).append (distinct_some.1 hb))
      · have same := (shape_of_spreadOnto done).1
        rw [spreadOnto_eq_merge fun isList => lists ⟨isList, same ▸ isList⟩, merge_some] at done
        cases onto : Value.mergeOnto a b with
        | error conflict => rw [onto] at done; cases done
        | ok value =>
          rw [onto] at done
          cases done
          exact distinct_some.2
            (DistinctKeys.mergeOnto (distinct_some.1 ha) (distinct_some.1 hb) onto)

end Value

namespace Eval

open Value

theorem distinct_empty (shape : Shape) : Distinct (some (.empty shape)) := by
  refine distinct_some.2 ?_
  cases shape with
  | string => trivial
  | list => trivial
  | map => exact distinctKeys_map.2 ⟨List.nodup_nil, nofun⟩

namespace Accumulator

variable {acc next : Accumulator} (distinct : Distinct acc.value)

include distinct

theorem distinct_lock {shape : Shape} {span : Span} (done : acc.lock shape span = .ok next) :
    Distinct next.value := by
  unfold lock at done
  split at done
  · cases done
    exact distinct_empty shape
  · split at done
    · cases done
      exact distinct
    · cases done

theorem distinct_insert (key : String) {value : Option Value} (held : Distinct value) :
    Distinct (acc.insert key value).value := by
  unfold insert
  split
  · next entries value same =>
    rw [same] at distinct
    exact distinct_some.2 ((distinct_some.1 distinct).insert key (distinct_some.1 held))
  · next entries same =>
    rw [same] at distinct
    exact distinct_some.2 ((distinct_some.1 distinct).erase key)
  · exact distinct

theorem distinct_push {value : Option Value} (held : Distinct value) :
    Distinct (acc.push value).value := by
  unfold push
  split
  · next items value same =>
    rw [same] at distinct
    have last : (Value.list [value]).DistinctKeys :=
      distinctKeys_list.2 (List.forall_mem_singleton.2 (distinct_some.1 held))
    exact distinct_some.2 ((distinct_some.1 distinct).append last)
  · exact distinct

theorem distinct_appendLine {argument : Option Value} {line : StringLine}
    (done : acc.appendLine argument line = .ok next) : Distinct next.value := by
  unfold appendLine at done
  split at done
  · obtain ⟨text, _, done⟩ := except_bind_eq_ok.1 done
    cases done
    exact distinct_some.2 trivial
  · cases done
    exact distinct

end Accumulator

theorem distinct_spreadValue {argument value : Option Value} {path : Path}
    (distinct : Distinct argument) (done : spreadValue argument path = .ok value) :
    Distinct value := by
  unfold spreadValue at done
  split at done
  · cases done
    exact distinct_none
  · unfold lookup at done
    split at done
    · next found selected =>
      cases done
      obtain ⟨whole, given, selected⟩ := Option.bind_eq_some_iff.1 selected
      exact distinct_some.2 ((distinct whole given).select? selected)
    · cases done

theorem Accumulator.spread_ok {acc next : Accumulator} {argument : Option Value} {path : Path}
    (done : acc.spread argument path = .ok next) :
    ∃ value, spreadValue argument path = .ok value ∧
      spreadOnto acc.value value = .ok next.value := by
  obtain ⟨value, found, done⟩ := except_bind_eq_ok.1 done
  refine ⟨value, found, ?_⟩
  cases value with
  | none =>
    cases done
    rfl
  | some value =>
    simp only [spreadOnto]
    cases appended : appendSpread acc.value value with
    | error conflict =>
      simp only [appended] at done
      cases done
    | ok held =>
      simp only [appended] at done
      split at done
      · next same => cases same
      · next same =>
        cases done
        exact same
      · next same =>
        cases done
        exact same

section items

variable {nested : NodeEval} {argument : Option Value} (given : Distinct argument)
  (inner : ∀ {node : ValueNode} {value : Option Value},
    nested node argument = .ok value → Distinct value)

include given inner

theorem distinct_addItem {progress next : Progress} {item : Item}
    (distinct : Distinct progress.accumulator.value)
    (added : addItem nested argument progress item = .ok next) :
    Distinct next.accumulator.value := by
  cases item with
  | blank span =>
    cases added
    exact distinct
  | comment comment =>
    cases added
    exact distinct
  | inherit path span =>
    rw [addItem] at added
    split at added
    · cases added
    · cases added
      exact distinct
  | tagged key node template span =>
    cases template with
    | some mark =>
      cases added
      exact distinct
    | none =>
      obtain ⟨locked, fits, added⟩ := except_bind_eq_ok.1 added
      obtain ⟨name, _, added⟩ := except_bind_eq_ok.1 added
      obtain ⟨value, evaluated, added⟩ := except_bind_eq_ok.1 added
      cases added
      exact Accumulator.distinct_insert (Accumulator.distinct_lock distinct fits) name
        (inner evaluated)
  | untagged node span =>
    obtain ⟨locked, fits, added⟩ := except_bind_eq_ok.1 added
    obtain ⟨value, evaluated, added⟩ := except_bind_eq_ok.1 added
    cases added
    exact Accumulator.distinct_push (Accumulator.distinct_lock distinct fits) (inner evaluated)
  | strings line =>
    obtain ⟨locked, fits, added⟩ := except_bind_eq_ok.1 added
    obtain ⟨acc, appended, added⟩ := except_bind_eq_ok.1 added
    cases added
    exact Accumulator.distinct_appendLine (Accumulator.distinct_lock distinct fits) appended
  | spread path =>
    obtain ⟨acc, spread, added⟩ := except_bind_eq_ok.1 added
    cases added
    obtain ⟨value, found, onto⟩ := Accumulator.spread_ok spread
    exact distinct.spreadOnto (distinct_spreadValue given found) onto

theorem distinct_addItems {progress next : Progress} {items : List Item}
    (distinct : Distinct progress.accumulator.value)
    (added : addItems nested argument progress items = .ok next) :
    Distinct next.accumulator.value := by
  induction items generalizing progress with
  | nil =>
    cases added
    exact distinct
  | cons item rest ih =>
    obtain ⟨step, here, later⟩ := except_bind_eq_ok.1 added
    exact ih (distinct_addItem given inner distinct here) later

theorem distinct_evalItems {apply : TemplateEval} {items : List Item} {value : Option Value}
    (applied : ∀ {parent : Path × Span} {argument value : Option Value}, Distinct argument →
      apply parent argument = .ok value → Distinct value)
    (evaluated : evalItems nested apply argument items = .ok value) : Distinct value := by
  obtain ⟨progress, added, evaluated⟩ := except_bind_eq_ok.1 evaluated
  have distinct := distinct_addItems given inner distinct_none added
  cases parent : progress.parent with
  | none =>
    simp only [parent] at evaluated
    cases evaluated
    exact distinct
  | some parent' =>
    simp only [parent] at evaluated
    exact applied distinct evaluated

end items

variable {templates : Templates} {limit : Nat}

mutual

theorem distinct_evalNode : {depth : Nat} → {node : ValueNode} →
    {argument value : Option Value} → Distinct argument →
    evalNode templates limit depth node argument = .ok value → Distinct value
  | _, .text text span, _, _, _, evaluated => by
    rw [evalNode] at evaluated
    cases evaluated
    exact distinct_some.2 trivial
  | _, .strings lines span, argument, _, _, evaluated => by
    rw [evalNode] at evaluated
    cases joined : joinLines argument lines with
    | error e =>
      rw [joined] at evaluated
      cases evaluated
    | ok text =>
      rw [joined] at evaluated
      cases evaluated
      exact distinct_some.2 trivial
  | 0, .block items span, _, _, _, evaluated => by
    rw [evalNode] at evaluated
    cases evaluated
  | depth + 1, .block items span, argument, _, given, evaluated => by
    rw [evalNode] at evaluated
    obtain ⟨_, _, evaluated⟩ := except_bind_eq_ok.1 evaluated
    exact distinct_evalItems given (distinct_evalNode given) distinct_applyTemplate evaluated

theorem distinct_applyTemplate : {depth : Nat} → {parent : Path × Span} →
    {argument value : Option Value} → Distinct argument →
    applyTemplate templates limit depth parent argument = .ok value → Distinct value
  | 0, (path, span), _, _, _, evaluated => by
    rw [applyTemplate] at evaluated
    obtain ⟨_, _, evaluated⟩ := except_bind_eq_ok.1 evaluated
    cases evaluated
  | depth + 1, (path, span), _, _, given, evaluated => by
    rw [applyTemplate] at evaluated
    obtain ⟨node, _, evaluated⟩ := except_bind_eq_ok.1 evaluated
    exact distinct_evalNode given evaluated

end

theorem distinct_evalDocument {argument value : Option Value} {items : List Item}
    (given : Distinct argument) (evaluated : evalDocument limit argument items = .ok value) :
    Distinct value := by
  obtain ⟨templates, _, evaluated⟩ := except_bind_eq_ok.1 evaluated
  exact distinct_evalItems given (distinct_evalNode given) distinct_applyTemplate evaluated

end Eval

end ConfigLang
