import Mathlib
import ConfigLang.Proofs.Nesting.Evaluation
import ConfigLang.Proofs.Nesting.Reading
/-! Reading and evaluating count alike. A document without templates, read and evaluated at one
limit, is stopped by the same block. -/
namespace ConfigLang

theorem firstTooDeep_of_openings {limit : Nat} {xs ys : List Block}
    (same : xs.map Block.opening = ys.map Block.opening) :
    (firstTooDeep limit xs).map Block.opening = (firstTooDeep limit ys).map Block.opening := by
  have within (blocks : List Block) : (firstTooDeep limit blocks).map Block.opening =
      firstTooDeep limit (blocks.map Block.opening) := by
    rw [firstTooDeep, firstTooDeep, List.find?_map]
    rfl
  rw [within, within, same]

namespace Document

/-- With a limit on the depth, a text is read and its document evaluated if no block is deeper;
otherwise both give up where the first block starts that is one too deep. -/
theorem limits_agree {filename text : String} {document : Document} {enough : Nat}
    (parsed : parse filename enough text = .ok document)
    (untemplated : areUntemplated document.items = true) {argument value : Option Value}
    {enough' : Nat} (evaluated : document.evaluate enough' argument = .ok value) (limit : Nat) :
    ((∃ read, parse filename limit text = .ok read) ↔
      ∀ block ∈ blocksOf 0 document.items, block.depth ≤ limit) ∧
    ((∃ result, document.evaluate limit argument = .ok result) ↔
      ∀ block ∈ blocksOf 0 document.items, block.depth ≤ limit) ∧
    ((∃ block ∈ blocksOf 0 document.items, limit < block.depth) →
      ∃ block brace, firstTooDeep limit (blocksOf 0 document.items) = some block ∧
        brace.file = block.span.file ∧ brace.range.start = block.span.range.start ∧
        parse filename limit text = .error (.nestingTooDeep limit brace) ∧
        document.evaluate limit argument = .error (.nestingTooDeep limit block.span)) := by
  obtain ⟨blocks, same, reads⟩ := parse_eq_cutOff parsed
  have evaluates := evaluate_eq_cutOff untemplated evaluated limit
  have first : (firstTooDeep limit blocks).map Block.opening =
      (firstTooDeep limit (blocksOf 0 document.items)).map Block.opening :=
    firstTooDeep_of_openings same
  rw [reads limit, evaluates]
  refine ⟨?_, ?_, ?_⟩
  · rw [exists_ok_cutOff, ← firstTooDeep_eq_none_iff_le, ← Option.map_eq_none_iff, first,
      Option.map_eq_none_iff]
  · rw [exists_ok_cutOff, firstTooDeep_eq_none_iff_le]
  · rintro ⟨deep, member, beyond⟩
    cases here : firstTooDeep limit (blocksOf 0 document.items) with
    | none =>
      have shallow := firstTooDeep_eq_none_iff_le.1 here deep member
      omega
    | some block =>
      rw [here, Option.map_some, Option.map_eq_some_iff] at first
      obtain ⟨brace, there, alike⟩ := first
      refine ⟨block, brace.span, rfl, ?_, ?_, ?_, ?_⟩
      · exact congrArg (·.span.file) alike
      · exact congrArg (·.span.range.start) alike
      · rw [cutOff, there]
      · rw [cutOff, here]

theorem limits_agree_siblings :
    let text := "- \x7b\n- a\n\x7d\n- \x7b\n- \x7b\n- b\n\x7d\n\x7d"
    ∃ document, parse "siblings" 2 text = .ok document ∧
      document.evaluate 2 none =
        .ok (some (.list [.list [.string "a"], .list [.list [.string "b"]]])) ∧
      ∃ brace span, brace.range.start = ⟨16, 4, 2⟩ ∧ span.range.start = ⟨16, 4, 2⟩ ∧
        parse "siblings" 1 text = .error (.nestingTooDeep 1 brace) ∧
        document.evaluate 1 none = .error (.nestingTooDeep 1 span) := by
  intro text
  have tree : ∃ items, parseItems 2 text = .ok items ∧ areUntemplated items = true ∧
      Eval.evalDocument 2 none items =
        .ok (some (.list [.list [.string "a"], .list [.list [.string "b"]]])) ∧
      ∃ block, firstTooDeep 1 (blocksOf 0 items) = some block ∧
        block.span.range.start = ⟨16, 4, 2⟩ :=
    ⟨_, by cbv, rfl, rfl, _, rfl, rfl⟩
  obtain ⟨items, read, untemplated, evaluated, block, first, start⟩ := tree
  have parsed : parse "siblings" 2 text =
      .ok ⟨items, ⟨0, ⟨.start, endOf text⟩⟩, .single "siblings" text⟩ := by
    rw [parse, read]
    rfl
  have member : block ∈ blocksOf 0 items := List.mem_of_find?_eq_some first
  have deep : 1 < block.depth := by
    rw [depth_of_firstTooDeep first]
    decide
  obtain ⟨_, _, stopped⟩ := limits_agree parsed untemplated evaluated 1
  obtain ⟨stopping, brace, same, _, starts, refused, stuck⟩ := stopped ⟨block, member, deep⟩
  cases first.symm.trans same
  exact ⟨_, parsed, evaluated, brace, block.span, starts.trans start, start, refused, stuck⟩

end Document

end ConfigLang
