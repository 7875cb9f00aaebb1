import Mathlib
import ConfigLang.Proofs.Eval.Simulation
/-! Raising the limit. Reading a text and evaluating a document with a higher limit end as they
do with a lower one, unless the lower one is the reason for which they give up. -/
namespace ConfigLang

open Eval (Settles TooDeep)

namespace Draft

variable {limit limit' : Nat} (le : limit ≤ limit')

include le

theorem settles_openBlock (draft : Draft) (entry : Entry) (token : Token) :
    Settles limit limit' (draft.openBlock limit entry token)
      (draft.openBlock limit' entry token) := by
  rcases Nat.eq_or_lt_of_le le with rfl | lower
  · exact .refl _
  · unfold openBlock
    by_cases full : limit ≤ draft.blocks.length
    · rw [if_pos full]
      exact .inr ⟨lower, limit, token.span, rfl⟩
    · have room : ¬ limit' ≤ draft.blocks.length := by omega
      rw [if_neg full, if_neg room]
      exact .refl _

theorem settles_pushValueBelow (draft : Draft) (entry : Entry) (token : Token) :
    Settles limit limit' (draft.pushValueBelow limit entry token)
      (draft.pushValueBelow limit' entry token) := by
  unfold pushValueBelow
  by_cases brace : token.kind = .openCurly
  · rw [if_pos brace, if_pos brace]
    exact settles_openBlock le draft entry token
  · rw [if_neg brace, if_neg brace]
    exact .refl _

theorem settles_pushInside (draft : Draft) (token : Token) :
    Settles limit limit' (draft.pushInside limit token) (draft.pushInside limit' token) := by
  obtain ⟨blocks, items, awaiting⟩ := draft
  cases awaiting with
  | value entry behindLines =>
    cases kind : token.kind with
    | line | newline =>
      simp only [pushInside, kind]
      exact .refl _
    | openCurly =>
      simp only [pushInside, kind]
      exact settles_openBlock le _ entry token
    | _ =>
      simp only [pushInside, kind]
      cases behindLines with
      | false => exact .refl _
      | true => exact settles_pushValueBelow le _ entry token
  | valueBelow entry => exact settles_pushValueBelow le _ entry token
  | _ => exact .refl _

theorem settles_push (draft : Draft) (token : Token) :
    Settles limit limit' (draft.push limit token) (draft.push limit' token) := by
  unfold push
  split
  · exact .refl _
  · cases draft.endLine? with
    | some next => exact .refl _
    | none => exact settles_pushInside le draft token
  · exact settles_pushInside le draft token

theorem settles_pushAll (draft : Draft) (tokens : List Token) :
    Settles limit limit' (draft.pushAll limit tokens) (draft.pushAll limit' tokens) := by
  induction tokens generalizing draft with
  | nil => exact .refl _
  | cons token rest ih =>
    rw [pushAll, pushAll]
    exact (settles_push le draft token).bind fun next => ih next

end Draft

namespace Document

theorem settles_parse {limit limit' : Nat} (le : limit ≤ limit') (filename text : String) :
    Settles limit limit' (parse filename limit text) (parse filename limit' text) := by
  refine Settles.bind ?_ fun items => .refl _
  refine (Settles.refl _).bind fun tokens => ?_
  exact (Draft.settles_pushAll le .empty tokens).bind fun draft => .refl _

/-- A higher limit changes nothing but that nesting is too deep. -/
theorem outcome_of_higher_limit {limit limit' : Nat} (le : limit ≤ limit') :
    (∀ (document : Document) (argument : Option Value),
      ¬ TooDeep (document.evaluate limit argument) →
        document.evaluate limit' argument = document.evaluate limit argument) ∧
    ∀ filename text, ¬ TooDeep (parse filename limit text) →
      parse filename limit' text = parse filename limit text := by
  constructor
  · intro document argument goesOn
    have settles := document.settles_evaluate le (.refl argument document.outerPaths)
    exact (settles.eq goesOn).symm
  · intro filename text goesOn
    exact ((settles_parse le filename text).eq goesOn).symm

theorem outcome_of_higher_limit_one_block :
    let text := "- \x7b\n- a\n\x7d"
    let document : Document :=
      ⟨[.untagged (.block [.untagged (.text "a" default) default] default) default], default,
        .single "" ""⟩
    (TooDeep (document.evaluate 0 none) ∧ TooDeep (parse "nested" 0 text)) ∧
      document.evaluate 9 none = .ok (some (.list [.list [.string "a"]])) ∧
      ∃ items, parseItems 1 text = .ok items ∧ parse "nested" 9 text = parse "nested" 1 text := by
  intro text document
  have read : ∃ items, parseItems 1 text = .ok items := ⟨_, by cbv⟩
  obtain ⟨items, read⟩ := read
  have parsed : ¬ TooDeep (parse "nested" 1 text) := by
    rintro ⟨_, _, deep⟩
    rw [parse, read] at deep
    cases deep
  have evaluated : document.evaluate 1 none = .ok (some (.list [.list [.string "a"]])) := rfl
  have goesOn : ¬ TooDeep (document.evaluate 1 none) := by
    rintro ⟨_, _, deep⟩
    rw [evaluated] at deep
    cases deep
  obtain ⟨evaluate, parse⟩ := outcome_of_higher_limit (show 1 ≤ 9 by decide)
  refine ⟨⟨⟨0, _, rfl⟩, 0, _, by cbv⟩, ?_, items, read, parse "nested" text parsed⟩
  exact (evaluate document none goesOn).trans evaluated

end Document

end ConfigLang
