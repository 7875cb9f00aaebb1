import Mathlib
import ConfigLang.Proofs.Eval.Reach
/-! Templates belong to the top level. A block is looked through for templates when it is evaluated:
one that evaluation comes to below the top level must have none, while the body of a template that
nothing is made from may hold anything. -/
namespace ConfigLang

/-- The value that stands behind a key or a dash, the body of a template included. -/
def Item.node? : Item → Option ValueNode
  | .tagged _ value _ _ => some value
  | .untagged value _ => some value
  | _ => none

/-- The block `inner` is written in `outer`, as the value of an item or the body of a template. -/
def ContainsBlock (outer inner : List Item) : Prop :=
  ∃ item ∈ outer, ∃ span, item.node? = some (.block inner span)

namespace Document

open Eval

def DeclaresBelow (document : Document) : Prop :=
  ∃ block, Relation.TransGen ContainsBlock document.items block ∧
    ∃ item ∈ block, item.isTemplate = true

def Reaches (document : Document) (argument : Option Value) (block : List Item) : Prop :=
  ∃ templates, declare argument [] document.items = .ok templates ∧
    Relation.TransGen (LeadsTo templates) document.items block

theorem nested_template_unread :
    ∃ document, parse inputName defaultLimit "@template [t] \x7b\n@template [u] x\n\x7d\n[k] v\n" =
        .ok document ∧ document.DeclaresBelow ∧
      document.evaluate defaultLimit none = .ok (some (.map [("k", .string "v")])) := by
  refine ⟨_, by cbv, ?_, rfl⟩
  exact ⟨_, .single ⟨_, .head _, _, rfl⟩, _, .head _, rfl⟩

theorem isTemplate_of_reaches {document : Document} {limit : Nat} {argument value : Option Value}
    (evaluated : document.evaluate limit argument = .ok value) {block : List Item}
    (reached : Relation.TransGen HoldsBlock document.items block ∨
      document.Reaches argument block) :
    ∀ item ∈ block, item.isTemplate = false := by
  obtain ⟨templates, declared, evaluates⟩ := evaluates_of_evaluate evaluated
  rcases reached with nested | ⟨others, same, reached⟩
  · exact (evaluates_of_nested evaluates nested).2
  · rw [declared] at same
    cases same
    exact (evaluates_of_reached evaluates reached).2

/-- A template below the top level is an error wherever evaluation comes to its block: outside
template bodies at any depth, and in a body that some block is made from. -/
theorem evaluate_error_of_nested_template {document : Document} (limit : Nat)
    {argument : Option Value} {block : List Item}
    (reached : Relation.TransGen HoldsBlock document.items block ∨
      document.Reaches argument block) {item : Item} (member : item ∈ block)
    (template : item.isTemplate = true) :
    ∃ error, document.evaluate limit argument = .error error := by
  cases evaluated : document.evaluate limit argument with
  | error error => exact ⟨error, rfl⟩
  | ok value =>
    have plain : item.isTemplate = false := isTemplate_of_reaches evaluated reached item member
    rw [plain] at template
    cases template

theorem evaluate_error_of_nested_template_in_body :
    let leaf (template : Option Span) : Item :=
      .tagged (.simple "u" default) (.text "x" default) template default
    let inner : List Item := [leaf (some default)]
    let body : List Item := [.untagged (.block inner default) default]
    let made : List Item := [.inherit ⟨["t"], default⟩ default, leaf none]
    let document : Document :=
      ⟨[.tagged (.simple "t" default) (.block body default) (some default) default,
        .untagged (.block made default) default], default, .single "" ""⟩
    (Relation.TransGen HoldsBlock document.items inner ∨ document.Reaches none inner) ∧
      ∃ error, document.evaluate defaultLimit none = .error error := by
  intro leaf inner body made document
  have outside : HoldsBlock document.items made := ⟨_, .tail _ (.head _), default, rfl⟩
  have applied : Inherits [("t", .block body default)] made body :=
    ⟨⟨["t"], default⟩, default, default, rfl, rfl⟩
  have inside : HoldsBlock body inner := ⟨_, .head _, default, rfl⟩
  have reached : document.Reaches none inner := by
    refine ⟨[("t", .block body default)], rfl, ?_⟩
    exact .tail (.tail (.single (.inl outside)) (.inr applied)) (.inl inside)
  exact ⟨.inr reached, evaluate_error_of_nested_template defaultLimit (.inr reached) (.head _) rfl⟩

end Document

end ConfigLang
