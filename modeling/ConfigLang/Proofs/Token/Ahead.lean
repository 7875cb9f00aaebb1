import Mathlib.Data.List.Basic
import ConfigLang.Proofs.Source.Bounds
/-! The tokens of a text lie in it one behind the other, and of all kinds of tokens only newlines
and the text of a key may end in a line end. -/
namespace ConfigLang

namespace Pattern

def endsInText : Pattern → Bool
  | newline => false
  | keyText => false
  | exactly word => word.getLast?.all (!isLineEnd ·)
  | _ => true

theorem isLineEnd_eq_false {p : Char → Bool} {c : Char} (carriage : p '\r' = false)
    (newline : p '\n' = false) (holds : p c = true) : isLineEnd c = false := by
  cases ends : isLineEnd c with
  | false => rfl
  | true =>
    simp only [isLineEnd, Bool.or_eq_true, beq_iff_eq] at ends
    rcases ends with rfl | rfl <;> simp_all

theorem concat_of_all {holds : Char → Prop} {text : List Char} (nonempty : text ≠ [])
    (all : ∀ c ∈ text, holds c) : ∃ front c, text = front ++ [c] ∧ holds c := by
  obtain rfl | ⟨front, c, rfl⟩ := text.eq_nil_or_concat'
  · exact absurd rfl nonempty
  · exact ⟨front, c, rfl, all c (by simp)⟩

theorem concat_of_matches {pattern : Pattern} {text : List Char} (matched : pattern.Matches text)
    (ends : pattern.endsInText = true) :
    ∃ front c, text = front ++ [c] ∧ isLineEnd c = false := by
  have nonempty := ne_nil_of_matches matched
  cases pattern with
  | newline | keyText => cases ends
  | blanks =>
    exact concat_of_all nonempty fun c member => isLineEnd_eq_false rfl rfl (matched.2 c member)
  | exactly word =>
    obtain ⟨_, rfl⟩ := matched
    obtain rfl | ⟨front, c, rfl⟩ := text.eq_nil_or_concat'
    · exact absurd rfl nonempty
    · exact ⟨front, c, rfl, by simpa [endsInText] using ends⟩
  | directive =>
    obtain ⟨name, rfl, _, all⟩ := matched
    refine concat_of_all nonempty (List.forall_mem_cons.2 ⟨rfl, fun c member => ?_⟩)
    exact isLineEnd_eq_false rfl rfl (all c member)
  | stringLiteral =>
    obtain ⟨body, rfl, _⟩ := matched
    exact ⟨'"' :: body, '"', rfl, rfl⟩
  | identifier =>
    obtain ⟨c, rest, rfl, starts, all⟩ := matched
    refine concat_of_all nonempty (List.forall_mem_cons.2 ⟨?_, fun d member => ?_⟩)
    · exact isLineEnd_eq_false rfl rfl starts
    · exact isLineEnd_eq_false rfl rfl (all d member)
  | freeText =>
    obtain ⟨c, rest, rfl, starts, all⟩ := matched
    exact concat_of_all nonempty (List.forall_mem_cons.2 ⟨isLineEnd_eq_false rfl rfl starts, all⟩)

end Pattern

/-- Whether the tokens of the kind end in the middle of a line. The backslash in a key may take a
carriage return with it. -/
@[simp] def Token.Kind.endsInText : Token.Kind → Bool
  | newline | keyText => false
  | _ => true

theorem Mode.endsInText_of_kind : ∀ (mode : Mode), ∀ rule ∈ mode.rules,
    rule.kind.endsInText = true → rule.pattern.endsInText = true := by
  intro mode
  cases mode <;> decide

structure Token.Placed (source : List Char) (token : Token) : Prop where
  lies : token.span.Lies source
  ends : token.kind.endsInText = true → token.span.range.stop.BehindText source

theorem Scan.matches_of_mem {cursor : Cursor} {token : Token}
    (member : token ∈ (Scan.behind cursor).tokens) :
    ∃ mode : Mode, ∃ rule ∈ mode.rules, token.kind = rule.kind ∧
      rule.pattern.Matches token.text.toList := by
  obtain ⟨n, known⟩ := List.mem_iff_getElem?.1 member
  have given := TokenStream.answer_behind cursor n
  have short : n < (Scan.behind cursor).tokens.length := (List.getElem?_eq_some_iff.1 known).1
  rw [Scan.answers, List.getElem?_append_left (by simpa using short), List.getElem?_map, known]
    at given
  exact ⟨_, TokenStream.matches_of_next given⟩

theorem Token.Stands.placed {source : List Char} {token : Token} (stands : token.Stands 0 source)
    (ends : token.kind.endsInText = true →
      ∃ front c, token.text.toList = front ++ [c] ∧ Pattern.isLineEnd c = false) :
    token.Placed source := by
  obtain ⟨before, behind, _, start, stop⟩ := Text.sliceBytes_eq_some stands.slice
  refine ⟨⟨stands.file, stands.start, stands.stop, by omega⟩, fun inText => ?_⟩
  obtain ⟨front, c, text, inLine⟩ := ends inText
  obtain ⟨before, slice⟩ := Text.sliceBytes_zero_of_slice stands.slice
  exact ⟨before ++ front, c, by rw [slice, text, List.append_assoc], inLine⟩

inductive Ahead (source : List Char) : Nat → List Token → Prop
  | nil {low : Nat} : Ahead source low []
  | cons {low : Nat} {token : Token} {tokens : List Token}
      (le : low ≤ token.span.range.start.offset) (placed : token.Placed source)
      (others : Ahead source token.span.range.stop.offset tokens) :
      Ahead source low (token :: tokens)

section ahead

variable {source : List Char} {low low' : Nat} {tokens kept : List Token}

theorem Ahead.lower (ahead : Ahead source low tokens) (le : low' ≤ low) :
    Ahead source low' tokens := by
  cases ahead with
  | nil => exact .nil
  | cons above placed others => exact .cons (le.trans above) placed others

theorem Ahead.uncons {token : Token} (ahead : Ahead source low (token :: tokens)) :
    low ≤ token.span.range.start.offset ∧ token.Placed source ∧
      Ahead source token.span.range.stop.offset tokens := by
  cases ahead with
  | cons le placed others => exact ⟨le, placed, others⟩

theorem Ahead.sublist (ahead : Ahead source low tokens) (sublist : kept.Sublist tokens) :
    Ahead source low kept := by
  induction sublist generalizing low with
  | slnil => exact .nil
  | cons token sub ih =>
    cases ahead with
    | cons le placed others => exact (ih others).lower (le.trans placed.lies.ordered)
  | cons_cons token sub ih =>
    cases ahead with
    | cons le placed others => exact .cons le placed (ih others)

theorem ahead_of_adjoin {position : Position} (adjoin : Adjoin position tokens)
    (placed : ∀ token ∈ tokens, token.Placed source) : Ahead source position.offset tokens := by
  induction tokens generalizing position with
  | nil => exact .nil
  | cons token tokens ih =>
    obtain ⟨here, behind⟩ := adjoin
    obtain ⟨first, others⟩ := List.forall_mem_cons.1 placed
    exact .cons (by rw [here]) first (ih behind others)

theorem ahead_of_tokenize {text : String} (done : tokenize 0 text = .ok tokens) :
    Ahead text.toList 0 tokens := by
  have cut := cut_of_tokenize done
  have scanned : tokens = (Scan.ofText 0 text).tokens := by
    simp only [tokenize] at done
    split at done
    · cases done
    · cases done
      rfl
  refine ahead_of_adjoin cut.adjoin fun token member => ?_
  have stands : token.Stands 0 (text.toList ++ []) := cut.stands token member
  rw [List.append_nil] at stands
  refine stands.placed fun inText => ?_
  rw [scanned] at member
  obtain ⟨mode, rule, known, kind, matched⟩ := Scan.matches_of_mem member
  rw [kind] at inText
  exact Pattern.concat_of_matches matched (mode.endsInText_of_kind rule known inText)

end ahead

end ConfigLang
