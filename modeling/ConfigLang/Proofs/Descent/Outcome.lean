import ConfigLang.Proofs.Descent.Program
import ConfigLang.Proofs.Reading.Incomplete
/-! What comes of a draft at a place: it takes the white space and then the next token, or the
tokens end there. -/
namespace ConfigLang

namespace Draft

def outcome (limit : Nat) (stop : Span) (draft : Draft) (tokens : List Token) :
    Except Error (List Item) :=
  (draft.pushAll limit tokens).bind (·.finish stop)

/-- The draft behind white space, of which only a comment takes notice. -/
def withGap (draft : Draft) (gap : List Char) : Draft :=
  match draft.awaiting with
  | .commentEnd comment => draft.await (.commentEnd { comment with text := comment.text ++ gap })
  | _ => draft

section outcome

variable {limit : Nat} {stop : Span} {draft next : Draft} {token : Token} {tokens : List Token}

theorem withGap_nil (draft : Draft) : draft.withGap [] = draft := by
  obtain ⟨blocks, items, awaiting⟩ := draft
  cases awaiting with
  | commentEnd comment => simp [withGap, await]
  | _ => rfl

theorem withGap_append (draft : Draft) (gap more : List Char) :
    (draft.withGap gap).withGap more = draft.withGap (gap ++ more) := by
  obtain ⟨blocks, items, awaiting⟩ := draft
  cases awaiting with
  | commentEnd comment => simp [withGap, await]
  | _ => rfl

theorem push_blank (limit : Nat) (draft : Draft) (blank : token.kind = .whitespace) :
    draft.push limit token = .ok (draft.withGap token.text.toList) := by
  obtain ⟨blocks, items, awaiting⟩ := draft
  rw [push, blank]
  cases awaiting <;> rfl

theorem outcome_cons (limit : Nat) (stop : Span) (draft : Draft) (token : Token)
    (tokens : List Token) : draft.outcome limit stop (token :: tokens) =
      (draft.push limit token).bind fun next => next.outcome limit stop tokens := by
  simp only [outcome, pushAll, bind, Except.bind]
  cases draft.push limit token <;> rfl

end outcome

end Draft

namespace Descent

open Draft

variable {limit : Nat} {stop : Span} {draft next : Draft} {token : Token} {place : Place}

theorem outcome_visible (limit : Nat) (stop : Span) (draft : Draft) (place : Place) :
    draft.outcome limit stop place.rest =
      (draft.withGap place.gap).outcome limit stop place.visible := by
  obtain ⟨tokens, depth, braces⟩ := place
  induction tokens generalizing draft with
  | nil =>
    rw [Place.gap, Place.visible]
    simp [withGap_nil]
  | cons token tokens ih =>
    by_cases significant : token.isSignificant
    · simp [Place.gap, Place.visible, significant, withGap_nil]
    · have blank : token.kind = .whitespace := by simpa [Token.isSignificant] using significant
      simp only [Place.gap, Place.visible] at ih ⊢
      simp [outcome_cons, push_blank limit draft blank, Except.bind, ih, withGap_append,
        significant]

theorem outcome_none (ends : place.next? = none) :
    draft.outcome limit stop place.rest = (draft.withGap place.gap).finish stop := by
  rw [outcome_visible, List.head?_eq_none_iff.1 ends]
  rfl

theorem outcome_some (starts : place.next? = some token) :
    draft.outcome limit stop place.rest =
      ((draft.withGap place.gap).push limit token).bind
        fun next => next.outcome limit stop place.pass.rest := by
  obtain ⟨tokens, behind⟩ := List.head?_eq_some_iff.1 starts
  rw [outcome_visible, behind, outcome_cons, Place.pass, behind]
  rfl

theorem outcome_of_push (next : Draft) (starts : place.next? = some token)
    (taken : (draft.withGap place.gap).push limit token = .ok next) :
    draft.outcome limit stop place.rest = next.outcome limit stop place.pass.rest := by
  rw [outcome_some starts, taken]
  rfl

theorem outcome_of_refused {error : Error} (starts : place.next? = some token)
    (refused : (draft.withGap place.gap).push limit token = .error error) :
    draft.outcome limit stop place.rest = .error error := by
  rw [outcome_some starts, refused]
  rfl

end Descent

end ConfigLang
