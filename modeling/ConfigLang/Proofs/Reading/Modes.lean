import ConfigLang.Proofs.Reading.Run
import ConfigLang.Proofs.Syntax.Step
/-! The modes of the lexer go with what the draft waits for. Neither knows of the other, but each
token changes both in step, from the start of the text on. So where an item may start, the lexer is
back in the mode that it started in. -/
namespace ConfigLang

/-- The form of a kind of token in a mode; there is at most one. -/
def Mode.rule? (mode : Mode) (kind : Token.Kind) : Option Rule := mode.rules.find? (·.kind = kind)

theorem Mode.rule?_of_mem : ∀ (mode : Mode), ∀ rule ∈ mode.rules,
    mode.rule? rule.kind = some rule := by
  intro mode
  cases mode <;> decide

namespace Draft

def LinePlace.modes : LinePlace → List Mode
  | .key _ => [.multilineKey, .main]
  | _ => [.main]

/-- The modes that the lexer is in when a draft waits for this. -/
def Awaiting.modes : Awaiting → List Mode
  | .commentEnd ⟨none, _, _⟩ => [.line, .main]
  | .commentEnd ⟨some _, _, _⟩ => [.line, .multilineKey, .main]
  | .key _ _ => [.key, .main]
  | .keyEnd _ _ _ => [.key, .main]
  | .keyLine _ => [.multilineKey, .main]
  | .value _ false => [.line, .main]
  | .valueEnd _ (.text _ _) => [.line, .main]
  | .blockStart => [.line, .main]
  | .stringPiece place _ => place.modes
  | .component reference => .placeholder :: reference.place.modes
  | .separator reference => .placeholder :: reference.place.modes
  | .spreadClose reference => .placeholder :: reference.place.modes
  | _ => [.main]

section steps

variable {limit : Nat} {token : Token} {rule : Rule}

theorem modes_of_begins {awaiting : Awaiting} {place : LinePlace} {elements : List StringElement}
    (begins : Begins awaiting place elements) : awaiting.modes = place.modes := by
  cases begins <;> rfl

theorem modes_of_starts {place : LinePlace} {elements : List StringElement} {after : Awaiting}
    (starts : StartsPiece place elements token after)
    (known : (Mode.current place.modes).rule? token.kind = some rule) :
    after.modes = rule.change.apply place.modes := by
  cases starts with
  | literal kind _ | plus kind | reference kind =>
    rw [kind] at known
    cases place <;> cases known <;> rfl

theorem modes_of_moves {before after : Awaiting} (moves : Moves token before after)
    (known : (Mode.current before.modes).rule? token.kind = some rule) :
    after.modes = rule.change.apply before.modes := by
  cases moves with
  | blanks kind outside =>
    rw [kind] at known
    generalize before.modes = modes at known
    generalize Mode.current modes = mode at known
    cases mode <;> cases known <;> rfl
  | piece begins starts =>
    rw [modes_of_begins begins] at known ⊢
    exact modes_of_starts starts known
  | @blanksInComment comment kind =>
    obtain ⟨key, span, text⟩ := comment
    rw [kind] at known
    cases key <;> cases known <;> rfl
  | @commentText comment kind =>
    obtain ⟨key, span, text⟩ := comment
    rcases kind with kind | kind <;> rw [kind] at known <;> cases key <;> cases known <;> rfl
  | templateName names =>
    cases names with
    | identifier kind | literal kind _ =>
      rw [kind] at known
      cases known
      rfl
  | @component reference name names =>
    obtain ⟨place, elements, brackets, components⟩ := reference
    cases names with
    | identifier kind | literal kind _ =>
      rw [kind] at known
      cases place <;> cases known <;> rfl
  | @star reference kind | @dot reference kind | @placeholder reference kind =>
    obtain ⟨place, elements, brackets, components⟩ := reference
    rw [kind] at known
    cases place <;> cases known <;> rfl
  | @spread reference kind place =>
    obtain ⟨_, elements, brackets, components⟩ := reference
    cases place
    rw [kind] at known
    cases known
    rfl
  | @text entry behindLines kind | @nextLine entry behindLines kind =>
    rw [kind] at known
    cases behindLines <;> cases known <;> rfl
  | comment kind | inherit kind | template kind | tagged kind | untagged kind | keyCommentEnd kind
  | templateDot kind | templateKey kind | keyText kind | emptyKey kind | longKey kind | keyEnd kind
  | blankKeyLine kind | longKeyEnd kind | keyComment kind | blockStart kind | keyLineEnd kind
  | valueLineEnd kind =>
    rw [kind] at known
    cases known
    rfl

theorem modes_of_completes {awaiting : Awaiting} {item : Item} (completes : Completes awaiting item)
    (known : (Mode.current awaiting.modes).rule? .newline = some rule) :
    rule.change.apply awaiting.modes = [.main] := by
  cases completes with
  | value entry value => cases value <;> cases known <;> rfl
  | _ => cases known; rfl

/-- Each token leaves the lexer in the modes that the draft goes on to wait in. -/
theorem modes_of_takes {before after : Draft} (takes : Takes limit token before after)
    (known : (Mode.current before.awaiting.modes).rule? token.kind = some rule) :
    after.awaiting.modes = rule.change.apply before.awaiting.modes := by
  induction takes with
  | move moves => exact modes_of_moves moves known
  | blank kind =>
    rw [kind] at known
    cases known
    rfl
  | complete kind completes =>
    rw [kind] at known
    exact (modes_of_completes completes known).symm
  | opening kind opens =>
    rw [kind] at known
    cases opens with
    | value entry behindLines => cases behindLines <;> cases known <;> rfl
    | valueBelow entry => cases known; rfl
  | closing kind =>
    rw [kind] at known
    cases known
    rfl
  | valueEnd outside ends taken ih => exact ih known

end steps

end Draft

namespace Reading

def State.InStep (state : State) : Prop := state.cursor.modes = state.draft.awaiting.modes

variable {limit : Nat} {a b : State}

theorem State.InStep.step (inStep : a.InStep) (step : Step limit a b) : b.InStep := by
  obtain @⟨cursor, draft, next, rule, n, fits, taken⟩ := step
  obtain ⟨known, _, _⟩ := Cursor.fitting?_eq_some fits
  have here : cursor.modes = draft.awaiting.modes := inStep
  have found := Mode.rule?_of_mem _ _ known
  rw [Cursor.mode, here] at found
  have there := Draft.modes_of_takes (Draft.takes_of_push taken) found
  rw [← here] at there
  exact there.symm

theorem State.InStep.run (inStep : a.InStep) (run : Run limit a b) : b.InStep := by
  induction run with
  | refl => exact inStep
  | tail _ step ih => exact ih.step step

theorem inStep_start (text : List Char) : State.InStep ⟨.start 0 text, .empty⟩ := rfl

end Reading

end ConfigLang
