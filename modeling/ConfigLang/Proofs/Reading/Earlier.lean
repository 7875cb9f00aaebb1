import ConfigLang.Syntax.Draft
/-! Items in front of a draft. What a draft has read before at the top level is only handed on: the
same tokens are taken behind any items, and those are in front of all others in the end. -/
namespace ConfigLang.Draft

/-- The open blocks with further items in front of the outermost one. Items come last first. -/
def blocksOnto (base : List Item) : List OpenBlock → List OpenBlock
  | [] => []
  | [block] => [{ block with before := block.before ++ base }]
  | block :: other :: rest => block :: blocksOnto base (other :: rest)

def onto (base : List Item) (draft : Draft) : Draft :=
  ⟨blocksOnto base draft.blocks,
    match draft.blocks with
    | [] => draft.items ++ base
    | _ :: _ => draft.items,
    draft.awaiting⟩

section onto

variable (base : List Item) (limit : Nat)

theorem length_blocksOnto (blocks : List OpenBlock) :
    (blocksOnto base blocks).length = blocks.length := by
  fun_induction blocksOnto base blocks with
  | case1 => rfl
  | case2 => rfl
  | case3 block other rest ih => simp [ih]

theorem add_onto (draft : Draft) (item : Item) :
    (draft.onto base).add item = (draft.add item).onto base := by
  obtain ⟨blocks, items, awaiting⟩ := draft
  cases blocks <;> rfl

theorem endLine?_onto (draft : Draft) :
    (draft.onto base).endLine? = draft.endLine?.map (onto base) := by
  obtain ⟨blocks, items, awaiting⟩ := draft
  have added := add_onto base ⟨blocks, items, awaiting⟩
  cases awaiting with
  | commentEnd comment =>
    obtain ⟨key, span, text⟩ := comment
    cases key with
    | none => exact congrArg some (added _)
    | some key => rfl
  | stringPiece place elements =>
    cases place with
    | item => exact congrArg some (added _)
    | _ => rfl
  | inheritEnd | valueEnd | spreadEnd => exact congrArg some (added _)
  | _ => rfl

theorem endValue_onto (draft : Draft) :
    (draft.onto base).endValue = draft.endValue.onto base := by
  obtain ⟨blocks, items, awaiting⟩ := draft
  cases awaiting with
  | stringLine entry lines => exact add_onto base ⟨blocks, items, .stringLine entry lines⟩ _
  | _ => rfl

theorem pushPiece?_onto (draft : Draft) (place : LinePlace) (elements : List StringElement)
    (token : Token) :
    (draft.onto base).pushPiece? place elements token =
      (draft.pushPiece? place elements token).map (·.map (onto base)) := by
  obtain ⟨kind, text, span⟩ := token
  cases kind with
  | stringLiteral =>
    simp only [pushPiece?]
    cases literalText ⟨.stringLiteral, text, span⟩ <;> rfl
  | _ => rfl

theorem pieceOr_onto (draft : Draft) (place : LinePlace) (elements : List StringElement)
    (token : Token) {other other' : Except Error Draft}
    (others : other' = other.map (onto base)) :
    (do
      match ← (draft.onto base).pushPiece? place elements token with
      | some next => return next
      | none => other') =
      (do
        match ← draft.pushPiece? place elements token with
        | some next => return next
        | none => other : Except Error Draft).map (onto base) := by
  rw [pushPiece?_onto base, others]
  cases draft.pushPiece? place elements token with
  | error fault => rfl
  | ok piece => cases piece <;> rfl

theorem componentOr_onto (token : Token) (draft : Draft) (pass : String → Awaiting)
    (fault : Error) :
    (do
      match ← componentText? token with
      | some name => return (draft.onto base).await (pass name)
      | none => .error fault) =
      (do
        match ← componentText? token with
        | some name => return draft.await (pass name)
        | none => .error fault : Except Error Draft).map (onto base) := by
  cases componentText? token with
  | error fault => rfl
  | ok component => cases component <;> rfl

theorem openBlock_onto (draft : Draft) (entry : Entry) (token : Token) :
    (draft.onto base).openBlock limit entry token =
      (draft.openBlock limit entry token).map (onto base) := by
  obtain ⟨blocks, items, awaiting⟩ := draft
  have length := length_blocksOnto base blocks
  simp only [openBlock, onto, length]
  split
  · rfl
  · cases blocks <;> rfl

theorem pushValueBelow_onto (draft : Draft) (entry : Entry) (token : Token) :
    (draft.onto base).pushValueBelow limit entry token =
      (draft.pushValueBelow limit entry token).map (onto base) := by
  unfold pushValueBelow
  split
  · exact openBlock_onto base limit draft entry token
  · exact pieceOr_onto base draft (.value entry []) [] token rfl

theorem pushItem_onto (draft : Draft) (token : Token) :
    (draft.onto base).pushItem token = (draft.pushItem token).map (onto base) := by
  have refuse : (.error (unexpected token Awaiting.item.expected) : Except Error Draft) =
      (Except.error (unexpected token Awaiting.item.expected)).map (onto base) := rfl
  have piece := pieceOr_onto base draft .item [] token refuse
  obtain ⟨kind, text, span⟩ := token
  cases kind with
  | newline => exact congrArg Except.ok (add_onto base draft (.blank span))
  | directive =>
    simp only [pushItem]
    split
    · rfl
    · split <;> rfl
  | closeCurly =>
    obtain ⟨blocks, items, awaiting⟩ := draft
    match blocks with
    | [] => rfl
    | [block] => rfl
    | block :: other :: rest => rfl
  | hash | openSquare | minus => rfl
  | _ => exact piece

theorem closeSpread_onto (draft : Draft) (reference : OpenReference) (close : Span) :
    (draft.onto base).closeSpread reference close =
      (draft.closeSpread reference close).map (onto base) := by
  obtain ⟨place, elements, brackets, components⟩ := reference
  cases place with
  | item => cases elements <;> rfl
  | _ => rfl

theorem pushInside_onto (draft : Draft) (token : Token) :
    (draft.onto base).pushInside limit token =
      (draft.pushInside limit token).map (onto base) := by
  obtain ⟨blocks, items, awaiting⟩ := draft
  cases awaiting with
  | item => exact pushItem_onto base _ token
  | valueBelow entry => exact pushValueBelow_onto base limit _ entry token
  | stringPiece place elements => exact pieceOr_onto base _ place elements token rfl
  | stringLine entry lines =>
    refine pieceOr_onto base _ (.value entry lines) [] token ?_
    rw [endValue_onto base, pushItem_onto base]
  | templateName inherit => exact componentOr_onto base token _ _ _
  | component reference =>
    obtain ⟨kind, text, span⟩ := token
    cases kind with
    | star => rfl
    | _ => exact componentOr_onto base _ _ _ _
  | spreadClose reference =>
    obtain ⟨kind, text, span⟩ := token
    cases kind with
    | closeAngled => exact closeSpread_onto base _ reference span
    | _ => rfl
  | keyLine key =>
    have refuse :
        (.error (unexpected token (Awaiting.keyLine key).expected) : Except Error Draft) =
          (Except.error (unexpected token (Awaiting.keyLine key).expected)).map (onto base) := rfl
    have piece := pieceOr_onto base ⟨blocks, items, .keyLine key⟩ (.key key) [] token refuse
    obtain ⟨kind, text, span⟩ := token
    cases kind with
    | newline | hash | closeSquare => rfl
    | _ => exact piece
  | value entry afterMultilineKey =>
    have opened := openBlock_onto base limit
      ⟨blocks, items, .value entry afterMultilineKey⟩ entry token
    have below := pushValueBelow_onto base limit
      ⟨blocks, items, .value entry afterMultilineKey⟩ entry token
    obtain ⟨kind, text, span⟩ := token
    cases kind with
    | line | newline => rfl
    | openCurly => exact opened
    | _ =>
      cases afterMultilineKey with
      | true => exact below
      | false => rfl
  | commentEnd | inheritEnd | templateKey | blockStart | key | keyEnd | separator =>
    obtain ⟨kind, text, span⟩ := token
    cases kind <;> rfl
  | valueEnd | spreadEnd => rfl

theorem push_onto (draft : Draft) (token : Token) :
    (draft.onto base).push limit token = (draft.push limit token).map (onto base) := by
  have inside := pushInside_onto base limit draft token
  have ended := endLine?_onto base draft
  obtain ⟨kind, text, span⟩ := token
  cases kind with
  | whitespace =>
    obtain ⟨blocks, items, awaiting⟩ := draft
    cases awaiting <;> rfl
  | newline =>
    simp only [push, ended]
    cases draft.endLine? with
    | none => exact inside
    | some next => rfl
  | _ => exact inside

theorem pushAll_onto (draft : Draft) (tokens : List Token) :
    (draft.onto base).pushAll limit tokens = (draft.pushAll limit tokens).map (onto base) := by
  induction tokens generalizing draft with
  | nil => rfl
  | cons token tokens ih =>
    simp only [pushAll, push_onto base limit]
    cases draft.push limit token with
    | error fault => rfl
    | ok next => exact ih next

theorem finish_onto (draft : Draft) (stop : Span) :
    (draft.onto base).finish stop = (draft.finish stop).map (base.reverse ++ ·) := by
  have last : (((draft.onto base).endLine?.getD (draft.onto base)).endValue) =
      ((draft.endLine?.getD draft).endValue).onto base := by
    rw [endLine?_onto base, ← endValue_onto base]
    cases draft.endLine? <;> rfl
  simp only [finish, last]
  obtain ⟨blocks, items, awaiting⟩ := (draft.endLine?.getD draft).endValue
  cases awaiting with
  | item =>
    match blocks with
    | [] => exact congrArg Except.ok (List.reverse_append ..)
    | [block] => rfl
    | block :: other :: rest => rfl
  | _ => rfl

end onto

end ConfigLang.Draft
