import Mathlib.Logic.Basic
import ConfigLang.Syntax.Draft
/-! The steps of a draft. Most tokens only change what it waits for; some complete an item, and
an opening or a closing brace moves between blocks. -/
namespace ConfigLang.Draft

/-- Where a piece of a string line may come, and which pieces of the line stand before it. -/
inductive Begins : Awaiting → LinePlace → List StringElement → Prop
  | item : Begins .item .item []
  | keyLine (key : OpenKey) : Begins (.keyLine key) (.key key) []
  | value (entry : Entry) : Begins (.value entry true) (.value entry []) []
  | valueBelow (entry : Entry) : Begins (.valueBelow entry) (.value entry []) []
  | stringPiece (place : LinePlace) (elements : List StringElement) :
      Begins (.stringPiece place elements) place elements
  | stringLine (entry : Entry) (lines : List StringLine) :
      Begins (.stringLine entry lines) (.value entry lines) []

inductive StartsPiece (place : LinePlace) (elements : List StringElement) (token : Token) :
    Awaiting → Prop
  | literal {text : String} (kind : token.kind = .stringLiteral)
      (decoded : literalText token = .ok text) :
      StartsPiece place elements token (.stringPiece place (.literal text token.span :: elements))
  | plus (kind : token.kind = .plus) :
      StartsPiece place elements token (.stringPiece place (.plus token.span :: elements))
  | reference (kind : token.kind = .openAngled) :
      StartsPiece place elements token (.component ⟨place, elements, token.span, []⟩)

inductive Names (token : Token) : String → Prop
  | identifier (kind : token.kind = .identifier) : Names token token.text
  | literal {name : String} (kind : token.kind = .stringLiteral)
      (decoded : literalText token = .ok name) : Names token name

def OpenKey.push (key : OpenKey) (line : KeyLine) : OpenKey :=
  { key with lines := line :: key.lines }

def OpenInherit.pass (inherit : OpenInherit) (name : String) (span : Span) : OpenInherit :=
  ⟨inherit.directive, name :: inherit.components,
    some (match inherit.span with
      | none => span
      | some before => before.through span)⟩

/-- A token that leaves the items and the open blocks as they are. -/
inductive Moves (token : Token) : Awaiting → Awaiting → Prop
  | blanks {awaiting : Awaiting} (kind : token.kind = .whitespace)
      (outside : ∀ comment, awaiting ≠ .commentEnd comment) : Moves token awaiting awaiting
  | blanksInComment {comment : OpenComment} (kind : token.kind = .whitespace) :
      Moves token (.commentEnd comment)
        (.commentEnd { comment with text := comment.text ++ token.text.toList })
  | piece {before after : Awaiting} {place : LinePlace} {elements : List StringElement}
      (begins : Begins before place elements) (starts : StartsPiece place elements token after) :
      Moves token before after
  | comment (kind : token.kind = .hash) :
      Moves token .item (.commentEnd ⟨none, token.span, []⟩)
  | inherit (kind : token.kind = .directive) (name : token.text = "@from") :
      Moves token .item (.templateName ⟨token.span, [], none⟩)
  | template (kind : token.kind = .directive) (name : token.text = "@template") :
      Moves token .item (.templateKey token.span)
  | tagged (kind : token.kind = .openSquare) : Moves token .item (.key token.span none)
  | untagged (kind : token.kind = .minus) :
      Moves token .item (.value (.untagged token.span) false)
  | commentText {comment : OpenComment} (kind : token.kind = .line ∨ token.kind = .openCurly) :
      Moves token (.commentEnd comment) (.commentEnd
        ⟨comment.key, comment.span.through token.span, comment.text ++ token.text.toList⟩)
  | keyCommentEnd {key : OpenKey} {span : Span} {text : List Char}
      (kind : token.kind = .newline) :
      Moves token (.commentEnd ⟨some key, span, text⟩)
        (.keyLine (key.push (.comment (OpenComment.comment ⟨some key, span, text⟩))))
  | templateName {inherit : OpenInherit} {name : String} (names : Names token name) :
      Moves token (.templateName inherit) (.inheritEnd (inherit.pass name token.span))
  | templateDot {inherit : OpenInherit} (kind : token.kind = .dot) :
      Moves token (.inheritEnd inherit) (.templateName inherit)
  | templateKey {mark : Span} (kind : token.kind = .openSquare) :
      Moves token (.templateKey mark) (.key token.span (some mark))
  | keyText {bracket : Span} {template : Option Span} (kind : token.kind = .keyText) :
      Moves token (.key bracket template) (.keyEnd token.text bracket template)
  | emptyKey {bracket : Span} {template : Option Span} (kind : token.kind = .closeSquare) :
      Moves token (.key bracket template)
        (.value (.tagged (.simple "" (bracket.through token.span)) template
          (template.getD bracket)) false)
  | longKey {bracket : Span} {template : Option Span} (kind : token.kind = .newline) :
      Moves token (.key bracket template) (.keyLine ⟨bracket, template, []⟩)
  | keyEnd {text : String} {bracket : Span} {template : Option Span}
      (kind : token.kind = .closeSquare) :
      Moves token (.keyEnd text bracket template)
        (.value (.tagged (.simple (Draft.keyText text) (bracket.through token.span)) template
          (template.getD bracket)) false)
  | blankKeyLine {key : OpenKey} (kind : token.kind = .newline) :
      Moves token (.keyLine key) (.keyLine key)
  | longKeyEnd {key : OpenKey} (kind : token.kind = .closeSquare) :
      Moves token (.keyLine key) (.value (key.entry token.span) true)
  | keyComment {key : OpenKey} (kind : token.kind = .hash) :
      Moves token (.keyLine key) (.commentEnd ⟨some key, token.span, []⟩)
  | text {entry : Entry} {behindLines : Bool} (kind : token.kind = .line) :
      Moves token (.value entry behindLines) (.valueEnd entry
        (.text (String.ofList (Text.trim token.text.toList)) token.span))
  | nextLine {entry : Entry} {behindLines : Bool} (kind : token.kind = .newline) :
      Moves token (.value entry behindLines) (.valueBelow entry)
  | blockStart (kind : token.kind = .newline) : Moves token .blockStart .item
  | keyLineEnd {key : OpenKey} {elements : List StringElement} (kind : token.kind = .newline) :
      Moves token (.stringPiece (.key key) elements)
        (.keyLine (key.push (.strings (stringLine elements))))
  | valueLineEnd {entry : Entry} {lines : List StringLine} {elements : List StringElement}
      (kind : token.kind = .newline) :
      Moves token (.stringPiece (.value entry lines) elements)
        (.stringLine entry (stringLine elements :: lines))
  | star {reference : OpenReference} (kind : token.kind = .star) :
      Moves token (.component reference) (.spreadClose reference)
  | component {reference : OpenReference} {name : String} (names : Names token name) :
      Moves token (.component reference)
        (.separator { reference with components := name :: reference.components })
  | dot {reference : OpenReference} (kind : token.kind = .dot) :
      Moves token (.separator reference) (.component reference)
  | placeholder {reference : OpenReference} (kind : token.kind = .closeAngled) :
      Moves token (.separator reference) (.stringPiece reference.place
        (.placeholder (reference.path token.span) :: reference.elements))
  | spread {reference : OpenReference} (kind : token.kind = .closeAngled)
      (place : reference.place = .item) (alone : reference.elements = []) :
      Moves token (.spreadClose reference) (.spreadEnd (reference.path token.span))

inductive Completes : Awaiting → Item → Prop
  | comment (span : Span) (text : List Char) :
      Completes (.commentEnd ⟨none, span, text⟩)
        (.comment (OpenComment.comment ⟨none, span, text⟩))
  | inherit (inherit : OpenInherit) : Completes (.inheritEnd inherit) inherit.item
  | value (entry : Entry) (value : ValueNode) : Completes (.valueEnd entry value) (entry.item value)
  | strings (elements : List StringElement) :
      Completes (.stringPiece .item elements) (.strings (stringLine elements))
  | spread (path : Path) : Completes (.spreadEnd path) (.spread path)

inductive Opens : Awaiting → Entry → Prop
  | value (entry : Entry) (behindLines : Bool) : Opens (.value entry behindLines) entry
  | valueBelow (entry : Entry) : Opens (.valueBelow entry) entry

inductive Takes (limit : Nat) (token : Token) : Draft → Draft → Prop
  | move {blocks : List OpenBlock} {items : List Item} {before after : Awaiting}
      (moves : Moves token before after) :
      Takes limit token ⟨blocks, items, before⟩ ⟨blocks, items, after⟩
  | blank {blocks : List OpenBlock} {items : List Item} (kind : token.kind = .newline) :
      Takes limit token ⟨blocks, items, .item⟩ ⟨blocks, .blank token.span :: items, .item⟩
  | complete {blocks : List OpenBlock} {items : List Item} {awaiting : Awaiting} {item : Item}
      (kind : token.kind = .newline) (completes : Completes awaiting item) :
      Takes limit token ⟨blocks, items, awaiting⟩ ⟨blocks, item :: items, .item⟩
  | opening {blocks : List OpenBlock} {items : List Item} {awaiting : Awaiting} {entry : Entry}
      (kind : token.kind = .openCurly) (opens : Opens awaiting entry)
      (room : blocks.length < limit) :
      Takes limit token ⟨blocks, items, awaiting⟩
        ⟨⟨entry, token.span, items⟩ :: blocks, [], .blockStart⟩
  | closing {block : OpenBlock} {blocks : List OpenBlock} {items : List Item}
      (kind : token.kind = .closeCurly) :
      Takes limit token ⟨block :: blocks, items, .item⟩ ⟨blocks, block.before,
        .valueEnd block.entry (.block items.reverse (block.brace.through token.span))⟩
  /-- A value of string lines ends with the first token that starts no piece. -/
  | valueEnd {blocks : List OpenBlock} {items : List Item} {entry : Entry}
      {lines : List StringLine} {after : Draft} (outside : token.kind ≠ .whitespace)
      (ends : startsPiece token.kind = false)
      (taken : Takes limit token ⟨blocks, entry.item (stringValue lines) :: items, .item⟩ after) :
      Takes limit token ⟨blocks, items, .stringLine entry lines⟩ after

theorem componentText?_eq_some {token : Token} {name : String} :
    componentText? token = .ok (some name) ↔ Names token name := by
  unfold componentText?
  constructor
  · intro found
    split at found
    · next kind =>
      cases found
      exact .identifier kind
    · next kind =>
      cases decoded : literalText token with
      | error e => rw [decoded] at found; cases found
      | ok text =>
        rw [decoded] at found
        cases found
        exact .literal kind decoded
    · cases found
  · rintro (⟨kind⟩ | ⟨kind, decoded⟩)
    · rw [kind]
    · rw [kind, decoded]
      rfl

theorem pushPiece?_eq_some {draft next : Draft} {place : LinePlace}
    {elements : List StringElement} {token : Token} :
    draft.pushPiece? place elements token = .ok (some next) ↔
      ∃ after, StartsPiece place elements token after ∧ next = draft.await after := by
  unfold pushPiece?
  constructor
  · intro found
    split at found
    · next kind =>
      cases decoded : literalText token with
      | error e => rw [decoded] at found; cases found
      | ok text =>
        rw [decoded] at found
        cases found
        exact ⟨_, .literal kind decoded, rfl⟩
    · next kind =>
      cases found
      exact ⟨_, .plus kind, rfl⟩
    · next kind =>
      cases found
      exact ⟨_, .reference kind, rfl⟩
    · cases found
  · rintro ⟨after, starts, rfl⟩
    cases starts with
    | literal kind decoded =>
      rw [kind, decoded]
      rfl
    | plus kind => rw [kind]
    | reference kind => rw [kind]

theorem pushPiece?_eq_none {draft : Draft} {place : LinePlace} {elements : List StringElement}
    {token : Token} :
    draft.pushPiece? place elements token = .ok none ↔ startsPiece token.kind = false := by
  unfold pushPiece?
  cases token.kind with
  | stringLiteral =>
    cases literalText token with
    | error e => exact iff_of_false nofun nofun
    | ok text => exact iff_of_false nofun nofun
  | plus => exact iff_of_false nofun nofun
  | openAngled => exact iff_of_false nofun nofun
  | _ => exact iff_of_true rfl rfl

theorem pushPiece?_bind_ok {draft after : Draft} {place : LinePlace}
    {elements : List StringElement} {token : Token} {other : Except Error Draft}
    (done : (do
      match ← draft.pushPiece? place elements token with
      | some next => return next
      | none => other) = .ok after) :
    (∃ awaiting, StartsPiece place elements token awaiting ∧ after = draft.await awaiting) ∨
      startsPiece token.kind = false ∧ other = .ok after := by
  cases found : draft.pushPiece? place elements token with
  | error e =>
    rw [found] at done
    cases done
  | ok piece =>
    rw [found] at done
    cases piece with
    | some next =>
      cases done
      exact .inl (pushPiece?_eq_some.1 found)
    | none => exact .inr ⟨pushPiece?_eq_none.1 found, done⟩

section inversion

variable {limit : Nat} {token : Token} {blocks : List OpenBlock} {items : List Item}
  {after : Draft}

theorem takes_of_piece {awaiting : Awaiting} {place : LinePlace} {elements : List StringElement}
    (begins : Begins awaiting place elements)
    (starts : ∃ next, StartsPiece place elements token next ∧
      after = Draft.await ⟨blocks, items, awaiting⟩ next) :
    Takes limit token ⟨blocks, items, awaiting⟩ after := by
  obtain ⟨next, starts, rfl⟩ := starts
  exact .move (.piece begins starts)

theorem takes_of_openBlock {awaiting : Awaiting} {entry : Entry} (kind : token.kind = .openCurly)
    (opens : Opens awaiting entry)
    (done : openBlock limit ⟨blocks, items, awaiting⟩ entry token = .ok after) :
    Takes limit token ⟨blocks, items, awaiting⟩ after := by
  unfold openBlock at done
  split at done
  · cases done
  · next room =>
    cases done
    exact .opening kind opens (Nat.lt_of_not_le room)

theorem takes_of_pushValueBelow {awaiting : Awaiting} {entry : Entry}
    (opens : Opens awaiting entry) (begins : Begins awaiting (.value entry []) [])
    (done : pushValueBelow limit ⟨blocks, items, awaiting⟩ entry token = .ok after) :
    Takes limit token ⟨blocks, items, awaiting⟩ after := by
  unfold pushValueBelow at done
  split at done
  · next kind => exact takes_of_openBlock kind opens done
  · rcases pushPiece?_bind_ok done with starts | ⟨_, refused⟩
    · exact takes_of_piece begins starts
    · cases refused

theorem takes_of_pushItem (done : pushItem ⟨blocks, items, .item⟩ token = .ok after) :
    Takes limit token ⟨blocks, items, .item⟩ after := by
  unfold pushItem at done
  split at done
  · next kind =>
    cases done
    exact .blank kind
  · next kind =>
    cases done
    exact .move (.comment kind)
  · next kind =>
    split at done
    · next name =>
      cases done
      exact .move (.inherit kind name)
    · split at done
      · next name =>
        cases done
        exact .move (.template kind name)
      · cases done
  · next kind =>
    cases done
    exact .move (.tagged kind)
  · next kind =>
    cases done
    exact .move (.untagged kind)
  · next kind =>
    cases blocks with
    | nil => cases done
    | cons block blocks =>
      cases done
      exact .closing kind
  · rcases pushPiece?_bind_ok done with starts | ⟨_, refused⟩
    · exact takes_of_piece .item starts
    · cases refused

theorem takes_of_endLine? {awaiting : Awaiting} (kind : token.kind = .newline)
    (done : endLine? ⟨blocks, items, awaiting⟩ = some after) :
    Takes limit token ⟨blocks, items, awaiting⟩ after := by
  cases awaiting with
  | commentEnd comment =>
    obtain ⟨key, span, text⟩ := comment
    cases key with
    | none =>
      cases done
      exact .complete kind (.comment span text)
    | some key =>
      cases done
      exact .move (.keyCommentEnd kind)
  | inheritEnd inherit =>
    cases done
    exact .complete kind (.inherit inherit)
  | valueEnd entry value =>
    cases done
    exact .complete kind (.value entry value)
  | stringPiece place elements =>
    cases place with
    | item =>
      cases done
      exact .complete kind (.strings elements)
    | key key =>
      cases done
      exact .move (.keyLineEnd kind)
    | value entry lines =>
      cases done
      exact .move (.valueLineEnd kind)
  | spreadEnd path =>
    cases done
    exact .complete kind (.spread path)
  | _ => cases done

theorem componentText?_bind_ok {α : Type} {result : α} {other : Except Error α}
    {pass : String → α}
    (done : (do
      match ← componentText? token with
      | some name => return pass name
      | none => other) = .ok result) :
    (∃ name, Names token name ∧ result = pass name) ∨ other = .ok result := by
  cases found : componentText? token with
  | error e =>
    rw [found] at done
    cases done
  | ok component =>
    rw [found] at done
    cases component with
    | some name =>
      cases done
      exact .inl ⟨name, componentText?_eq_some.1 found, rfl⟩
    | none => exact .inr done

theorem takes_of_pushInside {awaiting : Awaiting} (outside : token.kind ≠ .whitespace)
    (done : pushInside limit ⟨blocks, items, awaiting⟩ token = .ok after) :
    Takes limit token ⟨blocks, items, awaiting⟩ after := by
  cases awaiting with
  | item => exact takes_of_pushItem done
  | commentEnd comment =>
    simp only [pushInside] at done
    split at done
    · next kind =>
      cases done
      exact .move (.commentText (.inl kind))
    · next kind =>
      cases done
      exact .move (.commentText (.inr kind))
    · cases done
  | templateName inherit =>
    rcases componentText?_bind_ok done with ⟨name, names, rfl⟩ | refused
    · exact .move (.templateName names)
    · cases refused
  | inheritEnd inherit =>
    simp only [pushInside] at done
    split at done
    · next kind =>
      cases done
      exact .move (.templateDot kind)
    · cases done
  | templateKey mark =>
    simp only [pushInside] at done
    split at done
    · next kind =>
      cases done
      exact .move (.templateKey kind)
    · cases done
  | key bracket template =>
    simp only [pushInside] at done
    split at done
    · next kind =>
      cases done
      exact .move (.keyText kind)
    · next kind =>
      cases done
      exact .move (.emptyKey kind)
    · next kind =>
      cases done
      exact .move (.longKey kind)
    · cases done
  | keyEnd text bracket template =>
    simp only [pushInside] at done
    split at done
    · next kind =>
      cases done
      exact .move (.keyEnd kind)
    · cases done
  | keyLine key =>
    simp only [pushInside] at done
    split at done
    · next kind =>
      cases done
      exact .move (.blankKeyLine kind)
    · next kind =>
      cases done
      exact .move (.longKeyEnd kind)
    · next kind =>
      cases done
      exact .move (.keyComment kind)
    · rcases pushPiece?_bind_ok done with starts | ⟨_, refused⟩
      · exact takes_of_piece (.keyLine key) starts
      · cases refused
  | value entry behindLines =>
    simp only [pushInside] at done
    split at done
    · next kind =>
      cases done
      exact .move (.text kind)
    · next kind => exact takes_of_openBlock kind (.value entry behindLines) done
    · next kind =>
      cases done
      exact .move (.nextLine kind)
    · cases behindLines with
      | false => cases done
      | true => exact takes_of_pushValueBelow (.value entry true) (.value entry) done
  | valueBelow entry => exact takes_of_pushValueBelow (.valueBelow entry) (.valueBelow entry) done
  | valueEnd entry value => cases done
  | blockStart =>
    simp only [pushInside] at done
    split at done
    · next kind =>
      cases done
      exact .move (.blockStart kind)
    · cases done
  | stringPiece place elements =>
    rcases pushPiece?_bind_ok done with starts | ⟨_, refused⟩
    · exact takes_of_piece (.stringPiece place elements) starts
    · cases refused
  | stringLine entry lines =>
    rcases pushPiece?_bind_ok done with starts | ⟨ends, taken⟩
    · exact takes_of_piece (.stringLine entry lines) starts
    · exact .valueEnd outside ends (takes_of_pushItem taken)
  | component reference =>
    simp only [pushInside] at done
    split at done
    · next kind =>
      cases done
      exact .move (.star kind)
    · rcases componentText?_bind_ok done with ⟨name, names, rfl⟩ | refused
      · exact .move (.component names)
      · cases refused
  | separator reference =>
    simp only [pushInside] at done
    split at done
    · next kind =>
      cases done
      exact .move (.dot kind)
    · next kind =>
      cases done
      exact .move (.placeholder kind)
    · cases done
  | spreadClose reference =>
    simp only [pushInside] at done
    split at done
    · next kind =>
      unfold closeSpread at done
      split at done
      · next place alone =>
        cases done
        exact .move (.spread kind place alone)
      · cases done
    · cases done
  | spreadEnd path => cases done

theorem takes_of_push {draft : Draft} (done : draft.push limit token = .ok after) :
    Takes limit token draft after := by
  obtain ⟨blocks, items, awaiting⟩ := draft
  unfold push at done
  split at done
  · next kind =>
    cases awaiting with
    | commentEnd comment =>
      cases done
      exact .move (.blanksInComment kind)
    | _ =>
      cases done
      exact .move (.blanks kind nofun)
  · next kind =>
    split at done
    · next next found =>
      cases done
      exact takes_of_endLine? kind found
    · exact takes_of_pushInside (by simp [kind]) done
  · next outside _ => exact takes_of_pushInside outside done

end inversion

section steps

variable (limit : Nat) {token : Token} (blocks : List OpenBlock) (items : List Item)

theorem push_of_inside {awaiting : Awaiting} (outside : token.kind ≠ .whitespace)
    (open' : token.kind = .newline → endLine? ⟨blocks, items, awaiting⟩ = none) :
    push limit ⟨blocks, items, awaiting⟩ token = pushInside limit ⟨blocks, items, awaiting⟩ token := by
  unfold push
  split
  · next kind => exact absurd kind outside
  · next kind => rw [open' kind]
  · rfl

theorem StartsPiece.kinds {place : LinePlace} {elements : List StringElement} {after : Awaiting}
    (starts : StartsPiece place elements token after) :
    token.kind = .stringLiteral ∨ token.kind = .plus ∨ token.kind = .openAngled := by
  cases starts with
  | literal kind _ => exact .inl kind
  | plus kind => exact .inr (.inl kind)
  | reference kind => exact .inr (.inr kind)

theorem push_of_piece {before after : Awaiting} {place : LinePlace}
    {elements : List StringElement} (begins : Begins before place elements)
    (starts : StartsPiece place elements token after) :
    push limit ⟨blocks, items, before⟩ token = .ok ⟨blocks, items, after⟩ := by
  have found : pushPiece? ⟨blocks, items, before⟩ place elements token =
      .ok (some ⟨blocks, items, after⟩) := pushPiece?_eq_some.2 ⟨after, starts, rfl⟩
  rcases starts.kinds with kind | kind | kind <;>
    rw [push_of_inside limit blocks items (by simp [kind]) (by simp [kind])] <;>
    cases begins <;>
    simp only [pushInside, pushItem, pushValueBelow, kind, found, bind, Except.bind, pure,
      Except.pure, if_true, reduceCtorEq, if_false]

theorem componentText?_of_names {name : String} (names : Names token name) :
    token.kind ≠ .whitespace ∧ token.kind ≠ .newline ∧ token.kind ≠ .star ∧
      componentText? token = .ok (some name) := by
  have kinds : token.kind = .identifier ∨ token.kind = .stringLiteral := by
    cases names with
    | identifier kind => exact .inl kind
    | literal kind _ => exact .inr kind
  rcases kinds with kind | kind <;> simp [kind, componentText?_eq_some.2 names]

theorem push_of_moves {before after : Awaiting} (moves : Moves token before after) :
    push limit ⟨blocks, items, before⟩ token = .ok ⟨blocks, items, after⟩ := by
  cases moves with
  | blanks kind outside =>
    cases before with
    | commentEnd comment => exact absurd rfl (outside comment)
    | _ => simp only [push, kind]
  | blanksInComment kind => simp only [push, kind, await]
  | piece begins starts => exact push_of_piece limit blocks items begins starts
  | commentText kind => rcases kind with kind | kind <;> simp only [push, kind, pushInside, await]
  | keyCommentEnd kind | keyLineEnd kind | valueLineEnd kind =>
    simp only [push, kind, endLine?]
    rfl
  | inherit kind name => simp only [push, kind, pushInside, pushItem, name, if_true, await]
  | template kind name =>
    simp only [push, kind, pushInside, pushItem, name, await]
    rfl
  | templateName names =>
    obtain ⟨blank, newline, _, found⟩ := componentText?_of_names names
    rw [push_of_inside limit blocks items blank fun kind => absurd kind newline]
    simp only [pushInside, found]
    rfl
  | component names =>
    obtain ⟨blank, newline, star, found⟩ := componentText?_of_names names
    rw [push_of_inside limit blocks items blank fun kind => absurd kind newline]
    simp only [pushInside, found, if_neg star]
    rfl
  | spread kind place alone =>
    simp only [push, kind, pushInside, if_true, closeSpread, place, alone, await]
  | comment kind | tagged kind | untagged kind =>
    simp only [push, kind, pushInside, pushItem, await]
  | templateDot kind | templateKey kind | keyText kind | emptyKey kind | longKey kind
  | keyEnd kind | blankKeyLine kind | longKeyEnd kind | keyComment kind | text kind
  | nextLine kind | blockStart kind | star kind | dot kind | placeholder kind =>
    simp only [push, kind, pushInside, endLine?, if_true, await, closePlaceholder]

theorem push_of_opens {awaiting : Awaiting} {entry : Entry} (kind : token.kind = .openCurly)
    (opens : Opens awaiting entry) :
    push limit ⟨blocks, items, awaiting⟩ token =
      openBlock limit ⟨blocks, items, awaiting⟩ entry token := by
  cases opens with
  | value entry behindLines => simp only [push, kind, pushInside]
  | valueBelow entry => simp only [push, kind, pushInside, pushValueBelow, if_true]

theorem push_stringLine {entry : Entry} {lines : List StringLine}
    (outside : token.kind ≠ .whitespace) (ends : startsPiece token.kind = false) :
    push limit ⟨blocks, items, .stringLine entry lines⟩ token =
      push limit ⟨blocks, entry.item (stringValue lines) :: items, .item⟩ token := by
  rw [push_of_inside limit blocks items outside fun _ => rfl,
    push_of_inside limit blocks _ outside fun _ => rfl]
  simp only [pushInside, pushPiece?_eq_none.2 ends, bind, Except.bind]
  rfl

theorem push_of_takes {before after : Draft} (takes : Takes limit token before after) :
    push limit before token = .ok after := by
  induction takes with
  | move moves => exact push_of_moves limit _ _ moves
  | blank kind => simp only [push, kind, endLine?, pushInside, pushItem, add]
  | complete kind completes => cases completes <;> simp only [push, kind, endLine?, add]
  | opening kind opens room =>
    rw [push_of_opens limit _ _ kind opens, openBlock, if_neg (Nat.not_le_of_lt room)]
  | closing kind => simp only [push, kind, pushInside, pushItem]
  | valueEnd outside ends taken ih =>
    rw [push_stringLine limit _ _ outside ends]
    exact ih

theorem push_eq_ok_iff {before after : Draft} :
    push limit before token = .ok after ↔ Takes limit token before after :=
  ⟨takes_of_push, push_of_takes limit⟩

end steps

inductive Finishes (items : List Item) : Awaiting → List Item → Prop
  | item : Finishes items .item items.reverse
  | complete {awaiting : Awaiting} {item : Item} (completes : Completes awaiting item) :
      Finishes items awaiting (item :: items).reverse
  | lines (entry : Entry) (lines : List StringLine) :
      Finishes items (.stringLine entry lines) (entry.item (stringValue lines) :: items).reverse
  | lastLine (entry : Entry) (lines : List StringLine) (elements : List StringElement) :
      Finishes items (.stringPiece (.value entry lines) elements)
        (entry.item (stringValue (stringLine elements :: lines)) :: items).reverse

theorem finishes_of_finish {draft : Draft} {stop : Span} {whole : List Item}
    (done : draft.finish stop = .ok whole) :
    draft.blocks = [] ∧ Finishes draft.items draft.awaiting whole := by
  obtain ⟨blocks, items, awaiting⟩ := draft
  cases blocks with
  | cons block blocks =>
    cases awaiting with
    | commentEnd comment =>
      obtain ⟨key, span, text⟩ := comment
      cases key <;> cases done
    | stringPiece place elements => cases place <;> cases done
    | _ => cases done
  | nil =>
    refine ⟨rfl, ?_⟩
    cases awaiting with
    | item =>
      cases done
      exact .item
    | commentEnd comment =>
      obtain ⟨key, span, text⟩ := comment
      cases key with
      | none =>
        cases done
        exact .complete (.comment span text)
      | some key => cases done
    | inheritEnd inherit =>
      cases done
      exact .complete (.inherit inherit)
    | valueEnd entry value =>
      cases done
      exact .complete (.value entry value)
    | stringPiece place elements =>
      cases place with
      | item =>
        cases done
        exact .complete (.strings elements)
      | key key => cases done
      | value entry lines =>
        cases done
        exact .lastLine entry lines elements
    | stringLine entry lines =>
      cases done
      exact .lines entry lines
    | spreadEnd path =>
      cases done
      exact .complete (.spread path)
    | _ => cases done

end ConfigLang.Draft
