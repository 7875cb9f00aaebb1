import ConfigLang.Error
import ConfigLang.Json.Reader
import ConfigLang.Syntax.Tree
import ConfigLang.Text.Blank
import ConfigLang.Token.Basic
/-! A syntax tree in the making. A draft takes one token at a time; what it may take next is
decided by that token alone, so an error always stands at the first token that fits no
document. Nothing of a draft is ever taken back: a tree is finished when the tokens end
where an item may start. -/
namespace ConfigLang

inductive Draft.Entry
  | tagged (key : Key) (template : Option Span) (start : Span)
  | untagged (start : Span)
  deriving Repr, DecidableEq

def Draft.Entry.item (value : ValueNode) : Draft.Entry → Item
  | tagged key template start => .tagged key value template (start.through value.span)
  | untagged start => .untagged value (start.through value.span)

structure Draft.OpenKey where
  bracket : Span
  template : Option Span
  /-- Last first. -/
  lines : List KeyLine
  deriving Repr, DecidableEq

def Draft.OpenKey.entry (key : Draft.OpenKey) (close : Span) : Draft.Entry :=
  .tagged (.multiline key.lines.reverse (key.bracket.through close)) key.template
    (key.template.getD key.bracket)

inductive Draft.LinePlace
  | item
  | key (key : Draft.OpenKey)
  /-- The string lines of a value so far, last first. -/
  | value (entry : Draft.Entry) (lines : List StringLine)
  deriving Repr, DecidableEq

structure Draft.OpenReference where
  place : Draft.LinePlace
  /-- The pieces of the line before it, last first. -/
  elements : List StringElement
  brackets : Span
  /-- Last first. -/
  components : List String
  deriving Repr, DecidableEq

def Draft.OpenReference.path (reference : Draft.OpenReference) (close : Span) : Path :=
  ⟨reference.components.reverse, reference.brackets.through close⟩

/-- A comment before the end of its line; `key` is the key that it stands in, if any. -/
structure Draft.OpenComment where
  key : Option Draft.OpenKey
  span : Span
  text : List Char
  deriving Repr, DecidableEq

def Draft.OpenComment.comment (comment : Draft.OpenComment) : Comment :=
  ⟨String.ofList (Text.trim comment.text), comment.span⟩

structure Draft.OpenInherit where
  directive : Span
  /-- Last first. -/
  components : List String
  /-- The span of the components so far; none before the first. -/
  span : Option Span
  deriving Repr, DecidableEq

def Draft.OpenInherit.item (inherit : Draft.OpenInherit) : Item :=
  let span := inherit.span.getD inherit.directive
  .inherit ⟨inherit.components.reverse, span⟩ (inherit.directive.through span)

inductive Draft.Awaiting
  | item
  | commentEnd (comment : Draft.OpenComment)
  /-- A template name behind `@from`, the first one or one behind a dot. -/
  | templateName (inherit : Draft.OpenInherit)
  | inheritEnd (inherit : Draft.OpenInherit)
  | templateKey (mark : Span)
  | key (bracket : Span) (template : Option Span)
  | keyEnd (text : String) (bracket : Span) (template : Option Span)
  | keyLine (key : Draft.OpenKey)
  | value (entry : Draft.Entry) (afterMultilineKey : Bool)
  /-- A value below its key, or behind a key that spans lines. -/
  | valueBelow (entry : Draft.Entry)
  /-- The end of the line behind a value that is complete. -/
  | valueEnd (entry : Draft.Entry) (value : ValueNode)
  | blockStart
  /-- More pieces of a string line, or its end. -/
  | stringPiece (place : Draft.LinePlace) (elements : List StringElement)
  /-- More string lines of a value, or whatever comes behind it. -/
  | stringLine (entry : Draft.Entry) (lines : List StringLine)
  | component (reference : Draft.OpenReference)
  | separator (reference : Draft.OpenReference)
  | spreadClose (reference : Draft.OpenReference)
  | spreadEnd (path : Path)

structure Draft.OpenBlock where
  entry : Draft.Entry
  brace : Span
  /-- The items before that entry, last first. -/
  before : List Item

structure Draft where
  /-- Innermost first. -/
  blocks : List Draft.OpenBlock
  /-- The items of the innermost block, last first. -/
  items : List Item
  awaiting : Draft.Awaiting

namespace Draft

def empty : Draft := ⟨[], [], .item⟩

def await (draft : Draft) (awaiting : Awaiting) : Draft := { draft with awaiting }

def add (draft : Draft) (item : Item) : Draft :=
  { draft with items := item :: draft.items, awaiting := .item }

def stringPieceExpected : String := "a string literal, a placeholder or `+`"

def Awaiting.expected : Awaiting → String
  | .item => "a block item"
  | .commentEnd _ => "the end of the comment"
  | .templateName inherit =>
    if inherit.components.isEmpty then "a template name" else "a template name after `.`"
  | .inheritEnd _ => "`.` or the end of the line"
  | .templateKey _ => "`[` after @template"
  | .key _ _ => "a key"
  | .keyEnd _ _ _ => "`]`"
  | .keyLine _ => "a key line or `]`"
  | .value _ _ => "a value"
  | .valueBelow _ => "a value (a block or string lines)"
  | .valueEnd _ (.block _ _) => "the end of the line after `\x7d`"
  | .valueEnd _ _ => "the end of the line"
  | .blockStart => "a newline after `\x7b`"
  | .stringPiece _ _ => stringPieceExpected ++ " or the end of the line"
  | .stringLine _ _ => stringPieceExpected
  | .component _ => "a placeholder path component or `*`"
  | .separator _ => "`.` or `>>`"
  | .spreadClose _ => "`>>` after `*`"
  | .spreadEnd _ => "the end of the line"

def unexpected (token : Token) (expected : String) : Error :=
  .unexpectedToken token.describe expected token.span

def literalText (token : Token) : Except Error String :=
  (Json.readLiteral token.text).mapError fun error =>
    .invalidStringLiteral ("cannot decode " ++ token.text ++ ": " ++ error.message) token.span

/-- The text of a key, in which a backslash stands for the character behind it. -/
def unescape : List Char → List Char
  | [] => []
  | ['\\'] => ['\\']
  | '\\' :: c :: rest => c :: unescape rest
  | c :: rest => c :: unescape rest

def keyText (text : String) : String := String.ofList (Text.trim (unescape text.toList))

def componentText? (token : Token) : Except Error (Option String) :=
  match token.kind with
  | .identifier => .ok (some token.text)
  | .stringLiteral => (literalText token).map some
  | _ => .ok none

def startsPiece : Token.Kind → Bool
  | .stringLiteral | .openAngled | .plus => true
  | _ => false

def pushPiece? (draft : Draft) (place : LinePlace) (elements : List StringElement)
    (token : Token) : Except Error (Option Draft) :=
  match token.kind with
  | .stringLiteral => do
    let text ← literalText token
    return some (draft.await (.stringPiece place (.literal text token.span :: elements)))
  | .plus => .ok (some (draft.await (.stringPiece place (.plus token.span :: elements))))
  | .openAngled => .ok (some (draft.await (.component ⟨place, elements, token.span, []⟩)))
  | _ => .ok none

/-- The string line of the pieces, which come last first. -/
def stringLine (elements : List StringElement) : StringLine :=
  let pieces := elements.reverse
  ⟨pieces, match pieces.head?, elements.head? with
    | some first, some last => first.span.through last.span
    | _, _ => default⟩

def stringValue (lines : List StringLine) : ValueNode :=
  .strings lines.reverse (match lines.getLast?, lines.head? with
    | some first, some last => first.span.through last.span
    | _, _ => default)

def endLine? (draft : Draft) : Option Draft :=
  match draft.awaiting with
  | .commentEnd comment =>
    match comment.key with
    | none => some (draft.add (.comment comment.comment))
    | some key =>
      some (draft.await (.keyLine { key with lines := .comment comment.comment :: key.lines }))
  | .inheritEnd inherit => some (draft.add inherit.item)
  | .valueEnd entry value => some (draft.add (entry.item value))
  | .stringPiece place elements =>
    let line := stringLine elements
    match place with
    | .item => some (draft.add (.strings line))
    | .key key => some (draft.await (.keyLine { key with lines := .strings line :: key.lines }))
    | .value entry lines => some (draft.await (.stringLine entry (line :: lines)))
  | .spreadEnd path => some (draft.add (.spread path))
  | _ => none

def endValue (draft : Draft) : Draft :=
  match draft.awaiting with
  | .stringLine entry lines => draft.add (entry.item (stringValue lines))
  | _ => draft

def openBlock (limit : Nat) (draft : Draft) (entry : Entry) (token : Token) :
    Except Error Draft :=
  if limit ≤ draft.blocks.length then .error (.nestingTooDeep limit token.span)
  else .ok ⟨⟨entry, token.span, draft.items⟩ :: draft.blocks, [], .blockStart⟩

def pushItem (draft : Draft) (token : Token) : Except Error Draft :=
  match token.kind with
  | .newline => .ok (draft.add (.blank token.span))
  | .hash => .ok (draft.await (.commentEnd ⟨none, token.span, []⟩))
  | .directive =>
    if token.text = "@from" then .ok (draft.await (.templateName ⟨token.span, [], none⟩))
    else if token.text = "@template" then .ok (draft.await (.templateKey token.span))
    else .error (.unknownDirective token.text token.span)
  | .openSquare => .ok (draft.await (.key token.span none))
  | .minus => .ok (draft.await (.value (.untagged token.span) false))
  | .closeCurly =>
    match draft.blocks with
    | [] => .error (unexpected token "a block item (this `\x7d` closes no block)")
    | block :: blocks =>
      let value := .block draft.items.reverse (block.brace.through token.span)
      .ok ⟨blocks, block.before, .valueEnd block.entry value⟩
  | _ => do
    match ← draft.pushPiece? .item [] token with
    | some next => return next
    | none => .error (unexpected token Awaiting.item.expected)

def pushValueBelow (limit : Nat) (draft : Draft) (entry : Entry) (token : Token) :
    Except Error Draft :=
  if token.kind = .openCurly then draft.openBlock limit entry token
  else do
    match ← draft.pushPiece? (.value entry []) [] token with
    | some next => return next
    | none => .error (unexpected token (Awaiting.valueBelow entry).expected)

def closePlaceholder (draft : Draft) (reference : OpenReference) (close : Span) : Draft :=
  draft.await (.stringPiece reference.place
    (.placeholder (reference.path close) :: reference.elements))

def closeSpread (draft : Draft) (reference : OpenReference) (close : Span) :
    Except Error Draft :=
  let path := reference.path close
  match reference.place, reference.elements with
  | .item, [] => .ok (draft.await (.spreadEnd path))
  | _, _ => .error (.misplacedSpread path.span)

def pushInside (limit : Nat) (draft : Draft) (token : Token) : Except Error Draft :=
  let refuse : Except Error Draft := .error (unexpected token draft.awaiting.expected)
  match draft.awaiting with
  | .item => draft.pushItem token
  | .commentEnd comment =>
    match token.kind with
    | .line | .openCurly =>
      .ok (draft.await (.commentEnd
        ⟨comment.key, comment.span.through token.span, comment.text ++ token.text.toList⟩))
    | _ => refuse
  | .templateName inherit => do
    match ← componentText? token with
    | some name =>
      let span := match inherit.span with
        | none => token.span
        | some span => span.through token.span
      return draft.await (.inheritEnd ⟨inherit.directive, name :: inherit.components, some span⟩)
    | none => refuse
  | .inheritEnd inherit =>
    if token.kind = .dot then .ok (draft.await (.templateName inherit)) else refuse
  | .templateKey mark =>
    if token.kind = .openSquare then .ok (draft.await (.key token.span (some mark)))
    else refuse
  | .key bracket template =>
    match token.kind with
    | .keyText => .ok (draft.await (.keyEnd token.text bracket template))
    | .closeSquare =>
      .ok (draft.await (.value
        (.tagged (.simple "" (bracket.through token.span)) template (template.getD bracket)) false))
    | .newline => .ok (draft.await (.keyLine ⟨bracket, template, []⟩))
    | _ => refuse
  | .keyEnd text bracket template =>
    if token.kind = .closeSquare then
      .ok (draft.await (.value
        (.tagged (.simple (keyText text) (bracket.through token.span)) template
          (template.getD bracket)) false))
    else refuse
  | .keyLine key =>
    match token.kind with
    | .newline => .ok draft
    | .closeSquare => .ok (draft.await (.value (key.entry token.span) true))
    | .hash => .ok (draft.await (.commentEnd ⟨some key, token.span, []⟩))
    | _ => do
      match ← draft.pushPiece? (.key key) [] token with
      | some next => return next
      | none => refuse
  | .value entry afterMultilineKey =>
    match token.kind with
    | .line =>
      .ok (draft.await (.valueEnd entry
        (.text (String.ofList (Text.trim token.text.toList)) token.span)))
    | .openCurly => draft.openBlock limit entry token
    | .newline => .ok (draft.await (.valueBelow entry))
    | _ => if afterMultilineKey then draft.pushValueBelow limit entry token else refuse
  | .valueBelow entry => draft.pushValueBelow limit entry token
  | .valueEnd _ _ => refuse
  | .blockStart => if token.kind = .newline then .ok (draft.await .item) else refuse
  | .stringPiece place elements => do
    match ← draft.pushPiece? place elements token with
    | some next => return next
    | none => refuse
  | .stringLine entry lines => do
    match ← draft.pushPiece? (.value entry lines) [] token with
    | some next => return next
    | none => draft.endValue.pushItem token
  | .component reference =>
    if token.kind = .star then .ok (draft.await (.spreadClose reference))
    else do
      match ← componentText? token with
      | some name =>
        return draft.await (.separator { reference with components := name :: reference.components })
      | none => refuse
  | .separator reference =>
    match token.kind with
    | .dot => .ok (draft.await (.component reference))
    | .closeAngled => .ok (draft.closePlaceholder reference token.span)
    | _ => refuse
  | .spreadClose reference =>
    if token.kind = .closeAngled then draft.closeSpread reference token.span else refuse
  | .spreadEnd path => .error (.misplacedSpread path.span)

/-- Takes the next token. White space only matters inside a comment. At most `limit` blocks
may be open. -/
def push (limit : Nat) (draft : Draft) (token : Token) : Except Error Draft :=
  match token.kind with
  | .whitespace =>
    match draft.awaiting with
    | .commentEnd comment =>
      .ok (draft.await (.commentEnd { comment with text := comment.text ++ token.text.toList }))
    | _ => .ok draft
  | .newline =>
    match draft.endLine? with
    | some next => .ok next
    | none => draft.pushInside limit token
  | _ => draft.pushInside limit token

def pushAll (limit : Nat) (draft : Draft) : List Token → Except Error Draft
  | [] => .ok draft
  | token :: rest => do (← draft.push limit token).pushAll limit rest

/-- The items, if the document may end here; the end of the text ends a line too. -/
def finish (stop : Span) (draft : Draft) : Except Error (List Item) :=
  let draft := (draft.endLine?.getD draft).endValue
  match draft.awaiting, draft.blocks with
  | .item, [] => .ok draft.items.reverse
  | .item, _ :: _ => .error (.unexpectedEnd "`\x7d`" stop)
  | awaiting, _ => .error (.unexpectedEnd awaiting.expected stop)

theorem pushAll_append (limit : Nat) (draft : Draft) (xs ys : List Token) :
    draft.pushAll limit (xs ++ ys) = (draft.pushAll limit xs).bind (·.pushAll limit ys) := by
  induction xs generalizing draft with
  | nil => rfl
  | cons x xs ih =>
    simp only [List.cons_append, pushAll, bind, Except.bind]
    cases draft.push limit x with
    | error e => rfl
    | ok next => exact ih next

end Draft

end ConfigLang
