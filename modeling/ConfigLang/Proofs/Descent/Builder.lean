import ConfigLang.Syntax.Draft
import ConfigLang.Proofs.Descent.Program
import ConfigLang.Proofs.Grammar.Basic
/-! The tree builder as a family of programs, one for each part of a document, that call each other
as the parts hold each other. A loop is a call that ends by calling itself with what it has so far. -/
namespace ConfigLang

def Draft.OpenInherit.extend (inherit : Draft.OpenInherit) : String × Span → Draft.OpenInherit
  | (name, span) => ⟨inherit.directive, name :: inherit.components, some (match inherit.span with
    | none => span
    | some before => before.through span)⟩

namespace Descent

/-- A reference in angle brackets, before it is known whether a spread may stand there. -/
inductive Reference
  | placeholder (path : Path)
  | spread (path : Path)

/-- What can be called for. What a loop has gathered before comes last first. -/
inductive Call
  | items (inBlock : Bool) (before : List Item)
  | item
  | comment
  | commentText (span : Span) (text : List Char)
  | directive
  | templatePath (inherit : Draft.OpenInherit)
  | component (expected : String)
  | reference
  | components (brackets : Span) (before : List String)
  | element
  /-- A string line, the first piece of which may have been read. -/
  | line (first? : Option StringElement)
  | pieces (before : List StringElement)
  | tagged (mark? : Option Span)
  | key (bracket : Span)
  | keyLines (bracket : Span) (before : List KeyLine)
  | value (afterMultilineKey : Bool)
  /-- A value below its key, or behind a key that spans lines. -/
  | lowerValue
  | lines (before : List StringLine)
  | block
  /-- A block from behind its brace on. -/
  | blockItems (brace : Span)

abbrev Call.Answer : Call → Type
  | items _ _ => List Item
  | item => Item
  | comment => Comment
  | commentText _ _ => Comment
  | directive => Item
  | templatePath _ => Draft.OpenInherit
  | component _ => String × Span
  | reference => Reference
  | components _ _ => Reference
  | element => StringElement
  | line _ => StringLine
  | pieces _ => List StringElement
  | tagged _ => Item
  | key _ => Key
  | keyLines _ _ => Key
  | value _ => ValueNode
  | lowerValue => ValueNode
  | lines _ => List StringLine
  | block => ValueNode
  | blockItems _ => ValueNode

abbrev Builder (α : Type) := Program Call.Answer α

namespace Builder

variable {α : Type}

def peek : Builder (Option Token) := .look fun _ token? => .give token?

def sees (kind : Token.Kind) : Builder Bool :=
  .look fun _ token? => .give (token?.any (·.kind = kind))

def seesPiece : Builder Bool := .look fun _ token? => .give (token?.any (Draft.startsPiece ·.kind))

def advance : Builder Unit := .pass (.give ())

def ask (c : Call) : Builder c.Answer := .call none c .give

def askInside (brace : Span) (c : Call) : Builder c.Answer := .call (some brace) c .give

def ofExcept : Except Error α → Builder α
  | .ok a => .give a
  | .error error => .refuse error

section stop

-- Where the tokens end.
variable (stop : Span)

def unexpected (expected : String) : Builder α := do
  match ← peek with
  | some token => .refuse (Draft.unexpected token expected)
  | none => .refuse (.unexpectedEnd expected stop)

def expect (kind : Token.Kind) (expected : String) : Builder Token := do
  match ← peek with
  | some token => if token.kind = kind then do advance; return token else unexpected stop expected
  | none => unexpected stop expected

/-- The end of a line; the end of the tokens ends a line too. -/
def lineEnd (expected : String) : Builder Unit := do
  match ← peek with
  | some token => if token.kind = .newline then advance else unexpected stop expected
  | none => return ()

def commentRest (span : Span) (text : List Char) : Option Token → Builder Comment
  | some token =>
    if token.kind = .line ∨ token.kind = .openCurly then do
      advance
      ask (.commentText (span.through token.span) (text ++ token.text.toList))
    else do
      lineEnd stop "the end of the comment"
      return ⟨String.ofList (Text.trim text), span⟩
  | none => return ⟨String.ofList (Text.trim text), span⟩

def body : (c : Call) → Builder c.Answer
  | .items inBlock before => do
    match ← peek with
    | none => if inBlock then unexpected stop "`\x7d`" else return before.reverse
    | some token =>
      if token.kind = .closeCurly then
        if inBlock then return before.reverse
        else unexpected stop "a block item (this `\x7d` closes no block)"
      else do
        let item ← ask .item
        ask (.items inBlock (item :: before))
  | .item => do
    match ← peek with
    | none => unexpected stop "a block item"
    | some token =>
      match token.kind with
      | .newline => do
        advance
        return .blank token.span
      | .hash => do
        let comment ← ask .comment
        return .comment comment
      | .directive => ask .directive
      | .openSquare => ask (.tagged none)
      | .minus => do
        advance
        let value ← ask (.value false)
        return Draft.Entry.item value (.untagged token.span)
      | .openAngled => do
        match ← ask .reference with
        | .placeholder path => do
          let line ← ask (.line (some (.placeholder path)))
          return .strings line
        | .spread path => do
          match ← peek with
          | none => return .spread path
          | some token =>
            if token.kind = .newline then do
              advance
              return .spread path
            else .refuse (.misplacedSpread path.span)
      | .stringLiteral | .plus => do
        let line ← ask (.line none)
        return .strings line
      | _ => unexpected stop "a block item"
  | .comment => do
    let hash ← expect stop .hash "`#`"
    ask (.commentText hash.span [])
  | .commentText span text => .look fun gap => commentRest stop span (text ++ gap)
  | .directive => do
    let directive ← expect stop .directive "a directive"
    if directive.text = "@from" then do
      let inherit ← ask (.templatePath ⟨directive.span, [], none⟩)
      lineEnd stop "`.` or the end of the line"
      return inherit.item
    else if directive.text = "@template" then do
      if ← sees .openSquare then ask (.tagged (some directive.span))
      else unexpected stop "`[` after @template"
    else .refuse (.unknownDirective directive.text directive.span)
  | .templatePath inherit => do
    let named ← ask (.component (Draft.Awaiting.templateName inherit).expected)
    if ← sees .dot then do
      advance
      ask (.templatePath (inherit.extend named))
    else return inherit.extend named
  | .component expected => do
    match ← peek with
    | none => unexpected stop expected
    | some token =>
      match token.kind with
      | .identifier => do
        advance
        return (token.text, token.span)
      | .stringLiteral => do
        advance
        let text ← ofExcept (Draft.literalText token)
        return (text, token.span)
      | _ => unexpected stop expected
  | .reference => do
    let brackets ← expect stop .openAngled "`<<`"
    ask (.components brackets.span [])
  | .components brackets before => do
    if ← sees .star then do
      advance
      let close ← expect stop .closeAngled "`>>` after `*`"
      return .spread ⟨before.reverse, brackets.through close.span⟩
    else do
      let (name, _) ← ask (.component "a placeholder path component or `*`")
      match ← peek with
      | none => unexpected stop "`.` or `>>`"
      | some token =>
        match token.kind with
        | .dot => do
          advance
          ask (.components brackets (name :: before))
        | .closeAngled => do
          advance
          return .placeholder ⟨(name :: before).reverse, brackets.through token.span⟩
        | _ => unexpected stop "`.` or `>>`"
  | .element => do
    match ← peek with
    | none => unexpected stop Draft.stringPieceExpected
    | some token =>
      match token.kind with
      | .stringLiteral => do
        advance
        let text ← ofExcept (Draft.literalText token)
        return .literal text token.span
      | .plus => do
        advance
        return .plus token.span
      | .openAngled => do
        match ← ask .reference with
        | .placeholder path => return .placeholder path
        | .spread path => .refuse (.misplacedSpread path.span)
      | _ => unexpected stop Draft.stringPieceExpected
  | .line first? => do
    let elements ← ask (.pieces first?.toList)
    if elements.isEmpty then unexpected stop Draft.stringPieceExpected
    else do
      lineEnd stop (Draft.stringPieceExpected ++ " or the end of the line")
      return Draft.stringLine elements
  | .pieces before => do
    if ← seesPiece then do
      let element ← ask .element
      ask (.pieces (element :: before))
    else return before
  | .tagged mark? => do
    let bracket ← expect stop .openSquare "`[`"
    let key ← ask (.key bracket.span)
    let value ← ask (.value (Grammar.isMultiline key))
    return Draft.Entry.item value (.tagged key mark? (mark?.getD bracket.span))
  | .key bracket => do
    match ← peek with
    | none => unexpected stop "a key"
    | some token =>
      match token.kind with
      | .keyText => do
        advance
        let close ← expect stop .closeSquare "`]`"
        return .simple (Draft.keyText token.text) (bracket.through close.span)
      | .closeSquare => do
        advance
        return .simple "" (bracket.through token.span)
      | .newline => do
        advance
        ask (.keyLines bracket [])
      | _ => unexpected stop "a key"
  | .keyLines bracket before => do
    match ← peek with
    | none => unexpected stop "a key line or `]`"
    | some token =>
      match token.kind with
      | .closeSquare => do
        advance
        return .multiline before.reverse (bracket.through token.span)
      | .newline => do
        advance
        ask (.keyLines bracket before)
      | .hash => do
        let comment ← ask .comment
        ask (.keyLines bracket (.comment comment :: before))
      | .stringLiteral | .openAngled | .plus => do
        let line ← ask (.line none)
        ask (.keyLines bracket (.strings line :: before))
      | _ => unexpected stop "a key line or `]`"
  | .value afterMultilineKey => do
    match ← peek with
    | none => unexpected stop "a value"
    | some token =>
      match token.kind with
      | .line => do
        advance
        lineEnd stop "the end of the line"
        return .text (String.ofList (Text.trim token.text.toList)) token.span
      | .openCurly => ask .block
      | .newline => do
        advance
        ask .lowerValue
      | _ => if afterMultilineKey then ask .lowerValue else unexpected stop "a value"
  | .lowerValue => do
    if ← sees .openCurly then ask .block
    else do
      if ← seesPiece then do
        let lines ← ask (.lines [])
        return Draft.stringValue lines
      else unexpected stop "a value (a block or string lines)"
  | .lines before => do
    if ← seesPiece then do
      let line ← ask (.line none)
      ask (.lines (line :: before))
    else return before
  | .block => do
    let brace ← expect stop .openCurly "`\x7b`"
    askInside brace.span (.blockItems brace.span)
  | .blockItems brace => do
    let _ ← expect stop .newline "a newline after `\x7b`"
    let items ← ask (.items true [])
    let close ← expect stop .closeCurly "`\x7d`"
    lineEnd stop "the end of the line after `\x7d`"
    return .block items (brace.through close.span)

end stop

end Builder

end Descent

end ConfigLang
