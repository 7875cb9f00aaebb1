import ConfigLang.Proofs.Json.Grammar
import ConfigLang.Syntax.Draft
/-! The grammar of documents, over the tokens that are not white space. Each relation says which
tokens a node of the tree is derived from: those in front, up to where the last argument
starts. Every node is made from its own tokens alone.

    document    := item*
    block       := open NL item* close (NL | end)
    item        := NL | comment | @from path NL | @template tagged | tagged | - value
                 | spread NL | line
    tagged      := [ key value
    key         := keyText? ] | NL keyLine* ]
    keyLine     := line | comment
    value       := text (NL | end) | block | NL lowerValue
                 | lowerValue            (behind a key that spans lines)
    lowerValue  := block | line+
    line        := (stringLiteral | placeholder | +)+ (NL | end)
    placeholder := << path >>
    spread      := << (path .)? * >>
    path        := component (. component)*
    component   := identifier | stringLiteral
    comment     := # (text | open)* NL

Texts, simple keys and comments are without the white space at their ends. In a simple key a
backslash stands for the character behind it, and a string literal is a JSON text.
-/
namespace ConfigLang.Grammar

/-- Points in which reading is more generous than the grammar as it is written down. -/
structure Readings where
  /-- The end of the input ends every line; otherwise only that of a string line or a value. -/
  endEndsLines : Bool
  /-- Blank lines may stand between the lines of a key. -/
  blankKeyLines : Bool
  /-- A comment in a key may be anything that a comment may be; otherwise it is one text. -/
  anyKeyComments : Bool

def documented : Readings := ⟨false, false, false⟩

def accepted : Readings := ⟨true, true, true⟩

/-- `NL`, or the end of the input where it counts as one. -/
inductive IsLineEnd (orEnd : Bool) : List Token → List Token → Prop
  | newline {token : Token} {rest : List Token} (kind : token.kind = .newline) :
      IsLineEnd orEnd (token :: rest) rest
  | endOfInput (allowed : orEnd = true) : IsLineEnd orEnd [] []

/-- The text is the whole without the white space at its ends. -/
structure Trims (whole text : List Char) : Prop where
  split : ∃ front back, whole = front ++ (text ++ back) ∧
    (∀ c ∈ front, Text.isBlank c = true) ∧ ∀ c ∈ back, Text.isBlank c = true
  first : ∀ c ∈ text.head?, Text.isBlank c = false
  last : ∀ c ∈ text.getLast?, Text.isBlank c = false

/-- A backslash stands for the character behind it, any other character for itself. A backslash
with nothing behind it is one. -/
inductive Unescapes : List Char → List Char → Prop
  | nil : Unescapes [] []
  | last : Unescapes ['\\'] ['\\']
  | escaped {c : Char} {cs text : List Char} (others : Unescapes cs text) :
      Unescapes ('\\' :: c :: cs) (c :: text)
  | plain {c : Char} {cs text : List Char} (other : c ≠ '\\') (others : Unescapes cs text) :
      Unescapes (c :: cs) (c :: text)

def Decodes (token : Token) (text : String) : Prop := Json.IsText token.text (.string text)

inductive IsComponent (token : Token) : String → Prop
  | identifier (kind : token.kind = .identifier) : IsComponent token token.text
  | literal {name : String} (kind : token.kind = .stringLiteral) (decodes : Decodes token name) :
      IsComponent token name

/-- The last argument but one lists the components, each with its name and its span. -/
inductive IsPath : List Token → List (String × Span) → List Token → Prop
  | single {token : Token} {name : String} {rest : List Token}
      (component : IsComponent token name) : IsPath (token :: rest) [(name, token.span)] rest
  | dotted {token dot : Token} {name : String} {components : List (String × Span)}
      {ts rest : List Token} (component : IsComponent token name) (dotKind : dot.kind = .dot)
      (path : IsPath ts components rest) :
      IsPath (token :: dot :: ts) ((name, token.span) :: components) rest

def pathOf (components : List (String × Span)) : Path :=
  ⟨components.map Prod.fst, match components with
    | [] => default
    | first :: others => others.foldl (fun span component => span.through component.2) first.2⟩

def pathBetween (opening : Token) (components : List (String × Span)) (closing : Token) : Path :=
  ⟨components.map Prod.fst, opening.span.through closing.span⟩

inductive IsPiece : List Token → StringElement → List Token → Prop
  | literal {token : Token} {text : String} {rest : List Token}
      (kind : token.kind = .stringLiteral) (decodes : Decodes token text) :
      IsPiece (token :: rest) (.literal text token.span) rest
  | plus {token : Token} {rest : List Token} (kind : token.kind = .plus) :
      IsPiece (token :: rest) (.plus token.span) rest
  | placeholder {opening closing : Token} {components : List (String × Span)}
      {ts rest : List Token}
      (openingKind : opening.kind = .openAngled) (path : IsPath ts components (closing :: rest))
      (closingKind : closing.kind = .closeAngled) :
      IsPiece (opening :: ts) (.placeholder (pathBetween opening components closing)) rest

inductive IsSpread : List Token → Path → List Token → Prop
  | whole {opening star closing : Token} {rest : List Token}
      (openingKind : opening.kind = .openAngled) (starKind : star.kind = .star)
      (closingKind : closing.kind = .closeAngled) :
      IsSpread (opening :: star :: closing :: rest) (pathBetween opening [] closing) rest
  | path {opening dot star closing : Token} {components : List (String × Span)}
      {ts rest : List Token} (openingKind : opening.kind = .openAngled)
      (path : IsPath ts components (dot :: star :: closing :: rest)) (dotKind : dot.kind = .dot)
      (starKind : star.kind = .star) (closingKind : closing.kind = .closeAngled) :
      IsSpread (opening :: ts) (pathBetween opening components closing) rest

inductive ArePieces : List Token → List StringElement → List Token → Prop
  | nil {rest : List Token} : ArePieces rest [] rest
  | cons {ts rest rest' : List Token} {piece : StringElement} {pieces : List StringElement}
      (first : IsPiece ts piece rest) (others : ArePieces rest pieces rest') :
      ArePieces ts (piece :: pieces) rest'

def spanOf (spans : List Span) : Span :=
  match spans.head?, spans.getLast? with
  | some first, some last => first.through last
  | _, _ => default

inductive IsLine : List Token → StringLine → List Token → Prop
  | pieces {ts rest rest' : List Token} {pieces : List StringElement}
      (are : ArePieces ts pieces rest) (nonempty : pieces ≠ []) (ended : IsLineEnd true rest rest') :
      IsLine ts ⟨pieces, spanOf (pieces.map StringElement.span)⟩ rest'

inductive AreLines : List Token → List StringLine → List Token → Prop
  | nil {rest : List Token} : AreLines rest [] rest
  | cons {ts rest rest' : List Token} {line : StringLine} {lines : List StringLine}
      (first : IsLine ts line rest) (others : AreLines rest lines rest') :
      AreLines ts (line :: lines) rest'

def valueOf (lines : List StringLine) : ValueNode :=
  .strings lines (spanOf (lines.map StringLine.span))

variable (readings : Readings) (source : List Char)

def commentSpan (hash : Token) (body : List Token) : Span :=
  body.foldl (fun span token => span.through token.span) hash.span

/-- What the source has between the `#` of a comment and the end of its last token. -/
def commentSource (hash : Token) (body : List Token) : List Char :=
  (Text.sliceBytes hash.span.range.stop.offset (commentSpan hash body).range.stop.offset
    source).getD []

inductive IsComment (inKey : Bool) : List Token → Comment → List Token → Prop
  | hash {hash : Token} {text : List Char} {body rest rest' : List Token}
      (kind : hash.kind = .hash)
      (texts : ∀ token ∈ body, token.kind = .line ∨ token.kind = .openCurly)
      (brief : inKey = true → readings.anyKeyComments = false →
        body.length ≤ 1 ∧ ∀ token ∈ body, token.kind = .line)
      (trims : Trims (commentSource source hash body) text)
      (ended : IsLineEnd readings.endEndsLines rest rest') :
      IsComment inKey (hash :: (body ++ rest)) ⟨String.ofList text, commentSpan hash body⟩ rest'

inductive AreKeyLines : List Token → List KeyLine → List Token → Prop
  | nil {rest : List Token} : AreKeyLines rest [] rest
  | blank {token : Token} {rest rest' : List Token} {lines : List KeyLine}
      (allowed : readings.blankKeyLines = true) (kind : token.kind = .newline)
      (others : AreKeyLines rest lines rest') : AreKeyLines (token :: rest) lines rest'
  | comment {ts rest rest' : List Token} {comment : Comment} {lines : List KeyLine}
      (first : IsComment readings source true ts comment rest)
      (others : AreKeyLines rest lines rest') : AreKeyLines ts (.comment comment :: lines) rest'
  | strings {ts rest rest' : List Token} {line : StringLine} {lines : List KeyLine}
      (first : IsLine ts line rest) (others : AreKeyLines rest lines rest') :
      AreKeyLines ts (.strings line :: lines) rest'

/-- A key from behind its opening bracket on. -/
inductive IsKey (bracket : Span) : List Token → Key → List Token → Prop
  | empty {closing : Token} {rest : List Token} (closingKind : closing.kind = .closeSquare) :
      IsKey bracket (closing :: rest) (.simple "" (bracket.through closing.span)) rest
  | simple {token closing : Token} {unescaped text : List Char} {rest : List Token}
      (kind : token.kind = .keyText) (unescapes : Unescapes token.text.toList unescaped)
      (trims : Trims unescaped text) (closingKind : closing.kind = .closeSquare) :
      IsKey bracket (token :: closing :: rest)
        (.simple (String.ofList text) (bracket.through closing.span)) rest
  | multiline {newline closing : Token} {ts rest : List Token} {lines : List KeyLine}
      (kind : newline.kind = .newline)
      (are : AreKeyLines readings source ts lines (closing :: rest))
      (closingKind : closing.kind = .closeSquare) :
      IsKey bracket (newline :: ts) (.multiline lines (bracket.through closing.span)) rest

def isMultiline : Key → Bool
  | .simple _ _ => false
  | .multiline _ _ => true

mutual

inductive IsBlock : List Token → ValueNode → List Token → Prop
  | braces {opening newline closing : Token} {ts rest rest' : List Token} {items : List Item}
      (openingKind : opening.kind = .openCurly) (kind : newline.kind = .newline)
      (are : AreItems ts items (closing :: rest)) (closingKind : closing.kind = .closeCurly)
      (ended : IsLineEnd true rest rest') :
      IsBlock (opening :: newline :: ts) (.block items (opening.span.through closing.span)) rest'

inductive IsLowerValue : List Token → ValueNode → List Token → Prop
  | block {ts rest : List Token} {value : ValueNode} (derived : IsBlock ts value rest) :
      IsLowerValue ts value rest
  | strings {ts rest : List Token} {lines : List StringLine} (are : AreLines ts lines rest)
      (nonempty : lines ≠ []) : IsLowerValue ts (valueOf lines) rest

inductive IsValue : Bool → List Token → ValueNode → List Token → Prop
  | text {behindLines : Bool} {token : Token} {text : List Char} {rest rest' : List Token}
      (kind : token.kind = .line) (trims : Trims token.text.toList text)
      (ended : IsLineEnd true rest rest') :
      IsValue behindLines (token :: rest) (.text (String.ofList text) token.span) rest'
  | block {behindLines : Bool} {ts rest : List Token} {value : ValueNode}
      (derived : IsBlock ts value rest) : IsValue behindLines ts value rest
  | nextLine {behindLines : Bool} {newline : Token} {ts rest : List Token} {value : ValueNode}
      (kind : newline.kind = .newline) (derived : IsLowerValue ts value rest) :
      IsValue behindLines (newline :: ts) value rest
  | sameLine {ts rest : List Token} {value : ValueNode} (derived : IsLowerValue ts value rest) :
      IsValue true ts value rest

inductive IsItem : List Token → Item → List Token → Prop
  | blank {token : Token} {rest : List Token} (kind : token.kind = .newline) :
      IsItem (token :: rest) (.blank token.span) rest
  | comment {ts rest : List Token} {comment : Comment}
      (derived : IsComment readings source false ts comment rest) :
      IsItem ts (.comment comment) rest
  | inherit {directive : Token} {components : List (String × Span)} {ts rest rest' : List Token}
      (kind : directive.kind = .directive) (name : directive.text = "@from")
      (path : IsPath ts components rest) (ended : IsLineEnd readings.endEndsLines rest rest') :
      IsItem (directive :: ts) (.inherit (pathOf components)
        (directive.span.through (pathOf components).span)) rest'
  | template {directive bracket : Token} {ts rest rest' : List Token} {key : Key}
      {value : ValueNode} (kind : directive.kind = .directive)
      (name : directive.text = "@template") (bracketKind : bracket.kind = .openSquare)
      (isKey : IsKey readings source bracket.span ts key rest)
      (isValue : IsValue (isMultiline key) rest value rest') :
      IsItem (directive :: bracket :: ts) (.tagged key value (some directive.span)
        (directive.span.through value.span)) rest'
  | tagged {bracket : Token} {ts rest rest' : List Token} {key : Key} {value : ValueNode}
      (bracketKind : bracket.kind = .openSquare)
      (isKey : IsKey readings source bracket.span ts key rest)
      (isValue : IsValue (isMultiline key) rest value rest') :
      IsItem (bracket :: ts) (.tagged key value none (bracket.span.through value.span)) rest'
  | untagged {dash : Token} {ts rest : List Token} {value : ValueNode}
      (kind : dash.kind = .minus) (isValue : IsValue false ts value rest) :
      IsItem (dash :: ts) (.untagged value (dash.span.through value.span)) rest
  | spread {ts rest rest' : List Token} {path : Path} (derived : IsSpread ts path rest)
      (ended : IsLineEnd readings.endEndsLines rest rest') : IsItem ts (.spread path) rest'
  | strings {ts rest : List Token} {line : StringLine} (derived : IsLine ts line rest) :
      IsItem ts (.strings line) rest

inductive AreItems : List Token → List Item → List Token → Prop
  | nil {rest : List Token} : AreItems rest [] rest
  | cons {ts rest rest' : List Token} {item : Item} {items : List Item}
      (first : IsItem ts item rest) (others : AreItems rest items rest') :
      AreItems ts (item :: items) rest'

end

def IsDocument (tokens : List Token) (items : List Item) : Prop :=
  AreItems readings source (tokens.filter Token.isSignificant) items []

end ConfigLang.Grammar
