import ConfigLang.Proofs.Grammar.Basic
import ConfigLang.Proofs.Syntax.Step
import ConfigLang.Proofs.Token.Cut
/-! What the tokens to come have to be. A draft in the middle of a node is owed the rest of that
node; what is owed is said in the terms of the grammar, with the node that it completes. -/
namespace ConfigLang

namespace Grammar

/-- The rest of a reference, with its components, whether it ends in a star, and the closing
brackets. -/
inductive EndsReference :
    List Token → List (String × Span) → Bool → Token → List Token → Prop
  | star {star closing : Token} {rest : List Token} (starKind : star.kind = .star)
      (closingKind : closing.kind = .closeAngled) :
      EndsReference (star :: closing :: rest) [] true closing rest
  | name {token closing : Token} {name : String} {rest : List Token}
      (component : IsComponent token name) (closingKind : closing.kind = .closeAngled) :
      EndsReference (token :: closing :: rest) [(name, token.span)] false closing rest
  | dotted {token dot closing : Token} {name : String} {components : List (String × Span)}
      {ts rest : List Token} {isSpread : Bool} (component : IsComponent token name)
      (dotKind : dot.kind = .dot)
      (ended : EndsReference ts components isSpread closing rest) :
      EndsReference (token :: dot :: ts) ((name, token.span) :: components) isSpread closing rest

section endsReference

variable {components : List (String × Span)} {ts rest behind : List Token} {closing : Token}

theorem endsReference_of_isPath (path : IsPath ts components behind)
    (same : behind = closing :: rest) (closingKind : closing.kind = .closeAngled) :
    EndsReference ts components false closing rest := by
  induction path with
  | single component =>
    subst same
    exact .name component closingKind
  | dotted component dotKind _ ih => exact .dotted component dotKind (ih same)

theorem isPath_of_endsReference (ended : EndsReference ts components false closing rest) :
    IsPath ts components (closing :: rest) ∧ closing.kind = .closeAngled := by
  generalize isPlaceholder : false = isSpread at ended
  induction ended with
  | star => cases isPlaceholder
  | name component closingKind => exact ⟨.single component, closingKind⟩
  | dotted component dotKind _ ih =>
    obtain ⟨path, closingKind⟩ := ih isPlaceholder
    exact ⟨.dotted component dotKind path, closingKind⟩

theorem endsReference_of_spreadPath {dot star : Token} (path : IsPath ts components behind)
    (same : behind = dot :: star :: closing :: rest) (dotKind : dot.kind = .dot)
    (starKind : star.kind = .star) (closingKind : closing.kind = .closeAngled) :
    EndsReference ts components true closing rest := by
  induction path with
  | single component =>
    subst same
    exact .dotted component dotKind (.star starKind closingKind)
  | dotted component dotKind' _ ih => exact .dotted component dotKind' (ih same)

theorem spreadPath_of_endsReference (ended : EndsReference ts components true closing rest) :
    closing.kind = .closeAngled ∧
      ((∃ star, star.kind = .star ∧ ts = star :: closing :: rest ∧ components = []) ∨
        ∃ dot star, dot.kind = .dot ∧ star.kind = .star ∧
          IsPath ts components (dot :: star :: closing :: rest)) := by
  generalize isSpread' : true = isSpread at ended
  induction ended with
  | star starKind closingKind => exact ⟨closingKind, .inl ⟨_, starKind, rfl, rfl⟩⟩
  | name => cases isSpread'
  | dotted component dotKind _ ih =>
    obtain ⟨closingKind, ⟨star, starKind, rfl, rfl⟩ | ⟨dot, star, dotKind', starKind, path⟩⟩ :=
      ih isSpread'
    · exact ⟨closingKind, .inr ⟨_, star, dotKind, starKind, .single component⟩⟩
    · exact ⟨closingKind, .inr ⟨dot, star, dotKind', starKind, .dotted component dotKind path⟩⟩

end endsReference

theorem isSpread_iff {ts rest : List Token} {path : Path} :
    IsSpread ts path rest ↔ ∃ opening ts' components closing, ts = opening :: ts' ∧
      opening.kind = .openAngled ∧ EndsReference ts' components true closing rest ∧
      path = pathBetween opening components closing := by
  constructor
  · intro spread
    cases spread with
    | whole openingKind starKind closingKind =>
      exact ⟨_, _, _, _, rfl, openingKind, .star starKind closingKind, rfl⟩
    | path openingKind path dotKind starKind closingKind =>
      exact ⟨_, _, _, _, rfl, openingKind,
        endsReference_of_spreadPath path rfl dotKind starKind closingKind, rfl⟩
  · rintro ⟨opening, ts', components, closing, rfl, openingKind, ended, rfl⟩
    obtain ⟨closingKind, ⟨star, starKind, rfl, rfl⟩ | ⟨dot, star, dotKind, starKind, path⟩⟩ :=
      spreadPath_of_endsReference ended
    · exact .whole openingKind starKind closingKind
    · exact .path openingKind path dotKind starKind closingKind

end Grammar

namespace Draft

open Grammar

variable (readings : Readings) (source : List Char)

def OpenInherit.passAll (inherit : OpenInherit) (components : List (String × Span)) :
    OpenInherit :=
  components.foldl (fun inherit component => inherit.pass component.1 component.2) inherit

section owed

-- what has to hold of an item and the tokens behind it, which are without white space
variable (next : Item → List Token → Prop)

def OwesValue (entry : Entry) (behindLines : Bool) (ts : List Token) : Prop :=
  ∃ value rest, IsValue readings source behindLines ts value rest ∧ next (entry.item value) rest

def OwesLowerValue (entry : Entry) (ts : List Token) : Prop :=
  ∃ value rest, IsLowerValue readings source ts value rest ∧ next (entry.item value) rest

def OwesKey (bracket : Span) (template : Option Span) (ts : List Token) : Prop :=
  ∃ key rest, IsKey readings source bracket ts key rest ∧
    OwesValue readings source next (.tagged key template (template.getD bracket)) (isMultiline key)
      rest

def OwesKeyLines (key : OpenKey) (ts : List Token) : Prop :=
  ∃ lines closing rest, AreKeyLines readings source ts lines (closing :: rest) ∧
    closing.kind = .closeSquare ∧
    OwesValue readings source next
      (.tagged (.multiline (key.lines.reverse ++ lines) (key.bracket.through closing.span))
        key.template (key.template.getD key.bracket)) true rest

def OwesLines (entry : Entry) (lines : List StringLine) (ts : List Token) : Prop :=
  ∃ more rest, AreLines ts more rest ∧ next (entry.item (valueOf (lines.reverse ++ more))) rest

def OwesBehindLine (line : StringLine) : LinePlace → List Token → Prop
  | .item => next (.strings line)
  | .key key => OwesKeyLines readings source next (key.push (.strings line))
  | .value entry lines => OwesLines next entry (line :: lines)

def OwesPieces (place : LinePlace) (elements : List StringElement) (ts : List Token) : Prop :=
  ∃ pieces rest rest', ArePieces ts pieces rest ∧ IsLineEnd true rest rest' ∧
    OwesBehindLine readings source next
      ⟨elements.reverse ++ pieces, spanOf ((elements.reverse ++ pieces).map StringElement.span)⟩
      place rest'

def OwesSpreadEnd (path : Path) (ts : List Token) : Prop :=
  ∃ rest, IsLineEnd readings.endEndsLines ts rest ∧ next (.spread path) rest

def OwesLoneSpread (place : LinePlace) (elements : List StringElement) (ts : List Token) : Prop :=
  place = .item ∧ elements = [] ∧
    ∃ path rest, IsSpread ts path rest ∧ OwesSpreadEnd readings next path rest

def OwesBehindReference (reference : OpenReference) (isSpread : Bool) (path : Path)
    (ts : List Token) : Prop :=
  if isSpread then
    reference.place = .item ∧ reference.elements = [] ∧ OwesSpreadEnd readings next path ts
  else OwesPieces readings source next reference.place (.placeholder path :: reference.elements) ts

def OwesReference (reference : OpenReference) (ts : List Token) : Prop :=
  ∃ components isSpread closing rest, EndsReference ts components isSpread closing rest ∧
    OwesBehindReference readings source next reference isSpread
      ⟨reference.components.reverse ++ components.map Prod.fst,
        reference.brackets.through closing.span⟩ rest

def OwesPath (inherit : OpenInherit) (ts : List Token) : Prop :=
  ∃ components rest rest', IsPath ts components rest ∧ IsLineEnd readings.endEndsLines rest rest' ∧
    next (inherit.passAll components).item rest'

def OwesBehindComment (comment : Comment) : Option OpenKey → List Token → Prop
  | none => next (.comment comment)
  | some key => OwesKeyLines readings source next (key.push (.comment comment))

/-- Here white space counts: it belongs to the text of the comment. -/
def OwesComment (comment : OpenComment) (tokens : List Token) : Prop :=
  ∃ body rest rest', tokens = body ++ rest ∧
    (∀ token ∈ body, token.kind = .whitespace ∨ token.kind = .line ∨ token.kind = .openCurly) ∧
    IsLineEnd readings.endEndsLines rest rest' ∧
    OwesBehindComment readings source next
      ⟨String.ofList (Text.trim (comment.text ++ textOf body)),
        (body.filter Token.isSignificant).foldl (fun span token => span.through token.span)
          comment.span⟩ comment.key (rest'.filter Token.isSignificant)

/-- What is owed of tokens without white space; `here` is what is owed where an item may start. -/
def OwesSignificant (here : List Token → Prop) : Awaiting → List Token → Prop
  | .item, ts => here ts
  | .commentEnd _, _ => False
  | .templateName inherit, ts => OwesPath readings next inherit ts
  | .inheritEnd inherit, ts =>
    (∃ rest, IsLineEnd readings.endEndsLines ts rest ∧ next inherit.item rest) ∨
      ∃ dot rest, ts = dot :: rest ∧ dot.kind = .dot ∧ OwesPath readings next inherit rest
  | .templateKey mark, ts =>
    ∃ bracket rest, ts = bracket :: rest ∧ bracket.kind = .openSquare ∧
      OwesKey readings source next bracket.span (some mark) rest
  | .key bracket template, ts => OwesKey readings source next bracket template ts
  | .keyEnd text bracket template, ts =>
    ∃ closing rest, ts = closing :: rest ∧ closing.kind = .closeSquare ∧
      OwesValue readings source next
        (.tagged (.simple (Draft.keyText text) (bracket.through closing.span)) template
          (template.getD bracket)) false rest
  | .keyLine key, ts => OwesKeyLines readings source next key ts
  | .value entry behindLines, ts => OwesValue readings source next entry behindLines ts
  | .valueBelow entry, ts => OwesLowerValue readings source next entry ts
  | .valueEnd entry value, ts => ∃ rest, IsLineEnd true ts rest ∧ next (entry.item value) rest
  | .blockStart, ts => ∃ newline rest, ts = newline :: rest ∧ newline.kind = .newline ∧ here rest
  | .stringPiece place elements, ts =>
    OwesPieces readings source next place elements ts ∨
      OwesLoneSpread readings next place elements ts
  | .stringLine entry lines, ts => OwesLines next entry lines ts
  | .component reference, ts => OwesReference readings source next reference ts
  | .separator reference, ts =>
    (∃ closing rest, ts = closing :: rest ∧ closing.kind = .closeAngled ∧
      OwesBehindReference readings source next reference false (reference.path closing.span) rest) ∨
      ∃ dot rest, ts = dot :: rest ∧ dot.kind = .dot ∧
        OwesReference readings source next reference rest
  | .spreadClose reference, ts =>
    ∃ closing rest, ts = closing :: rest ∧ closing.kind = .closeAngled ∧
      OwesBehindReference readings source next reference true (reference.path closing.span) rest
  | .spreadEnd path, ts => OwesSpreadEnd readings next path ts

def Owes (here : List Token → Prop) (awaiting : Awaiting) (tokens : List Token) : Prop :=
  match awaiting with
  | .commentEnd comment => OwesComment readings source next comment tokens
  | awaiting => OwesSignificant readings source next here awaiting
      (tokens.filter Token.isSignificant)

end owed

end Draft
end ConfigLang
