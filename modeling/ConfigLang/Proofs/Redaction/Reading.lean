import ConfigLang.Proofs.Redaction.Basic
/-! Reading does not see spans. A draft whose spans are moved takes the moved tokens as the other
draft takes its own, and becomes what the other becomes, with its spans moved. In particular this
is so if the spans are forgotten, so two texts with the same tokens are read alike, wherever the
tokens stand in them. -/
namespace ConfigLang.Redaction

open Draft

section maps

variable (redaction : Redaction)

/-- The token at another place. How a newline is written belongs to its place too. -/
def token (token : Token) : Token :=
  ⟨token.kind, if token.kind = .newline then "" else token.text, redaction.span token.span⟩

def openEntry : Entry → Entry
  | .tagged key template start =>
    .tagged (redaction.key key) (template.map redaction.span) (redaction.span start)
  | .untagged start => .untagged (redaction.span start)

def openKey (key : OpenKey) : OpenKey :=
  ⟨redaction.span key.bracket, key.template.map redaction.span, redaction.keyLines key.lines⟩

def place : LinePlace → LinePlace
  | .item => .item
  | .key key => .key (redaction.openKey key)
  | .value entry lines => .value (redaction.openEntry entry) (lines.map redaction.line)

def reference (reference : OpenReference) : OpenReference :=
  ⟨redaction.place reference.place, reference.elements.map redaction.element,
    redaction.span reference.brackets, reference.components⟩

def openComment (comment : OpenComment) : OpenComment :=
  ⟨comment.key.map redaction.openKey, redaction.span comment.span, comment.text⟩

def openInherit (inherit : OpenInherit) : OpenInherit :=
  ⟨redaction.span inherit.directive, inherit.components, inherit.span.map redaction.span⟩

def awaiting : Awaiting → Awaiting
  | .item => .item
  | .commentEnd comment => .commentEnd (redaction.openComment comment)
  | .templateName inherit => .templateName (redaction.openInherit inherit)
  | .inheritEnd inherit => .inheritEnd (redaction.openInherit inherit)
  | .templateKey mark => .templateKey (redaction.span mark)
  | .key bracket template => .key (redaction.span bracket) (template.map redaction.span)
  | .keyEnd text bracket template =>
    .keyEnd text (redaction.span bracket) (template.map redaction.span)
  | .keyLine key => .keyLine (redaction.openKey key)
  | .value entry afterMultilineKey => .value (redaction.openEntry entry) afterMultilineKey
  | .valueBelow entry => .valueBelow (redaction.openEntry entry)
  | .valueEnd entry value => .valueEnd (redaction.openEntry entry) (redaction.node value)
  | .blockStart => .blockStart
  | .stringPiece place elements =>
    .stringPiece (redaction.place place) (elements.map redaction.element)
  | .stringLine entry lines => .stringLine (redaction.openEntry entry) (lines.map redaction.line)
  | .component reference => .component (redaction.reference reference)
  | .separator reference => .separator (redaction.reference reference)
  | .spreadClose reference => .spreadClose (redaction.reference reference)
  | .spreadEnd path => .spreadEnd (redaction.path path)

def openBlock (block : OpenBlock) : OpenBlock :=
  ⟨redaction.openEntry block.entry, redaction.span block.brace, redaction.items block.before⟩

def draft (draft : Draft) : Draft :=
  ⟨draft.blocks.map redaction.openBlock, redaction.items draft.items,
    redaction.awaiting draft.awaiting⟩

end maps

/-- Nothing is left out, and what two spans are joined to is moved along with them. -/
structure Rigid (redaction : Redaction) : Prop where
  all : redaction.keepsTrivia = true
  through (a b : Span) :
    redaction.span (a.through b) = (redaction.span a).through (redaction.span b)

theorem rigid_unplaced : unplaced.Rigid := ⟨rfl, fun _ _ => rfl⟩

def Filled : Awaiting → Prop
  | .stringPiece _ elements => elements ≠ []
  | .stringLine _ lines => lines ≠ []
  | _ => True

/-- The span of a line without pieces, or of a value without lines, stays as it is, unless there is
none to end. -/
def Carries (redaction : Redaction) (awaiting : Awaiting) : Prop :=
  redaction.span default = default ∨ Filled awaiting

section rigid

variable {redaction : Redaction} {limit : Nat} {draft : Draft} {token : Token}

theorem items_reverse (rigid : redaction.Rigid) (items : List Item) :
    (redaction.items items).reverse = redaction.items items.reverse := by
  rw [items_eq_map rigid.all, items_eq_map rigid.all, List.map_reverse]

theorem keyLines_reverse (rigid : redaction.Rigid) (lines : List KeyLine) :
    (redaction.keyLines lines).reverse = redaction.keyLines lines.reverse := by
  rw [keyLines_eq_map rigid.all, keyLines_eq_map rigid.all, List.map_reverse]

theorem draft_add (rigid : redaction.Rigid) (draft : Draft) (item : Item) :
    (redaction.draft draft).add (redaction.item item) = redaction.draft (draft.add item) := by
  simp [Draft.add, Redaction.draft, items_eq_map rigid.all, Redaction.awaiting]

theorem expected_awaiting (redaction : Redaction) (awaiting : Awaiting) :
    (redaction.awaiting awaiting).expected = awaiting.expected := by
  cases awaiting with
  | valueEnd entry value => cases value <;> rfl
  | _ => rfl

theorem span_element (element : StringElement) :
    (redaction.element element).span = redaction.span element.span := by
  cases element <;> rfl

theorem span_node (node : ValueNode) :
    (redaction.node node).span = redaction.span node.span := by
  cases node <;> simp [Redaction.node, ValueNode.span]

theorem stringLine_elements (rigid : redaction.Rigid) {elements : List StringElement}
    (carries : redaction.span default = default ∨ elements ≠ []) :
    Draft.stringLine (elements.map redaction.element) =
      redaction.line (Draft.stringLine elements) := by
  simp only [Draft.stringLine, Redaction.line, ← List.map_reverse, List.head?_map]
  refine congrArg (StringLine.mk _) ?_
  cases elements with
  | nil => exact (carries.resolve_right fun filled => filled rfl).symm
  | cons last rest =>
    cases front : (last :: rest).reverse.head? with
    | none => simp at front
    | some first =>
      simp only [Option.map_some, List.head?_cons, span_element]
      exact (rigid.through first.span last.span).symm

theorem stringValue_lines (rigid : redaction.Rigid) {lines : List StringLine}
    (carries : redaction.span default = default ∨ lines ≠ []) :
    Draft.stringValue (lines.map redaction.line) = redaction.node (Draft.stringValue lines) := by
  simp only [Draft.stringValue, Redaction.node, ← List.map_reverse, List.getLast?_map,
    List.head?_map]
  refine congrArg (ValueNode.strings _) ?_
  cases lines with
  | nil => exact (carries.resolve_right fun filled => filled rfl).symm
  | cons last rest =>
    cases front : (last :: rest).getLast? with
    | none => simp at front
    | some first => exact (rigid.through first.span last.span).symm

theorem item_openEntry (rigid : redaction.Rigid) (entry : Entry) (value : ValueNode) :
    (redaction.openEntry entry).item (redaction.node value) =
      redaction.item (entry.item value) := by
  cases entry with
  | tagged key template start =>
    simp only [Redaction.openEntry, Entry.item, Redaction.item, span_node, rigid.through]
  | untagged start =>
    simp only [Redaction.openEntry, Entry.item, Redaction.item, span_node, rigid.through]

theorem start_entry (template : Option Span) (bracket : Span) :
    (template.map redaction.span).getD (redaction.span bracket) =
      redaction.span (template.getD bracket) := by
  cases template <;> rfl

theorem entry_openKey (rigid : redaction.Rigid) (key : OpenKey) (close : Span) :
    (redaction.openKey key).entry (redaction.span close) =
      redaction.openEntry (key.entry close) := by
  simp only [OpenKey.entry, Redaction.openKey, Redaction.openEntry, Redaction.key,
    keyLines_reverse rigid, start_entry, rigid.through]

theorem entry_simpleKey (rigid : redaction.Rigid) (text : String) (bracket close : Span)
    (template : Option Span) :
    Entry.tagged (.simple text ((redaction.span bracket).through (redaction.span close)))
        (template.map redaction.span)
        ((template.map redaction.span).getD (redaction.span bracket)) =
      redaction.openEntry
        (.tagged (.simple text (bracket.through close)) template (template.getD bracket)) := by
  simp only [Redaction.openEntry, Redaction.key, start_entry, rigid.through]

theorem openKey_cons (rigid : redaction.Rigid) (key : OpenKey) (line : KeyLine) :
    redaction.openKey { key with lines := line :: key.lines } =
      { redaction.openKey key with
        lines := redaction.keyLine line :: (redaction.openKey key).lines } := by
  simp [Redaction.openKey, keyLines_eq_map rigid.all]

theorem item_openInherit (rigid : redaction.Rigid) (inherit : OpenInherit) :
    (redaction.openInherit inherit).item = redaction.item inherit.item := by
  obtain ⟨directive, components, span⟩ := inherit
  cases span <;>
    simp [Redaction.openInherit, OpenInherit.item, Redaction.item, Redaction.path, rigid.through]

theorem endLine?_draft (rigid : redaction.Rigid) (carries : redaction.Carries draft.awaiting) :
    (redaction.draft draft).endLine? = draft.endLine?.map redaction.draft := by
  obtain ⟨blocks, items, awaiting⟩ := draft
  have added := draft_add rigid ⟨blocks, items, awaiting⟩
  cases awaiting with
  | commentEnd comment =>
    obtain ⟨key, span, text⟩ := comment
    cases key with
    | none => exact congrArg some (added (.comment (OpenComment.comment ⟨none, span, text⟩)))
    | some key =>
      have key := openKey_cons rigid key
        (.comment (OpenComment.comment ⟨some key, span, text⟩))
      exact congrArg (fun key => some ((redaction.draft _).await (.keyLine key))) key.symm
  | inheritEnd inherit =>
    have added := added inherit.item
    rw [← item_openInherit rigid] at added
    exact congrArg some added
  | valueEnd entry value =>
    have added := added (entry.item value)
    rw [← item_openEntry rigid] at added
    exact congrArg some added
  | stringPiece place elements =>
    have line := stringLine_elements rigid carries
    cases place with
    | item =>
      have added := added (.strings (Draft.stringLine elements))
      rw [Redaction.item, ← line] at added
      exact congrArg some added
    | key key =>
      have key := openKey_cons rigid key (.strings (Draft.stringLine elements))
      rw [Redaction.keyLine, ← line] at key
      exact congrArg (fun key => some ((redaction.draft _).await (.keyLine key))) key.symm
    | value entry lines =>
      exact congrArg (fun line => some ((redaction.draft _).await
        (.stringLine (redaction.openEntry entry) (line :: lines.map redaction.line)))) line
  | spreadEnd path => exact congrArg some (added (.spread path))
  | _ => rfl

theorem endValue_draft (rigid : redaction.Rigid) (carries : redaction.Carries draft.awaiting) :
    (redaction.draft draft).endValue = redaction.draft draft.endValue := by
  obtain ⟨blocks, items, awaiting⟩ := draft
  cases awaiting with
  | stringLine entry lines =>
    have added := draft_add rigid ⟨blocks, items, .stringLine entry lines⟩
      (entry.item (Draft.stringValue lines))
    rw [← item_openEntry rigid, ← stringValue_lines rigid carries] at added
    exact added
  | _ => rfl

abbrev MirrorsDraft (redaction : Redaction) (x y : Except Error Draft) : Prop :=
  Mirrors redaction.span (fun next next' => next' = redaction.draft next) x y

theorem mirrors_await (draft : Draft) (awaiting : Awaiting) :
    redaction.MirrorsDraft (.ok (draft.await awaiting))
      (.ok ((redaction.draft draft).await (redaction.awaiting awaiting))) :=
  (rfl : _ = _)

theorem describe_token (redaction : Redaction) (token : Token) :
    (redaction.token token).describe = token.describe := by
  obtain ⟨kind, text, span⟩ := token
  cases kind <;> rfl

theorem mirrors_unexpected (redaction : Redaction) (token : Token) (expected : String) :
    redaction.MirrorsDraft (.error (unexpected token expected))
      (.error (unexpected (redaction.token token) expected)) := by
  have found := describe_token redaction token
  exact congrArg (Error.unexpectedToken · expected (redaction.span token.span)) found

theorem mirrors_literalText (literal : token.kind = .stringLiteral) :
    Mirrors redaction.span Eq (literalText token) (literalText (redaction.token token)) := by
  have text : (redaction.token token).text = token.text := if_neg (by simp [literal])
  unfold literalText
  rw [text]
  cases Json.readLiteral token.text with
  | error fault => exact rfl
  | ok text => exact (rfl : text = text)

theorem mirrors_componentText? (token : Token) :
    Mirrors redaction.span Eq (componentText? token)
      (componentText? (redaction.token token)) := by
  obtain ⟨kind, text, span⟩ := token
  cases kind with
  | identifier => exact (rfl : some text = some text)
  | stringLiteral => exact (mirrors_literalText rfl).map_eq some
  | _ => exact (rfl : (none : Option String) = none)

theorem mirrors_pushPiece? (draft : Draft) (place : LinePlace) (elements : List StringElement)
    (token : Token) :
    Mirrors redaction.span (fun piece piece' => piece' = piece.map redaction.draft)
      (draft.pushPiece? place elements token)
      ((redaction.draft draft).pushPiece? (redaction.place place)
        (elements.map redaction.element) (redaction.token token)) := by
  obtain ⟨kind, text, span⟩ := token
  cases kind with
  | stringLiteral => exact (mirrors_literalText rfl).bind_eq fun text => (rfl : _ = _)
  | _ => exact (rfl : _ = _)

theorem mirrors_pieceOr {other other' : Except Error Draft} (draft : Draft) (place : LinePlace)
    (elements : List StringElement) (token : Token)
    (others : redaction.MirrorsDraft other other') :
    redaction.MirrorsDraft
      (do
        match ← draft.pushPiece? place elements token with
        | some next => return next
        | none => other)
      (do
        match ← (redaction.draft draft).pushPiece? (redaction.place place)
            (elements.map redaction.element) (redaction.token token) with
        | some next => return next
        | none => other') := by
  refine (mirrors_pushPiece? draft place elements token).bind fun piece piece' same => ?_
  subst same
  cases piece with
  | some next => exact (rfl : _ = _)
  | none => exact others

theorem mirrors_componentOr {other other' : Except Error Draft} (token : Token)
    {pass pass' : String → Draft} (passes : ∀ name, pass' name = redaction.draft (pass name))
    (others : redaction.MirrorsDraft other other') :
    redaction.MirrorsDraft
      (do
        match ← componentText? token with
        | some name => return pass name
        | none => other)
      (do
        match ← componentText? (redaction.token token) with
        | some name => return pass' name
        | none => other') := by
  refine (mirrors_componentText? token).bind_eq fun component => ?_
  cases component with
  | some name => exact passes name
  | none => exact others

theorem mirrors_openBlock (limit : Nat) (draft : Draft) (entry : Entry) (token : Token) :
    redaction.MirrorsDraft (draft.openBlock limit entry token)
      ((redaction.draft draft).openBlock limit (redaction.openEntry entry)
        (redaction.token token)) := by
  have blocks : (redaction.draft draft).blocks.length = draft.blocks.length := by
    simp [Redaction.draft]
  unfold Draft.openBlock
  rw [blocks]
  split
  · exact (rfl : _ = _)
  · have opened : redaction.draft
          ⟨⟨entry, token.span, draft.items⟩ :: draft.blocks, [], .blockStart⟩ =
        ⟨⟨redaction.openEntry entry, redaction.span token.span, redaction.items draft.items⟩ ::
          draft.blocks.map redaction.openBlock, [], .blockStart⟩ := by
      simp [Redaction.draft, Redaction.openBlock, Redaction.items, Redaction.awaiting]
    exact opened.symm

theorem mirrors_pushValueBelow (redaction : Redaction) (limit : Nat) (draft : Draft)
    (entry : Entry) (token : Token) :
    redaction.MirrorsDraft (draft.pushValueBelow limit entry token)
      ((redaction.draft draft).pushValueBelow limit (redaction.openEntry entry)
        (redaction.token token)) := by
  have kind : (redaction.token token).kind = token.kind := rfl
  unfold Draft.pushValueBelow
  rw [kind]
  split
  · exact mirrors_openBlock limit draft entry token
  · exact mirrors_pieceOr draft (.value entry []) [] token (mirrors_unexpected redaction token _)

theorem mirrors_pushItem (rigid : redaction.Rigid) (draft : Draft) (token : Token) :
    redaction.MirrorsDraft (draft.pushItem token)
      ((redaction.draft draft).pushItem (redaction.token token)) := by
  have refuse := mirrors_unexpected redaction token Awaiting.item.expected
  have piece := mirrors_pieceOr draft .item [] token refuse
  obtain ⟨kind, text, span⟩ := token
  cases kind with
  | newline =>
    have added := draft_add rigid draft (.blank span)
    rw [Redaction.item] at added
    exact added
  | hash => exact mirrors_await draft (.commentEnd ⟨none, span, []⟩)
  | openSquare => exact mirrors_await draft (.key span none)
  | minus => exact mirrors_await draft (.value (.untagged span) false)
  | directive =>
    have same : (redaction.token ⟨.directive, text, span⟩).text = text := rfl
    simp only [Draft.pushItem, Redaction.token, reduceCtorEq, if_false]
    split
    · exact mirrors_await draft (.templateName ⟨span, [], none⟩)
    · split
      · exact mirrors_await draft (.templateKey span)
      · exact (rfl : _ = _)
  | closeCurly =>
    obtain ⟨blocks, items, awaiting⟩ := draft
    cases blocks with
    | nil => exact mirrors_unexpected redaction _ _
    | cons block blocks =>
      have value : redaction.node (.block items.reverse (block.brace.through span)) =
          .block (redaction.items items).reverse
            ((redaction.span block.brace).through (redaction.span span)) := by
        rw [items_reverse rigid, Redaction.node, rigid.through]
      exact congrArg (fun value => Draft.mk (blocks.map redaction.openBlock)
        (redaction.items block.before) (.valueEnd (redaction.openEntry block.entry) value))
        value.symm
  | _ => exact piece

theorem path_reference (rigid : redaction.Rigid) (reference : OpenReference) (close : Span) :
    (redaction.reference reference).path (redaction.span close) =
      redaction.path (reference.path close) := by
  simp only [Redaction.reference, OpenReference.path, Redaction.path, rigid.through]

theorem mirrors_closeSpread (rigid : redaction.Rigid) (draft : Draft) (reference : OpenReference)
    (close : Span) :
    redaction.MirrorsDraft (draft.closeSpread reference close)
      ((redaction.draft draft).closeSpread (redaction.reference reference)
        (redaction.span close)) := by
  have path := path_reference rigid reference close
  obtain ⟨place, elements, brackets, components⟩ := reference
  unfold Draft.closeSpread
  rw [path]
  cases place with
  | item =>
    cases elements with
    | nil => exact mirrors_await draft (.spreadEnd ⟨components.reverse, brackets.through close⟩)
    | cons element elements => exact (rfl : _ = _)
  | _ => exact (rfl : _ = _)

theorem closePlaceholder_draft (rigid : redaction.Rigid) (draft : Draft)
    (reference : OpenReference) (close : Span) :
    (redaction.draft draft).closePlaceholder (redaction.reference reference)
        (redaction.span close) =
      redaction.draft (draft.closePlaceholder reference close) := by
  rw [Draft.closePlaceholder, path_reference rigid]
  rfl

theorem mirrors_pushInside (rigid : redaction.Rigid) (limit : Nat)
    (carries : redaction.Carries draft.awaiting) (token : Token) :
    redaction.MirrorsDraft (draft.pushInside limit token)
      ((redaction.draft draft).pushInside limit (redaction.token token)) := by
  have refuse : redaction.MirrorsDraft (.error (unexpected token draft.awaiting.expected))
      (.error (unexpected (redaction.token token)
        (redaction.draft draft).awaiting.expected)) := by
    have expected : (redaction.draft draft).awaiting.expected = draft.awaiting.expected :=
      expected_awaiting redaction draft.awaiting
    rw [expected]
    exact mirrors_unexpected redaction token draft.awaiting.expected
  have moves (next : Awaiting) : redaction.MirrorsDraft (.ok (draft.await next))
      (.ok ((redaction.draft draft).await (redaction.awaiting next))) := mirrors_await draft next
  have joins := rigid.through
  obtain ⟨blocks, items, awaiting⟩ := draft
  obtain ⟨kind, text, span⟩ := token
  cases awaiting with
  | item => exact mirrors_pushItem rigid _ _
  | stringPiece place elements => exact mirrors_pieceOr _ place elements _ refuse
  | valueBelow entry => exact mirrors_pushValueBelow redaction limit _ entry _
  | valueEnd entry value => exact refuse
  | spreadEnd path => exact (rfl : _ = _)
  | stringLine entry lines =>
    refine mirrors_pieceOr _ (.value entry lines) [] _ ?_
    rw [endValue_draft rigid carries]
    exact mirrors_pushItem rigid _ _
  | templateName inherit =>
    refine mirrors_componentOr _ (fun name => ?_) refuse
    obtain ⟨directive, components, before⟩ := inherit
    cases before with
    | none => rfl
    | some before =>
      exact congrArg (fun span => (redaction.draft _).await (.inheritEnd
        ⟨redaction.span directive, name :: components, some span⟩)) (joins before span).symm
  | commentEnd comment =>
    obtain ⟨key, before, front⟩ := comment
    have more := congrArg (fun span => Draft.mk (blocks.map redaction.openBlock)
      (redaction.items items) (.commentEnd ⟨key.map redaction.openKey, span, front ++ text.toList⟩))
      (joins before span).symm
    cases kind with
    | line => exact more
    | openCurly => exact more
    | _ => exact refuse
  | inheritEnd inherit =>
    cases kind with
    | dot => exact moves (.templateName inherit)
    | _ => exact refuse
  | templateKey mark =>
    cases kind with
    | openSquare => exact moves (.key span (some mark))
    | _ => exact refuse
  | blockStart =>
    cases kind with
    | newline => exact moves .item
    | _ => exact refuse
  | key bracket template =>
    cases kind with
    | keyText => exact moves (.keyEnd text bracket template)
    | newline => exact moves (.keyLine ⟨bracket, template, []⟩)
    | closeSquare =>
      have entry := entry_simpleKey rigid "" bracket span template
      exact congrArg (fun entry => (redaction.draft _).await (.value entry false)) entry
    | _ => exact refuse
  | keyEnd keyText bracket template =>
    cases kind with
    | closeSquare =>
      have entry := entry_simpleKey rigid (Draft.keyText keyText) bracket span template
      exact congrArg (fun entry => (redaction.draft _).await (.value entry false)) entry
    | _ => exact refuse
  | keyLine key =>
    cases kind with
    | newline => exact (rfl : _ = _)
    | hash => exact moves (.commentEnd ⟨some key, span, []⟩)
    | closeSquare =>
      exact congrArg (fun entry => (redaction.draft _).await (.value entry true))
        (entry_openKey rigid key span)
    | _ => exact mirrors_pieceOr _ (.key key) [] _ refuse
  | value entry afterMultilineKey =>
    have below := mirrors_pushValueBelow redaction limit
      ⟨blocks, items, .value entry afterMultilineKey⟩ entry ⟨kind, text, span⟩
    cases kind with
    | line => exact moves (.valueEnd entry (.text (String.ofList (Text.trim text.toList)) span))
    | openCurly => exact mirrors_openBlock limit _ entry _
    | newline => exact moves (.valueBelow entry)
    | _ =>
      cases afterMultilineKey with
      | true => exact below
      | false => exact refuse
  | component reference =>
    cases kind with
    | star => exact moves (.spreadClose reference)
    | _ => exact mirrors_componentOr _ (fun name => rfl) refuse
  | separator reference =>
    cases kind with
    | dot => exact moves (.component reference)
    | closeAngled => exact closePlaceholder_draft rigid _ reference span
    | _ => exact refuse
  | spreadClose reference =>
    cases kind with
    | closeAngled => exact mirrors_closeSpread rigid _ reference span
    | _ => exact refuse

theorem mirrors_push (rigid : redaction.Rigid) (limit : Nat)
    (carries : redaction.Carries draft.awaiting) (token : Token) :
    redaction.MirrorsDraft (draft.push limit token)
      ((redaction.draft draft).push limit (redaction.token token)) := by
  have inside := mirrors_pushInside rigid limit carries token
  have ended := endLine?_draft rigid carries
  obtain ⟨kind, text, span⟩ := token
  cases kind with
  | whitespace =>
    obtain ⟨blocks, items, awaiting⟩ := draft
    cases awaiting <;> exact (rfl : _ = _)
  | newline =>
    simp only [Draft.push, Redaction.token, ended]
    cases draft.endLine? with
    | none => exact inside
    | some next => exact (rfl : _ = _)
  | _ => exact inside

theorem filled_of_endLine? {next : Draft} (ended : draft.endLine? = some next) :
    Filled next.awaiting := by
  obtain ⟨blocks, items, awaiting⟩ := draft
  cases awaiting with
  | commentEnd comment =>
    obtain ⟨key, span, text⟩ := comment
    cases key <;> cases ended <;> trivial
  | stringPiece place elements =>
    cases place with
    | value entry lines =>
      cases ended
      exact List.cons_ne_nil _ _
    | _ => cases ended; trivial
  | inheritEnd | valueEnd | spreadEnd => cases ended; trivial
  | _ => cases ended

theorem mirrors_finish (rigid : redaction.Rigid) (carries : redaction.Carries draft.awaiting)
    (stop : Span) :
    Mirrors redaction.span (fun items items' => items' = redaction.items items)
      (draft.finish stop) ((redaction.draft draft).finish (redaction.span stop)) := by
  have carries' : redaction.Carries (draft.endLine?.getD draft).awaiting := by
    cases ended : draft.endLine? with
    | none => exact carries
    | some next => exact .inr (filled_of_endLine? ended)
  have last : (((redaction.draft draft).endLine?.getD (redaction.draft draft)).endValue) =
      redaction.draft ((draft.endLine?.getD draft).endValue) := by
    rw [endLine?_draft rigid carries, ← endValue_draft rigid carries']
    cases draft.endLine? <;> rfl
  simp only [Draft.finish, last]
  obtain ⟨blocks, items, awaiting⟩ := (draft.endLine?.getD draft).endValue
  have expected := expected_awaiting redaction awaiting
  cases awaiting with
  | item =>
    cases blocks with
    | nil => exact items_reverse rigid items
    | cons block blocks => exact rfl
  | _ => exact congrArg (Error.unexpectedEnd · (redaction.span stop)) expected

end rigid

section twin

/-! Drafts that differ in spans alone still do behind tokens that differ in spans alone. -/

variable {limit : Nat} {draft draft' : Draft} {token token' : Token}

theorem carries_unplaced (awaiting : Awaiting) : unplaced.Carries awaiting := .inl rfl

theorem push_alike (limit : Nat) (drafts : unplaced.draft draft = unplaced.draft draft')
    (tokens : unplaced.token token = unplaced.token token') :
    (draft.push limit token).toOption.map unplaced.draft =
      (draft'.push limit token').toOption.map unplaced.draft := by
  have here := (mirrors_push rigid_unplaced limit (carries_unplaced draft.awaiting) token)
  have there := (mirrors_push rigid_unplaced limit (carries_unplaced draft'.awaiting) token')
  rw [← here.toOption_map, ← there.toOption_map, drafts, tokens]

theorem push_of_alike {next : Draft} (drafts : unplaced.draft draft = unplaced.draft draft')
    (tokens : unplaced.token token = unplaced.token token')
    (taken : draft.push limit token = .ok next) :
    ∃ next', draft'.push limit token' = .ok next' ∧ unplaced.draft next = unplaced.draft next' := by
  have alike := push_alike limit drafts tokens
  rw [taken] at alike
  cases taken' : draft'.push limit token' with
  | error fault =>
    rw [taken'] at alike
    cases alike
  | ok next' =>
    rw [taken'] at alike
    exact ⟨next', rfl, Option.some.inj alike⟩

theorem finish_alike (drafts : unplaced.draft draft = unplaced.draft draft') (stop stop' : Span) :
    (draft.finish stop).toOption.map unplaced.items =
      (draft'.finish stop').toOption.map unplaced.items := by
  have here := mirrors_finish rigid_unplaced (carries_unplaced draft.awaiting) stop
  have there := mirrors_finish rigid_unplaced (carries_unplaced draft'.awaiting) stop'
  have stops : unplaced.span stop = unplaced.span stop' := rfl
  rw [← here.toOption_map, ← there.toOption_map, drafts, stops]

end twin

end ConfigLang.Redaction
