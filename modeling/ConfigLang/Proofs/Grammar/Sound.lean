import Mathlib
import ConfigLang.Document
import ConfigLang.Proofs.Grammar.Comment
import ConfigLang.Proofs.Grammar.Owed
/-! What is read is a document of the grammar. From the last token back to the first: where a
draft takes a token and what it is owed behind it comes, what it was owed before has come. -/
namespace ConfigLang

namespace Draft

open Grammar

theorem Names.ne_whitespace {token : Token} {name : String} (names : Names token name) :
    token.kind ≠ .whitespace := by
  cases names with
  | identifier kind | literal kind => simp [kind]

theorem stringLine_eq (elements : List StringElement) :
    stringLine elements =
      ⟨elements.reverse, spanOf (elements.reverse.map StringElement.span)⟩ := by
  unfold stringLine spanOf
  rw [List.getLast?_map, List.getLast?_reverse, List.head?_map]
  dsimp only
  cases elements.reverse.head? <;> cases elements.head? <;> rfl

theorem stringValue_eq (lines : List StringLine) : stringValue lines = valueOf lines.reverse := by
  unfold stringValue valueOf spanOf
  rw [List.getLast?_map, List.getLast?_reverse, List.head?_map, List.head?_reverse]
  cases lines.getLast? <;> cases lines.head? <;> rfl

theorem passAll_eq (directive span : Span) (before : List String)
    (components : List (String × Span)) :
    OpenInherit.passAll ⟨directive, before, some span⟩ components =
      ⟨directive, (components.map Prod.fst).reverse ++ before,
        some (components.foldl (fun span component => span.through component.2) span)⟩ := by
  induction components generalizing before span with
  | nil => rfl
  | cons component components ih =>
    refine (ih (span.through component.2) (component.1 :: before)).trans ?_
    simp

theorem item_passAll (directive : Span) {components : List (String × Span)} (nonempty : components ≠ []) :
    (OpenInherit.passAll ⟨directive, [], none⟩ components).item =
      .inherit (pathOf components) (directive.through (pathOf components).span) := by
  cases components with
  | nil => exact absurd rfl nonempty
  | cons component components =>
    have passed : OpenInherit.passAll ⟨directive, [], none⟩ (component :: components) =
        OpenInherit.passAll ⟨directive, [component.1], some component.2⟩ components := rfl
    rw [passed, passAll_eq]
    simp [OpenInherit.item, pathOf]

theorem filter_cons_of_kind {token : Token} (outside : token.kind ≠ .whitespace)
    (tokens : List Token) :
    (token :: tokens).filter Token.isSignificant = token :: tokens.filter Token.isSignificant :=
  List.filter_cons_of_pos (by simpa [Token.isSignificant] using outside)

theorem filter_cons_of_blank {token : Token} (kind : token.kind = .whitespace)
    (tokens : List Token) :
    (token :: tokens).filter Token.isSignificant = tokens.filter Token.isSignificant :=
  List.filter_cons_of_neg (by simp [Token.isSignificant, kind])

theorem owes_eq {readings : Readings} {source : List Char} {next : Item → List Token → Prop}
    {here : List Token → Prop} {awaiting : Awaiting}
    (outside : ∀ comment, awaiting ≠ .commentEnd comment) (tokens : List Token) :
    Owes readings source next here awaiting tokens =
      OwesSignificant readings source next here awaiting (tokens.filter Token.isSignificant) := by
  unfold Owes
  split
  · next comment => exact absurd rfl (outside comment)
  · rfl

theorem ne_nil_of_isPath {ts rest : List Token} {components : List (String × Span)}
    (path : IsPath ts components rest) : components ≠ [] := by
  cases path <;> exact nofun

theorem isLineEnd_filter {orEnd : Bool} {tokens rest : List Token}
    (ended : IsLineEnd orEnd tokens rest) :
    IsLineEnd orEnd (tokens.filter Token.isSignificant) (rest.filter Token.isSignificant) := by
  cases ended with
  | newline kind =>
    rw [filter_cons_of_kind (by simp [kind])]
    exact .newline kind
  | endOfInput allowed => exact .endOfInput allowed

section owed

variable {readings : Readings} {source : List Char} {next : Item → List Token → Prop}
  {here : List Token → Prop} {token : Token} {ts : List Token}

theorem owes_of_starts {place : LinePlace} {elements : List StringElement} {after : Awaiting}
    (starts : StartsPiece place elements token after)
    (owed : OwesSignificant readings source next here after ts) :
    (∃ pieces rest rest', ArePieces (token :: ts) pieces rest ∧ pieces ≠ [] ∧
      IsLineEnd true rest rest' ∧ OwesBehindLine readings source next
        ⟨elements.reverse ++ pieces, spanOf ((elements.reverse ++ pieces).map StringElement.span)⟩
        place rest') ∨
      OwesLoneSpread readings next place elements (token :: ts) := by
  have joined (piece : StringElement) (pieces : List StringElement) :
      (piece :: elements).reverse ++ pieces = elements.reverse ++ (piece :: pieces) := by simp
  cases starts with
  | literal kind read =>
    rcases owed with ⟨pieces, rest, rest', are, ended, behind⟩ | ⟨_, empty, _⟩
    · rw [joined] at behind
      exact .inl ⟨_, rest, rest', .cons (.literal kind (decodes_iff.2 read)) are, nofun, ended,
        behind⟩
    · cases empty
  | plus kind =>
    rcases owed with ⟨pieces, rest, rest', are, ended, behind⟩ | ⟨_, empty, _⟩
    · rw [joined] at behind
      exact .inl ⟨_, rest, rest', .cons (.plus kind) are, nofun, ended, behind⟩
    · cases empty
  | reference kind =>
    obtain ⟨components, isSpread, closing, rest, ended, behind⟩ := owed
    cases isSpread with
    | true =>
      obtain ⟨atItem, alone, spreadEnd⟩ := behind
      exact .inr ⟨atItem, alone, _, rest, isSpread_iff.2 ⟨_, _, _, _, rfl, kind, ended, rfl⟩,
        spreadEnd⟩
    | false =>
      obtain ⟨path, closingKind⟩ := isPath_of_endsReference ended
      obtain ⟨pieces, rest, rest', are, lineEnded, behind⟩ := behind
      rw [joined] at behind
      exact .inl ⟨_, rest, rest', .cons (.placeholder kind path closingKind) are, nofun, lineEnded,
        behind⟩

def Starts (readings : Readings) (source : List Char) (next : Item → List Token → Prop)
    (here : List Token → Prop) : Prop :=
  ∀ {item : Item} {ts rest : List Token}, IsItem readings source ts item rest →
    next item rest → here ts

theorem owes_of_begins {before after : Awaiting} {place : LinePlace}
    {elements : List StringElement} (starts : Starts readings source next here)
    (begins : Begins before place elements) (piece : StartsPiece place elements token after)
    (owed : OwesSignificant readings source next here after ts) :
    OwesSignificant readings source next here before (token :: ts) := by
  rcases owes_of_starts piece owed with ⟨pieces, rest, rest', are, nonempty, ended, behind⟩ | lone
  · cases begins with
    | item => exact starts (.strings (.pieces are nonempty ended)) behind
    | keyLine key =>
      obtain ⟨lines, closing, rest, others, closingKind, value⟩ := behind
      refine ⟨_, closing, rest, .strings (.pieces are nonempty ended) others, closingKind, ?_⟩
      simpa [OpenKey.push] using value
    | value entry =>
      obtain ⟨more, rest, others, following⟩ := behind
      exact ⟨_, rest, .sameLine (.strings (.cons (.pieces are nonempty ended) others) nofun),
        following⟩
    | valueBelow entry =>
      obtain ⟨more, rest, others, following⟩ := behind
      exact ⟨_, rest, .strings (.cons (.pieces are nonempty ended) others) nofun, following⟩
    | stringPiece place elements => exact .inl ⟨pieces, rest, rest', are, ended, behind⟩
    | stringLine entry lines =>
      obtain ⟨more, rest, others, following⟩ := behind
      refine ⟨_, rest, .cons (.pieces are nonempty ended) others, ?_⟩
      simpa using following
  · cases begins with
    | item =>
      obtain ⟨_, _, path, rest, spread, rest', ended, following⟩ := lone
      exact starts (.spread spread ended) following
    | stringPiece place elements => exact .inr lone
    | _ => cases lone.1

theorem owes_of_significant {tokens : List Token} {awaiting : Awaiting}
    (kind : token.kind ≠ .whitespace) (outside : ∀ comment, awaiting ≠ .commentEnd comment)
    (owed : OwesSignificant readings source next here awaiting
      (token :: tokens.filter Token.isSignificant)) :
    Owes readings source next here awaiting (token :: tokens) := by
  rw [owes_eq outside, filter_cons_of_kind kind]
  exact owed

def Located (source : List Char) (token : Token) (tokens : List Token) : Prop :=
  ∀ body rest, tokens = body ++ rest →
    Trims (commentSource source token (body.filter Token.isSignificant)) (Text.trim (textOf body))

theorem isComment_of_body {tokens body rest rest' : List Token} (inKey : Bool)
    (kind : token.kind = .hash) (located : Located source token tokens)
    (split : tokens = body ++ rest)
    (texts : ∀ token ∈ body,
      token.kind = .whitespace ∨ token.kind = .line ∨ token.kind = .openCurly)
    (ended : IsLineEnd true rest rest') :
    IsComment accepted source inKey (token :: tokens.filter Token.isSignificant)
      ⟨String.ofList (Text.trim (textOf body)),
        commentSpan token (body.filter Token.isSignificant)⟩
      (rest'.filter Token.isSignificant) := by
  have trims := located body rest split
  rw [split, List.filter_append]
  refine .hash kind (fun token member => ?_) nofun trims (isLineEnd_filter ended)
  obtain ⟨there, significant⟩ := List.mem_filter.1 member
  refine (texts token there).resolve_left fun blank => ?_
  simp [Token.isSignificant, blank] at significant

theorem owes_of_moves {tokens : List Token} {before after : Awaiting}
    (starts : Starts accepted source next here) (located : Located source token tokens)
    (moves : Moves token before after) (owed : Owes accepted source next here after tokens) :
    Owes accepted source next here before (token :: tokens) := by
  cases moves with
  | blanks kind outside =>
    rw [owes_eq outside, filter_cons_of_blank kind]
    rwa [owes_eq outside] at owed
  | blanksInComment kind =>
    obtain ⟨body, rest, rest', rfl, texts, ended, behind⟩ := owed
    refine ⟨token :: body, rest, rest', rfl, List.forall_mem_cons.2 ⟨.inl kind, texts⟩, ended, ?_⟩
    rw [filter_cons_of_blank kind]
    simpa using behind
  | piece begins piece =>
    have kind : token.kind ≠ .whitespace := by
      rcases piece.kinds with kind | kind | kind <;> simp [kind]
    have outside : ∀ comment, before ≠ .commentEnd comment := by cases begins <;> exact nofun
    have outside' : ∀ comment, after ≠ .commentEnd comment := by cases piece <;> exact nofun
    rw [owes_eq outside'] at owed
    exact owes_of_significant kind outside (owes_of_begins starts begins piece owed)
  | comment kind =>
    obtain ⟨body, rest, rest', split, texts, ended, behind⟩ := owed
    have derived : IsComment accepted source false _ _ _ :=
      isComment_of_body false kind located split texts ended
    exact owes_of_significant (by simp [kind]) nofun (starts (.comment derived) behind)
  | keyComment kind =>
    obtain ⟨body, rest, rest', split, texts, ended, _, closing, rest'', are, closingKind, value⟩ :=
      owed
    have derived : IsComment accepted source true _ _ _ :=
      isComment_of_body true kind located split texts ended
    have lines : AreKeyLines accepted source _ _ _ := .comment derived are
    refine owes_of_significant (by simp [kind]) nofun ⟨_, closing, rest'', lines, closingKind, ?_⟩
    rw [OpenKey.push, List.reverse_cons, List.append_assoc, List.singleton_append] at value
    exact value
  | commentText kind =>
    obtain ⟨body, rest, rest', rfl, texts, ended, behind⟩ := owed
    refine ⟨token :: body, rest, rest', rfl, List.forall_mem_cons.2 ⟨.inr kind, texts⟩, ended, ?_⟩
    rw [filter_cons_of_kind (by rcases kind with kind | kind <;> simp [kind])]
    simpa using behind
  | keyCommentEnd kind =>
    refine ⟨[], token :: tokens, tokens, rfl, List.forall_mem_nil _, .newline kind, ?_⟩
    rw [textOf_nil, List.append_nil]
    exact owed
  | inherit kind name =>
    obtain ⟨components, rest, rest', path, ended, behind⟩ := owed
    rw [item_passAll _ (ne_nil_of_isPath path)] at behind
    exact owes_of_significant (by simp [kind]) nofun (starts (.inherit kind name path ended) behind)
  | template kind name =>
    obtain ⟨bracket, rest, split, bracketKind, key, rest', isKey, value, rest'', isValue,
      behind⟩ := owed
    refine owes_of_significant (by simp [kind]) nofun ?_
    rw [split]
    exact starts (.template kind name bracketKind isKey isValue) behind
  | tagged kind =>
    obtain ⟨key, rest, isKey, value, rest', isValue, behind⟩ := owed
    exact owes_of_significant (by simp [kind]) nofun (starts (.tagged kind isKey isValue) behind)
  | untagged kind =>
    obtain ⟨value, rest, isValue, behind⟩ := owed
    exact owes_of_significant (by simp [kind]) nofun (starts (.untagged kind isValue) behind)
  | templateName names =>
    have component := isComponent_iff.2 names
    refine owes_of_significant names.ne_whitespace nofun ?_
    rcases owed with ⟨rest, ended, behind⟩ | ⟨dot, rest, split, dotKind, components, rest', rest'',
      path, ended, behind⟩
    · exact ⟨[_], _, rest, .single component, ended, behind⟩
    · rw [split]
      exact ⟨_ :: components, rest', rest'', .dotted component dotKind path, ended, behind⟩
  | templateDot kind =>
    exact owes_of_significant (by simp [kind]) nofun (.inr ⟨token, _, rfl, kind, owed⟩)
  | templateKey kind =>
    exact owes_of_significant (by simp [kind]) nofun ⟨token, _, rfl, kind, owed⟩
  | keyText kind =>
    obtain ⟨closing, rest, split, closingKind, value⟩ := owed
    refine owes_of_significant (by simp [kind]) nofun ?_
    rw [split]
    have unescapes := unescapes_unescape token.text.toList
    exact ⟨_, rest, .simple kind unescapes (trims_iff.2 rfl) closingKind, value⟩
  | emptyKey kind =>
    exact owes_of_significant (by simp [kind]) nofun ⟨_, _, .empty kind, owed⟩
  | longKey kind =>
    obtain ⟨lines, closing, rest, are, closingKind, value⟩ := owed
    exact owes_of_significant (by simp [kind]) nofun
      ⟨_, rest, .multiline kind are closingKind, value⟩
  | keyEnd kind =>
    exact owes_of_significant (by simp [kind]) nofun ⟨token, _, rfl, kind, owed⟩
  | blankKeyLine kind =>
    obtain ⟨lines, closing, rest, are, closingKind, value⟩ := owed
    exact owes_of_significant (by simp [kind]) nofun
      ⟨lines, closing, rest, .blank rfl kind are, closingKind, value⟩
  | longKeyEnd kind =>
    refine owes_of_significant (by simp [kind]) nofun ⟨[], token, _, .nil, kind, ?_⟩
    rw [List.append_nil]
    exact owed
  | text kind =>
    obtain ⟨rest, ended, behind⟩ := owed
    exact owes_of_significant (by simp [kind]) nofun ⟨_, rest, .text kind (trims_iff.2 rfl) ended, behind⟩
  | nextLine kind =>
    obtain ⟨value, rest, derived, behind⟩ := owed
    exact owes_of_significant (by simp [kind]) nofun ⟨value, rest, .nextLine kind derived, behind⟩
  | blockStart kind =>
    exact owes_of_significant (by simp [kind]) nofun ⟨token, _, rfl, kind, owed⟩
  | keyLineEnd kind | valueLineEnd kind =>
    refine owes_of_significant (by simp [kind]) nofun
      (.inl ⟨[], _, _, .nil, .newline kind, ?_⟩)
    rw [List.append_nil, ← stringLine_eq]
    exact owed
  | star kind =>
    obtain ⟨closing, rest, split, closingKind, behind⟩ := owed
    refine owes_of_significant (by simp [kind]) nofun ?_
    rw [split]
    refine ⟨[], true, closing, rest, .star kind closingKind, ?_⟩
    rw [List.map_nil, List.append_nil]
    exact behind
  | component names =>
    have component := isComponent_iff.2 names
    refine owes_of_significant names.ne_whitespace nofun ?_
    rcases owed with ⟨closing, rest, split, closingKind, behind⟩ | ⟨dot, rest, split, dotKind,
      components, isSpread, closing, rest', ended, behind⟩
    · rw [split]
      refine ⟨[_], false, closing, rest, .name component closingKind, ?_⟩
      rw [OpenReference.path, List.reverse_cons] at behind
      exact behind
    · rw [split]
      refine ⟨_ :: components, isSpread, closing, rest', .dotted component dotKind ended, ?_⟩
      rw [List.reverse_cons, List.append_assoc, List.singleton_append] at behind
      exact behind
  | dot kind =>
    exact owes_of_significant (by simp [kind]) nofun (.inr ⟨token, _, rfl, kind, owed⟩)
  | placeholder kind =>
    rcases owed with owed | ⟨_, alone, _⟩
    · exact owes_of_significant (by simp [kind]) nofun (.inl ⟨token, _, rfl, kind, owed⟩)
    · cases alone
  | spread kind place alone =>
    exact owes_of_significant (by simp [kind]) nofun ⟨token, _, rfl, kind, place, alone, owed⟩

end owed

section blocks

variable {source : List Char} {whole : List Item}

def Closes (source : List Char) (whole : List Item) :
    List OpenBlock → List Item → List Token → Prop
  | [], items, ts => ∃ more, AreItems accepted source ts more [] ∧ whole = items.reverse ++ more
  | block :: blocks, items, ts =>
    ∃ more closing rest rest', AreItems accepted source ts more (closing :: rest) ∧
      closing.kind = .closeCurly ∧ IsLineEnd true rest rest' ∧
      Closes source whole blocks (block.entry.item
        (.block (items.reverse ++ more) (block.brace.through closing.span)) :: block.before) rest'

theorem starts_closes (blocks : List OpenBlock) (items : List Item) :
    Starts accepted source (fun item => Closes source whole blocks (item :: items))
      (Closes source whole blocks items) := by
  intro item ts rest derived owed
  cases blocks with
  | nil =>
    obtain ⟨more, are, same⟩ := owed
    exact ⟨item :: more, .cons derived are, by simpa using same⟩
  | cons block blocks =>
    obtain ⟨more, closing, rest, rest', are, kind, ended, outer⟩ := owed
    refine ⟨item :: more, closing, rest, rest', .cons derived are, kind, ended, ?_⟩
    simpa using outer

/-- The tokens to come complete the document from the draft on. -/
def Owed (source : List Char) (whole : List Item) (draft : Draft) (tokens : List Token) : Prop :=
  Owes accepted source (fun item => Closes source whole draft.blocks (item :: draft.items))
    (Closes source whole draft.blocks draft.items) draft.awaiting tokens

theorem owed_of_completes {blocks : List OpenBlock} {items : List Item} {awaiting : Awaiting}
    {item : Item} {tokens rest : List Token} (completes : Completes awaiting item)
    (ended : IsLineEnd true tokens rest)
    (owed : Owed source whole ⟨blocks, item :: items, .item⟩ rest) :
    Owed source whole ⟨blocks, items, awaiting⟩ tokens := by
  have significant := isLineEnd_filter ended
  cases completes with
  | comment span text =>
    refine ⟨[], tokens, rest, rfl, nofun, ended, ?_⟩
    rw [textOf_nil, List.append_nil]
    exact owed
  | inherit inherit => exact .inl ⟨_, significant, owed⟩
  | value entry value => exact ⟨_, significant, owed⟩
  | strings elements =>
    refine .inl ⟨[], _, _, .nil, significant, ?_⟩
    rw [List.append_nil, ← stringLine_eq]
    exact owed
  | spread path => exact ⟨_, significant, owed⟩

theorem owed_of_stringValue {blocks : List OpenBlock} {items : List Item} {entry : Entry}
    {lines : List StringLine} {tokens : List Token}
    (owed : Owed source whole ⟨blocks, entry.item (stringValue lines) :: items, .item⟩ tokens) :
    Owed source whole ⟨blocks, items, .stringLine entry lines⟩ tokens := by
  refine ⟨[], _, .nil, ?_⟩
  rw [List.append_nil, ← stringValue_eq]
  exact owed

theorem owed_of_takes {limit : Nat} {before after : Draft} {token : Token} {tokens : List Token}
    (located : Located source token tokens) (takes : Takes limit token before after)
    (owed : Owed source whole after tokens) : Owed source whole before (token :: tokens) := by
  induction takes with
  | move moves => exact owes_of_moves (starts_closes _ _) located moves owed
  | blank kind =>
    exact owes_of_significant (by simp [kind]) nofun (starts_closes _ _ (.blank kind) owed)
  | complete kind completes => exact owed_of_completes completes (.newline kind) owed
  | opening kind opens room =>
    obtain ⟨newline, rest, split, newlineKind, more, closing, rest', rest'', are, closingKind,
      ended, outer⟩ := owed
    have block : IsBlock accepted source _ _ _ := .braces kind newlineKind are closingKind ended
    rw [← split] at block
    cases opens with
    | value entry behindLines =>
      exact owes_of_significant (by simp [kind]) nofun ⟨_, rest'', .block block, outer⟩
    | valueBelow entry =>
      exact owes_of_significant (by simp [kind]) nofun ⟨_, rest'', .block block, outer⟩
  | closing kind =>
    obtain ⟨rest, ended, outer⟩ := owed
    refine owes_of_significant (by simp [kind]) nofun ⟨[], token, _, rest, .nil, kind, ended, ?_⟩
    rw [List.append_nil]
    exact outer
  | valueEnd outside ends taken ih => exact owed_of_stringValue (ih owed)

theorem owed_of_finish {draft : Draft} {stop : Span} (done : draft.finish stop = .ok whole) :
    Owed source whole draft [] := by
  obtain ⟨closed, finishes⟩ := finishes_of_finish done
  obtain ⟨blocks, items, awaiting⟩ := draft
  cases closed
  have ended : IsLineEnd true [] [] := .endOfInput rfl
  have read (items : List Item) : Owed source items.reverse ⟨[], items, .item⟩ [] :=
    ⟨[], .nil, (List.append_nil _).symm⟩
  cases finishes with
  | item => exact read items
  | complete completes => exact owed_of_completes completes ended (read _)
  | lines entry lines => exact owed_of_stringValue (read _)
  | lastLine entry lines elements =>
    refine .inl ⟨[], [], [], .nil, ended, ?_⟩
    rw [List.append_nil, ← stringLine_eq]
    exact owed_of_stringValue (read _)

theorem located_of_cut {file : FileId} {position : Position} {before text : List Char}
    {token : Token} {tokens : List Token} (cut : Cut file position text (token :: tokens))
    (behind : position.offset = Text.byteLength before) :
    Located (before ++ text) token tokens := by
  rintro body rest rfl
  exact trims_commentSource cut behind

theorem owed_of_pushAll {limit : Nat} {file : FileId} {tokens : List Token}
    {position : Position} (before : List Char) {text : List Char} {draft last : Draft} {stop : Span}
    (cut : Cut file position text tokens) (behind : position.offset = Text.byteLength before)
    (run : draft.pushAll limit tokens = .ok last) (done : last.finish stop = .ok whole) :
    Owed (before ++ text) whole draft tokens := by
  induction tokens generalizing position before text draft with
  | nil =>
    cases run
    exact owed_of_finish done
  | cons token tokens ih =>
    have located := located_of_cut cut behind
    rw [pushAll] at run
    obtain ⟨next, taken, run⟩ := except_bind_eq_ok.1 run
    cases cut with
    | token token span nonempty blank others =>
      have later := ih (before ++ token.text.toList) others
        (by rw [Text.byteLength_append, ← behind]; exact Position.offset_advance _ _) run
      rw [List.append_assoc] at later
      exact owed_of_takes located (takes_of_push taken) later

end blocks

end Draft

namespace Document

open Grammar

theorem derivation_of_parseItems {limit : Nat} {text : String} {items : List Item}
    (done : parseItems limit text = .ok items) :
    ∃ tokens, tokenize 0 text = .ok tokens ∧ IsDocument accepted text.toList tokens items := by
  obtain ⟨tokens, cut, last, run, finished⟩ := parseItems_eq_ok_iff.1 done
  obtain ⟨more, are, rfl⟩ :=
    Draft.owed_of_pushAll [] (cut_of_tokenize cut) rfl run finished
  exact ⟨tokens, cut, are⟩

/-- What a text is read as is derived from its tokens: all that are not white space, each once
and in order, in the grammar with its generous readings. -/
theorem derivation_of_parse {filename text : String} {limit : Nat} {document : Document}
    (parsed : parse filename limit text = .ok document) :
    ∃ tokens, tokenize 0 text = .ok tokens ∧
      IsDocument accepted text.toList tokens document.items := by
  obtain ⟨items, done, rfl⟩ := parse_eq_ok_iff.1 parsed
  exact derivation_of_parseItems done

/-- An escaped bracket in a key, escapes in a literal and in a component, and a comment that the
end of the input ends, with blanks around most of them. -/
theorem derivation_of_parse_escapes :
    let text := "[ a\\]b ]  v\n\"\\u0041\" <<p.\"\\n\">>\n#  é "
    let items : List Item :=
      [.tagged (.simple "a]b" ⟨0, ⟨⟨0, 0, 0⟩, ⟨8, 0, 8⟩⟩⟩)
          (.text "v" ⟨0, ⟨⟨10, 0, 10⟩, ⟨11, 0, 11⟩⟩⟩) none ⟨0, ⟨⟨0, 0, 0⟩, ⟨11, 0, 11⟩⟩⟩,
        .strings ⟨[.literal "A" ⟨0, ⟨⟨12, 1, 0⟩, ⟨20, 1, 8⟩⟩⟩,
            .placeholder ⟨["p", "\n"], ⟨0, ⟨⟨21, 1, 9⟩, ⟨31, 1, 19⟩⟩⟩⟩],
          ⟨0, ⟨⟨12, 1, 0⟩, ⟨31, 1, 19⟩⟩⟩⟩,
        .comment ⟨"é", ⟨0, ⟨⟨32, 2, 0⟩, ⟨38, 2, 5⟩⟩⟩⟩]
    ∃ tokens, tokenize 0 text = .ok tokens ∧ IsDocument accepted text.toList tokens items := by
  intro text items
  have done : parseItems 0 text = .ok items := by cbv
  have parsed : parse "escapes" 0 text =
      .ok ⟨items, ⟨0, ⟨.start, endOf text⟩⟩, .single "escapes" text⟩ :=
    parse_eq_ok_iff.2 ⟨items, done, rfl⟩
  exact derivation_of_parse parsed

end Document

end ConfigLang
