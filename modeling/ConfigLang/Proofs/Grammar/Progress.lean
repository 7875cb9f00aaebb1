import ConfigLang.Proofs.Grammar.Sound
/-! Progress: a draft that the next token owes something takes it, and the tokens behind owe the
rest. -/
namespace ConfigLang.Draft

open Grammar

theorem split_comment {orEnd : Bool} {tokens body rest rest' : List Token}
    (split : tokens.filter Token.isSignificant = body ++ rest)
    (texts : ∀ token ∈ body, token.kind = .line ∨ token.kind = .openCurly)
    (ended : IsLineEnd orEnd rest rest') :
    ∃ whole behind behind', tokens = whole ++ behind ∧
      (∀ token ∈ whole,
        token.kind = .whitespace ∨ token.kind = .line ∨ token.kind = .openCurly) ∧
      IsLineEnd orEnd behind behind' ∧ behind'.filter Token.isSignificant = rest' := by
  induction tokens generalizing body with
  | nil =>
    obtain ⟨rfl, rfl⟩ := List.append_eq_nil_iff.1 split.symm
    cases ended with
    | endOfInput allowed => exact ⟨[], [], [], rfl, nofun, .endOfInput allowed, rfl⟩
  | cons token tokens ih =>
    by_cases kind : token.kind = .whitespace
    · rw [filter_cons_of_blank kind] at split
      obtain ⟨whole, behind, behind', rfl, inside, ended', same⟩ := ih split texts
      exact ⟨token :: whole, behind, behind', rfl, List.forall_mem_cons.2 ⟨.inl kind, inside⟩,
        ended', same⟩
    · rw [filter_cons_of_kind kind] at split
      cases body with
      | nil =>
        rw [List.nil_append] at split
        subst split
        cases ended with
        | newline kind => exact ⟨[], token :: tokens, tokens, rfl, nofun, .newline kind, rfl⟩
      | cons first body =>
        obtain ⟨rfl, later⟩ := List.cons.inj split
        obtain ⟨here, texts⟩ := List.forall_mem_cons.1 texts
        obtain ⟨whole, behind, behind', rfl, inside, ended', same⟩ := ih later texts
        exact ⟨token :: whole, behind, behind', rfl, List.forall_mem_cons.2 ⟨.inr here, inside⟩,
          ended', same⟩

section progress

variable {readings : Readings} {source : List Char} {next : Item → List Token → Prop}
  {here : List Token → Prop} {token : Token} {ts : List Token}

theorem starts_of_piece {place : LinePlace} {elements : List StringElement}
    {piece : StringElement} {rest : List Token} (isPiece : IsPiece (token :: ts) piece rest)
    (owed : OwesPieces readings source next place (piece :: elements) rest) :
    ∃ after, StartsPiece place elements token after ∧
      (∀ comment, after ≠ .commentEnd comment) ∧
      OwesSignificant readings source next here after ts := by
  cases isPiece with
  | literal kind decodes => exact ⟨_, .literal kind (decodes_iff.1 decodes), nofun, .inl owed⟩
  | plus kind => exact ⟨_, .plus kind, nofun, .inl owed⟩
  | placeholder kind path closingKind =>
    exact ⟨_, .reference kind, nofun, _, false, _, rest,
      endsReference_of_isPath path rfl closingKind, owed⟩

theorem starts_of_line {place : LinePlace} {line : StringLine} {rest : List Token}
    (isLine : IsLine (token :: ts) line rest)
    (owed : OwesBehindLine readings source next line place rest) :
    ∃ after, StartsPiece place [] token after ∧ (∀ comment, after ≠ .commentEnd comment) ∧
      OwesSignificant readings source next here after ts := by
  cases isLine with
  | pieces are nonempty ended =>
    cases are with
    | nil => exact absurd rfl nonempty
    | cons first others => exact starts_of_piece first ⟨_, _, _, others, ended, owed⟩

theorem starts_of_spread {path : Path} {rest : List Token} (spread : IsSpread (token :: ts) path rest)
    (owed : OwesSpreadEnd readings next path rest) :
    ∃ after, StartsPiece .item [] token after ∧ (∀ comment, after ≠ .commentEnd comment) ∧
      OwesSignificant readings source next here after ts := by
  obtain ⟨opening, ts', components, closing, split, kind, ended, rfl⟩ := isSpread_iff.1 spread
  obtain ⟨rfl, rfl⟩ := List.cons.inj split
  exact ⟨_, .reference kind, nofun, _, true, _, rest, ended, rfl, rfl, owed⟩

theorem kind_of_isBlock {value : ValueNode} {rest : List Token}
    (block : IsBlock readings source (token :: ts) value rest) : token.kind = .openCurly := by
  cases block with
  | braces openingKind => exact openingKind

/-- What is owed behind an item does not depend on its comments, keys and spans. -/
structure Blind (next : Item → List Token → Prop) : Prop where
  comment {comment comment' : Comment} {rest : List Token} :
    next (.comment comment) rest → next (.comment comment') rest
  tagged {key key' : Key} {value : ValueNode} {template template' : Option Span}
    {span span' : Span} {rest : List Token} :
    next (.tagged key value template span) rest → next (.tagged key' value template' span') rest

inductive Proceeds (readings : Readings) (source : List Char) (next : Item → List Token → Prop)
    (here : List Token → Prop) (token : Token) (tokens : List Token) (before : Awaiting) : Prop
  | move {after : Awaiting} (moves : Moves token before after)
      (owed : Owes readings source next here after tokens)
  | complete {item : Item} (kind : token.kind = .newline) (completes : Completes before item)
      (owed : next item (tokens.filter Token.isSignificant))
  | opening {entry : Entry} {value : ValueNode} {rest : List Token}
      (kind : token.kind = .openCurly) (opens : Opens before entry)
      (block : IsBlock readings source (token :: tokens.filter Token.isSignificant) value rest)
      (owed : next (entry.item value) rest)

variable {tokens : List Token} {before : Awaiting}

theorem proceeds_of_starts {place : LinePlace} {elements : List StringElement}
    (begins : Begins before place elements)
    (starts : ∃ after, StartsPiece place elements token after ∧
      (∀ comment, after ≠ .commentEnd comment) ∧
      OwesSignificant readings source next here after (tokens.filter Token.isSignificant)) :
    Proceeds readings source next here token tokens before := by
  obtain ⟨after, piece, outside, owed⟩ := starts
  refine .move (.piece begins piece) ?_
  rw [owes_eq outside]
  exact owed

theorem proceeds_of_comment {comment : OpenComment}
    (owed : OwesComment readings source next comment (token :: tokens)) :
    Proceeds readings source next here token tokens (.commentEnd comment) := by
  obtain ⟨body, rest, rest', split, texts, ended, behind⟩ := owed
  cases body with
  | nil =>
    rw [List.nil_append] at split
    subst split
    rw [textOf_nil, List.append_nil] at behind
    cases ended with
    | newline kind =>
      obtain ⟨key, span, text⟩ := comment
      cases key with
      | none => exact .complete kind (.comment span text) behind
      | some key => exact .move (.keyCommentEnd kind) behind
  | cons first body =>
    obtain ⟨rfl, rfl⟩ := List.cons.inj split
    obtain ⟨here, texts⟩ := List.forall_mem_cons.1 texts
    rcases here with kind | kind
    · refine .move (.blanksInComment kind) ⟨body, rest, rest', rfl, texts, ended, ?_⟩
      rw [filter_cons_of_blank kind] at behind
      simpa using behind
    · refine .move (.commentText kind) ⟨body, rest, rest', rfl, texts, ended, ?_⟩
      rw [filter_cons_of_kind (by rcases kind with kind | kind <;> simp [kind])] at behind
      simpa using behind

theorem proceeds_of_pieces {place : LinePlace} {elements : List StringElement}
    (owed : OwesPieces readings source next place elements
        (token :: tokens.filter Token.isSignificant) ∨
      OwesLoneSpread readings next place elements (token :: tokens.filter Token.isSignificant)) :
    Proceeds readings source next here token tokens (.stringPiece place elements) := by
  rcases owed with ⟨pieces, rest, rest', are, ended, behind⟩ | ⟨rfl, rfl, path, rest, spread, owed⟩
  · cases are with
    | nil =>
      rw [List.append_nil, ← stringLine_eq] at behind
      cases ended with
      | newline kind =>
        cases place with
        | item => exact .complete kind (.strings elements) behind
        | key key => exact .move (.keyLineEnd kind) behind
        | value entry lines => exact .move (.valueLineEnd kind) behind
    | @cons _ _ _ piece pieces first others =>
      refine proceeds_of_starts (.stringPiece place elements)
        (starts_of_piece first ⟨pieces, rest, rest', others, ended, ?_⟩)
      simpa using behind
  · exact proceeds_of_starts (.stringPiece .item []) (starts_of_spread spread owed)

theorem proceeds_of_lowerValue {entry : Entry} (opens : Opens before entry)
    (begins : Begins before (.value entry []) [])
    (owed : OwesLowerValue readings source next entry (token :: tokens.filter Token.isSignificant)) :
    Proceeds readings source next here token tokens before := by
  obtain ⟨value, rest, derived, behind⟩ := owed
  cases derived with
  | block block =>
    exact .opening (kind_of_isBlock block) opens block behind
  | strings are nonempty =>
    cases are with
    | nil => exact absurd rfl nonempty
    | cons first others =>
      exact proceeds_of_starts begins (starts_of_line first ⟨_, rest, others, behind⟩)

theorem proceeds_of_value {entry : Entry} {behindLines : Bool}
    (owed : OwesValue readings source next entry behindLines
      (token :: tokens.filter Token.isSignificant)) :
    Proceeds readings source next here token tokens (.value entry behindLines) := by
  obtain ⟨value, rest, derived, behind⟩ := owed
  cases derived with
  | text kind trims ended =>
    obtain rfl := trims_iff.1 trims
    exact .move (.text kind) ⟨rest, ended, behind⟩
  | block block =>
    exact .opening (kind_of_isBlock block) (.value entry behindLines) block behind
  | nextLine kind lower => exact .move (.nextLine kind) ⟨value, rest, lower, behind⟩
  | sameLine lower =>
    exact proceeds_of_lowerValue (.value entry true) (.value entry)
      ⟨value, rest, lower, behind⟩

theorem proceeds_of_keyLines {key : OpenKey} (blind : Blind next)
    (owed : OwesKeyLines readings source next key (token :: tokens.filter Token.isSignificant)) :
    Proceeds readings source next here token tokens (.keyLine key) := by
  obtain ⟨lines, closing, rest, are, closingKind, value⟩ := owed
  generalize rests : closing :: rest = behind at are
  generalize tokenss : token :: tokens.filter Token.isSignificant = whole at are
  cases are with
  | nil =>
    obtain ⟨rfl, rfl⟩ := List.cons.inj (tokenss.trans rests.symm)
    rw [List.append_nil] at value
    exact .move (.longKeyEnd closingKind) value
  | blank allowed kind others =>
    obtain ⟨rfl, rfl⟩ := List.cons.inj tokenss
    subst rests
    exact .move (.blankKeyLine kind) ⟨lines, closing, rest, others, closingKind, value⟩
  | comment first others =>
    subst rests
    cases first with
    | hash kind texts brief trims ended =>
      obtain ⟨rfl, split⟩ := List.cons.inj tokenss
      obtain ⟨body, behind, behind', rfl, inside, ended', rfl⟩ := split_comment split texts ended
      obtain ⟨held, rest', isValue, following⟩ := value
      exact .move (.keyComment kind) ⟨body, behind, behind', rfl, inside, ended', _, closing, rest,
        others, closingKind, held, rest', isValue, blind.tagged following⟩
  | strings first others =>
    subst rests tokenss
    refine proceeds_of_starts (.keyLine key)
      (starts_of_line first ⟨_, closing, rest, others, closingKind, ?_⟩)
    simpa [OpenKey.push] using value

theorem proceeds_of_reference {reference : OpenReference}
    (owed : OwesReference readings source next reference
      (token :: tokens.filter Token.isSignificant)) :
    Proceeds readings source next here token tokens (.component reference) := by
  obtain ⟨components, isSpread, closing, rest, ended, behind⟩ := owed
  generalize tokenss : token :: tokens.filter Token.isSignificant = whole at ended
  cases ended with
  | star kind closingKind =>
    obtain ⟨rfl, split⟩ := List.cons.inj tokenss
    rw [List.map_nil, List.append_nil] at behind
    exact .move (.star kind) ⟨closing, rest, split, closingKind, behind⟩
  | name component closingKind =>
    obtain ⟨rfl, split⟩ := List.cons.inj tokenss
    refine .move (.component (isComponent_iff.1 component))
      (.inl ⟨closing, rest, split, closingKind, ?_⟩)
    rw [OpenReference.path, List.reverse_cons]
    exact behind
  | dotted component dotKind ended =>
    obtain ⟨rfl, split⟩ := List.cons.inj tokenss
    refine .move (.component (isComponent_iff.1 component))
      (.inr ⟨_, _, split, dotKind, _, _, closing, rest, ended, ?_⟩)
    rw [List.reverse_cons, List.append_assoc, List.singleton_append]
    exact behind

theorem proceeds_of_path {inherit : OpenInherit}
    (owed : OwesPath readings next inherit (token :: tokens.filter Token.isSignificant)) :
    Proceeds readings source next here token tokens (.templateName inherit) := by
  obtain ⟨components, rest, rest', path, ended, behind⟩ := owed
  generalize tokenss : token :: tokens.filter Token.isSignificant = whole at path
  cases path with
  | single component =>
    obtain ⟨rfl, rfl⟩ := List.cons.inj tokenss
    exact .move (.templateName (isComponent_iff.1 component)) (.inl ⟨rest', ended, behind⟩)
  | dotted component dotKind path =>
    obtain ⟨rfl, split⟩ := List.cons.inj tokenss
    exact .move (.templateName (isComponent_iff.1 component))
      (.inr ⟨_, _, split, dotKind, _, rest, rest', path, ended, behind⟩)

theorem proceeds_of_key {bracket : Span} {template : Option Span}
    (owed : OwesKey readings source next bracket template
      (token :: tokens.filter Token.isSignificant)) :
    Proceeds readings source next here token tokens (.key bracket template) := by
  obtain ⟨key, rest, isKey, value⟩ := owed
  generalize tokenss : token :: tokens.filter Token.isSignificant = whole at isKey
  cases isKey with
  | empty kind =>
    obtain ⟨rfl, rfl⟩ := List.cons.inj tokenss
    exact .move (.emptyKey kind) value
  | simple kind unescapes trims closingKind =>
    obtain ⟨rfl, split⟩ := List.cons.inj tokenss
    obtain rfl := unescapes_iff.1 unescapes
    obtain rfl := trims_iff.1 trims
    exact .move (.keyText kind) ⟨_, rest, split, closingKind, value⟩
  | multiline kind are closingKind =>
    obtain ⟨rfl, rfl⟩ := List.cons.inj tokenss
    exact .move (.longKey kind) ⟨_, _, rest, are, closingKind, value⟩

theorem proceeds_of_lineEnd {orEnd : Bool} {item : Item} {rest : List Token}
    (completes : Completes before item)
    (ended : IsLineEnd orEnd (token :: tokens.filter Token.isSignificant) rest)
    (owed : next item rest) : Proceeds readings source next here token tokens before := by
  cases ended with
  | newline kind => exact .complete kind completes owed

theorem proceeds_of_owes (blind : Blind next) (atItem : before ≠ .item)
    (inLines : ∀ entry lines, before ≠ .stringLine entry lines)
    (owed : Owes readings source next here before (token :: tokens)) :
    Proceeds readings source next here token tokens before := by
  by_cases isComment : ∃ comment, before = .commentEnd comment
  · obtain ⟨comment, rfl⟩ := isComment
    exact proceeds_of_comment owed
  have outside : ∀ comment, before ≠ .commentEnd comment :=
    fun comment same => isComment ⟨comment, same⟩
  rw [owes_eq outside] at owed
  by_cases kind : token.kind = .whitespace
  · rw [filter_cons_of_blank kind] at owed
    exact .move (.blanks kind outside) (by rwa [owes_eq outside])
  rw [filter_cons_of_kind kind] at owed
  cases before with
  | item => exact absurd rfl atItem
  | commentEnd comment => exact absurd rfl (outside comment)
  | stringLine entry lines => exact absurd rfl (inLines entry lines)
  | templateName inherit => exact proceeds_of_path owed
  | inheritEnd inherit =>
    rcases owed with ⟨rest, ended, behind⟩ | ⟨dot, rest, split, dotKind, path⟩
    · exact proceeds_of_lineEnd (.inherit inherit) ended behind
    · obtain ⟨rfl, rfl⟩ := List.cons.inj split
      exact .move (.templateDot dotKind) path
  | templateKey mark =>
    obtain ⟨bracket, rest, split, bracketKind, key⟩ := owed
    obtain ⟨rfl, rfl⟩ := List.cons.inj split
    exact .move (.templateKey bracketKind) key
  | key bracket template => exact proceeds_of_key owed
  | keyEnd text bracket template =>
    obtain ⟨closing, rest, split, closingKind, value⟩ := owed
    obtain ⟨rfl, rfl⟩ := List.cons.inj split
    exact .move (.keyEnd closingKind) value
  | keyLine key => exact proceeds_of_keyLines blind owed
  | value entry behindLines => exact proceeds_of_value owed
  | valueBelow entry =>
    exact proceeds_of_lowerValue (.valueBelow entry) (.valueBelow entry) owed
  | valueEnd entry value =>
    obtain ⟨rest, ended, behind⟩ := owed
    exact proceeds_of_lineEnd (.value entry value) ended behind
  | blockStart =>
    obtain ⟨newline, rest, split, newlineKind, behind⟩ := owed
    obtain ⟨rfl, rfl⟩ := List.cons.inj split
    exact .move (.blockStart newlineKind) behind
  | stringPiece place elements => exact proceeds_of_pieces owed
  | component reference => exact proceeds_of_reference owed
  | separator reference =>
    rcases owed with ⟨closing, rest, split, closingKind, behind⟩ | ⟨dot, rest, split, dotKind,
      behind⟩
    · obtain ⟨rfl, rfl⟩ := List.cons.inj split
      exact .move (.placeholder closingKind) (.inl behind)
    · obtain ⟨rfl, rfl⟩ := List.cons.inj split
      exact .move (.dot dotKind) behind
  | spreadClose reference =>
    obtain ⟨closing, rest, split, closingKind, place, alone, behind⟩ := owed
    obtain ⟨rfl, rfl⟩ := List.cons.inj split
    exact .move (.spread closingKind place alone) behind
  | spreadEnd path =>
    obtain ⟨rest, ended, behind⟩ := owed
    exact proceeds_of_lineEnd (.spread path) ended behind

end progress

end ConfigLang.Draft
