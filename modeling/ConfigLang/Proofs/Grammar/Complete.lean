import ConfigLang.Proofs.Grammar.Demand
/-! Which documents of the grammar are read: all but those where a spread follows the string
lines of a value. It is refused, though it stands on a line of its own. -/
namespace ConfigLang

namespace Draft

open Grammar

variable {readings : Readings} {source : List Char} {limit : Nat}

section steps

variable {doomed : Bool} {token : Token} {tokens : List Token} {blocks : List OpenBlock}
  {items : List Item}

def Advances (readings : Readings) (source : List Char) (limit : Nat) (doomed : Bool)
    (token : Token) (tokens : List Token) (draft : Draft) : Prop :=
  ∃ after, Takes limit token draft after ∧ Demands readings source limit doomed after tokens

theorem advances_of_opening {awaiting : Awaiting} {entry : Entry} {value : ValueNode}
    {rest : List Token} (kind : token.kind = .openCurly) (opens : Opens awaiting entry)
    (block : IsBlock readings source (token :: tokens.filter Token.isSignificant) value rest)
    (follows : Follows readings source limit blocks.length doomed (entry.item value) rest) :
    Advances readings source limit doomed token tokens ⟨blocks, items, awaiting⟩ := by
  generalize tokenss : token :: tokens.filter Token.isSignificant = whole at block
  cases block with
  | @braces opening newline closing ts _ _ inner openingKind newlineKind are closingKind ended =>
    obtain ⟨rfl, split⟩ := List.cons.inj tokenss
    obtain ⟨later, rests, room, same⟩ := follows
    rw [nesting_item, ValueNode.nesting] at room
    rw [absorbsSpread_item, ValueNode.absorbsSpread] at same
    have outer : Rests readings source limit blocks.length false later rest := by
      cases entry <;> exact rests
    have inside : Rests readings source limit (blocks.length + 1) false doomed ts :=
      ⟨inner, closing, _, rest, later, are, closingKind, ended, by omega, outer, same⟩
    refine ⟨_, .opening kind opens (by omega), .owes nofun ?_⟩
    exact ⟨newline, ts, split, newlineKind, inside⟩

theorem rests_of_completes {awaiting : Awaiting} {item : Item} {ts : List Token} {depth : Nat}
    (inside : ∀ entry value, awaiting ≠ .valueEnd entry value)
    (completes : Completes awaiting item)
    (follows : Follows readings source limit depth doomed item ts) :
    Rests readings source limit depth false doomed ts := by
  obtain ⟨later, rests, room, same⟩ := follows
  cases completes with
  | value entry value => exact absurd rfl (inside entry value)
  | comment | inherit | strings | spread =>
    have same : doomed = later := same
    rw [same]
    exact rests

theorem text_of_moves {before : Awaiting} {entry : Entry} {value : ValueNode}
    (inside : ∀ entry value, before ≠ .valueEnd entry value)
    (moves : Moves token before (.valueEnd entry value)) : ∃ text span, value = .text text span := by
  cases moves with
  | blanks kind outside => exact absurd rfl (inside entry value)
  | piece begins starts => cases starts
  | text kind => exact ⟨_, _, rfl⟩

theorem advances_of_proceeds {awaiting : Awaiting}
    (inside : ∀ entry value, awaiting ≠ .valueEnd entry value)
    (proceeds : Proceeds readings source (Follows readings source limit blocks.length doomed)
      (Rests readings source limit blocks.length false doomed) token tokens awaiting) :
    Advances readings source limit doomed token tokens ⟨blocks, items, awaiting⟩ := by
  cases proceeds with
  | opening kind opens block owed => exact advances_of_opening kind opens block owed
  | complete kind completes owed =>
    exact ⟨_, .complete kind completes, .owes nofun (rests_of_completes inside completes owed)⟩
  | @move after moves owed =>
    by_cases ended : ∃ entry value, after = .valueEnd entry value
    · obtain ⟨entry, value, rfl⟩ := ended
      obtain ⟨text, span, rfl⟩ := text_of_moves inside moves
      obtain ⟨rest, ended, later, rests, room, same⟩ := owed
      rw [absorbsSpread_item, ValueNode.absorbsSpread, Bool.false_or] at same
      rw [same]
      have outer : Rests readings source limit blocks.length false later rest := by
        cases entry <;> exact rests
      exact ⟨_, .move moves, .valueEnd rfl ended outer⟩
    · exact ⟨_, .move moves, .owes (fun entry value same => ended ⟨entry, value, same⟩) owed⟩

theorem advances_at_item
    (rests : Rests readings source limit blocks.length false doomed
      (token :: tokens.filter Token.isSignificant)) :
    Advances readings source limit doomed token tokens ⟨blocks, items, .item⟩ := by
  have uncons := uncons_of_rests rests
  generalize tokenss : token :: tokens.filter Token.isSignificant = whole at uncons
  cases uncons with
  | done => cases tokenss
  | closing inner closingKind ended outer =>
    obtain ⟨rfl, rfl⟩ := List.cons.inj tokenss
    cases blocks with
    | nil => cases inner
    | cons block blocks =>
      cases inner
      exact ⟨_, .closing closingKind, .valueEnd rfl ended outer⟩
  | @item item _ rest later derived room rests same =>
    have follows : Follows readings source limit blocks.length doomed item rest :=
      ⟨later, rests, room, same⟩
    cases derived with
    | blank kind =>
      obtain ⟨rfl, rfl⟩ := List.cons.inj tokenss
      have same : doomed = later := same
      rw [same]
      exact ⟨_, .blank kind, .owes nofun rests⟩
    | comment derived =>
      cases derived with
      | hash kind texts brief trims ended =>
        obtain ⟨rfl, split⟩ := List.cons.inj tokenss
        obtain ⟨body, behind, behind', rfl, inside, ended', rfl⟩ := split_comment split texts ended
        exact ⟨_, .move (.comment kind), .owes nofun ⟨body, behind, behind', rfl, inside, ended',
          (blind_follows _ _).comment follows⟩⟩
    | inherit kind name path ended =>
      obtain ⟨rfl, rfl⟩ := List.cons.inj tokenss
      refine ⟨_, .move (.inherit kind name), .owes nofun ⟨_, _, rest, path, ended, ?_⟩⟩
      rw [item_passAll _ (ne_nil_of_isPath path)]
      exact follows
    | template kind name bracketKind isKey isValue =>
      obtain ⟨rfl, split⟩ := List.cons.inj tokenss
      exact ⟨_, .move (.template kind name), .owes nofun ⟨_, _, split, bracketKind, _, _, isKey, _,
        rest, isValue, follows⟩⟩
    | tagged kind isKey isValue =>
      obtain ⟨rfl, rfl⟩ := List.cons.inj tokenss
      exact ⟨_, .move (.tagged kind), .owes nofun ⟨_, _, isKey, _, rest, isValue, follows⟩⟩
    | untagged kind isValue =>
      obtain ⟨rfl, rfl⟩ := List.cons.inj tokenss
      exact ⟨_, .move (.untagged kind), .owes nofun ⟨_, rest, isValue, follows⟩⟩
    | spread derived ended =>
      subst tokenss
      exact advances_of_proceeds nofun
        (proceeds_of_starts .item (starts_of_spread derived ⟨rest, ended, follows⟩))
    | strings derived =>
      subst tokenss
      exact advances_of_proceeds nofun
        (proceeds_of_starts .item (starts_of_line derived follows))

theorem absorbing_irrelevant {item : Item} (noLine : ∀ line, item ≠ .strings line)
    (noSpread : ∀ path, item ≠ .spread path) (absorbing : Bool) :
    item.absorbs absorbing = item.absorbs false ∧
      item.absorbsSpread absorbing = item.absorbsSpread false := by
  cases item with
  | strings line => exact absurd rfl (noLine line)
  | spread path => exact absurd rfl (noSpread path)
  | tagged key value template span => cases value <;> exact ⟨rfl, rfl⟩
  | untagged value span => cases value <;> exact ⟨rfl, rfl⟩
  | _ => exact ⟨rfl, rfl⟩

theorem isLine_of_isItem {line : StringLine} {ts rest : List Token}
    (derived : IsItem readings source ts (.strings line) rest) : IsLine ts line rest := by
  cases derived with
  | strings derived => exact derived

theorem isSpread_of_isItem {path : Path} {ts rest : List Token}
    (derived : IsItem readings source ts (.spread path) rest) :
    ∃ behind, IsSpread ts path behind ∧ IsLineEnd readings.endEndsLines behind rest := by
  cases derived with
  | spread derived ended => exact ⟨_, derived, ended⟩

theorem startsPiece_of_isItem {item : Item} {ts rest : List Token}
    (derived : IsItem readings source (token :: ts) item rest)
    (noLine : ∀ line, item ≠ .strings line) (noSpread : ∀ path, item ≠ .spread path) :
    startsPiece token.kind = false := by
  cases derived with
  | strings derived => exact absurd rfl (noLine _)
  | spread derived => exact absurd rfl (noSpread _)
  | comment derived =>
    cases derived with
    | hash kind => rw [kind]; rfl
  | blank kind | inherit kind | template kind | tagged kind | untagged kind => rw [kind]; rfl

theorem advances_in_lines {entry : Entry} {lines : List StringLine}
    (outside : token.kind ≠ .whitespace)
    (owed : OwesLines (Follows readings source limit blocks.length doomed) entry lines
      (token :: tokens.filter Token.isSignificant)) :
    Advances readings source limit doomed token tokens ⟨blocks, items, .stringLine entry lines⟩ := by
  obtain ⟨more, rest, are, follows⟩ := owed
  generalize tokenss : token :: tokens.filter Token.isSignificant = whole at are
  cases are with
  | cons first others =>
    subst tokenss
    refine advances_of_proceeds nofun (proceeds_of_starts (.stringLine entry lines)
      (starts_of_line first ⟨_, rest, others, ?_⟩))
    simpa using follows
  | nil =>
    subst tokenss
    obtain ⟨later, rests, -, same⟩ := follows
    rw [absorbsSpread_valueOf, Bool.false_or] at same
    rw [absorbs_valueOf, ← same] at rests
    have uncons := uncons_of_rests rests
    clear rests same
    generalize tokenss : token :: tokens.filter Token.isSignificant = whole at uncons
    cases uncons with
    | done => cases tokenss
    | closing inner closingKind ended outer =>
      obtain ⟨rfl, rfl⟩ := List.cons.inj tokenss
      cases blocks with
      | nil => cases inner
      | cons block blocks =>
        cases inner
        exact ⟨_, .valueEnd outside (by rw [closingKind]; rfl) (.closing closingKind),
          .valueEnd rfl ended outer⟩
    | @item item _ rest later derived room rests same =>
      subst tokenss
      by_cases isLine : ∃ line, item = .strings line
      · obtain ⟨line, rfl⟩ := isLine
        refine advances_of_proceeds nofun (proceeds_of_starts (.stringLine entry lines)
          (starts_of_line (isLine_of_isItem derived) ⟨[], rest, .nil, later, ?_, ?_, ?_⟩))
        · rw [absorbs_valueOf]
          exact rests
        · rw [nesting_valueOf]
          exact room
        · rw [absorbsSpread_valueOf]
          exact same
      by_cases isSpread : ∃ path, item = .spread path
      · obtain ⟨path, rfl⟩ := isSpread
        have sure : doomed = true := same.trans (Bool.true_or later)
        obtain ⟨behind, derived, -⟩ := isSpread_of_isItem derived
        obtain ⟨opening, ts, components, closing, split, kind, reference, -⟩ :=
          isSpread_iff.1 derived
        obtain ⟨rfl, rfl⟩ := List.cons.inj split
        exact ⟨_, .move (.piece (.stringLine entry lines) (.reference kind)),
          .stuck sure ⟨by simp, components, closing, behind, reference⟩⟩
      have noLine := fun line same => isLine ⟨line, same⟩
      have noSpread := fun path same => isSpread ⟨path, same⟩
      obtain ⟨absorbs, absorbsSpread⟩ := absorbing_irrelevant noLine noSpread true
      rw [absorbs] at rests
      rw [absorbsSpread] at same
      have rests : Rests readings source limit blocks.length false doomed
          (token :: tokens.filter Token.isSignificant) := rests_of_item derived room rests same
      obtain ⟨after, takes, demands⟩ : Advances readings source limit doomed token tokens
          ⟨blocks, entry.item (stringValue lines) :: items, .item⟩ := advances_at_item rests
      exact ⟨after, .valueEnd outside (startsPiece_of_isItem derived noLine noSpread) takes, demands⟩

/-- A spread among the string lines of a value is taken up to its closing brackets, which are
refused. -/
theorem stuck_step {awaiting : Awaiting} {ts : List Token} (stuck : Stuck awaiting (token :: ts)) :
    (∃ after, Takes limit token ⟨blocks, items, awaiting⟩ ⟨blocks, items, after⟩ ∧
      Stuck after ts) ∨
      ∃ span, push limit ⟨blocks, items, awaiting⟩ token = .error (.misplacedSpread span) := by
  cases awaiting with
  | component reference =>
    obtain ⟨elsewhere, components, closing, rest, ended⟩ := stuck
    left
    generalize isSpread : true = spread at ended
    cases ended with
    | star kind closingKind =>
      exact ⟨_, .move (.star kind), elsewhere, closing, rest, rfl, closingKind⟩
    | name => cases isSpread
    | dotted component dotKind ended =>
      subst isSpread
      exact ⟨_, .move (.component (isComponent_iff.1 component)), elsewhere, _, _, _,
        closing, rest, rfl, dotKind, ended⟩
  | separator reference =>
    obtain ⟨elsewhere, dot, ts', components, closing, rest, split, dotKind, ended⟩ := stuck
    obtain ⟨rfl, rfl⟩ := List.cons.inj split
    exact .inl ⟨_, .move (.dot dotKind), elsewhere, components, closing, rest, ended⟩
  | spreadClose reference =>
    obtain ⟨elsewhere, closing, rest, split, closingKind⟩ := stuck
    obtain ⟨rfl, rfl⟩ := List.cons.inj split
    right
    refine ⟨(reference.path token.span).span, ?_⟩
    simp only [push, closingKind, pushInside, if_true]
    unfold closeSpread
    split
    · next place alone => exact absurd place elsewhere
    · rfl
  | _ => exact stuck.elim

theorem advances_over_blank {draft : Draft} (kind : token.kind = .whitespace)
    (outside : ∀ comment, draft.awaiting ≠ .commentEnd comment)
    (demands : Demands readings source limit doomed draft (token :: tokens)) :
    Advances readings source limit doomed token tokens draft := by
  obtain ⟨blocks, items, awaiting⟩ := draft
  refine ⟨_, .move (.blanks kind outside), ?_⟩
  cases demands with
  | owes inside owed =>
    rw [owes_eq outside, filter_cons_of_blank kind] at owed
    exact .owes inside (by rwa [owes_eq outside])
  | valueEnd awaiting ended rests =>
    rw [filter_cons_of_blank kind] at ended
    exact .valueEnd awaiting ended rests
  | stuck sure stuck =>
    rw [filter_cons_of_blank kind] at stuck
    exact .stuck sure stuck

theorem step_of_demands {draft : Draft}
    (demands : Demands readings source limit doomed draft (token :: tokens)) :
    Advances readings source limit doomed token tokens draft ∨
      doomed = true ∧ ∃ span, draft.push limit token = .error (.misplacedSpread span) := by
  obtain ⟨blocks, items, awaiting⟩ := draft
  by_cases isComment : ∃ comment, awaiting = .commentEnd comment
  · obtain ⟨comment, rfl⟩ := isComment
    cases demands with
    | owes inside owed => exact .inl (advances_of_proceeds inside (proceeds_of_comment owed))
    | valueEnd same => cases same
    | stuck sure stuck => exact stuck.elim
  have outside : ∀ comment, awaiting ≠ .commentEnd comment :=
    fun comment same => isComment ⟨comment, same⟩
  by_cases kind : token.kind = .whitespace
  · exact .inl (advances_over_blank kind outside demands)
  cases demands with
  | owes inside owed =>
    left
    by_cases atItem : awaiting = .item
    · subst atItem
      rw [owes_eq outside, filter_cons_of_kind kind] at owed
      exact advances_at_item owed
    by_cases inLines : ∃ entry lines, awaiting = .stringLine entry lines
    · obtain ⟨entry, lines, rfl⟩ := inLines
      rw [owes_eq outside, filter_cons_of_kind kind] at owed
      exact advances_in_lines kind owed
    exact advances_of_proceeds inside (proceeds_of_owes (blind_follows _ _) atItem
      (fun entry lines same => inLines ⟨entry, lines, same⟩) owed)
  | @valueEnd entry value rest awaiting ended rests =>
    cases awaiting
    rw [filter_cons_of_kind kind] at ended
    cases ended with
    | newline kind => exact .inl ⟨_, .complete kind (.value entry value), .owes nofun rests⟩
  | stuck sure stuck =>
    rw [filter_cons_of_kind kind] at stuck
    rcases stuck_step stuck with ⟨after, takes, stuck⟩ | refused
    · exact .inl ⟨_, takes, .stuck sure stuck⟩
    · exact .inr ⟨sure, refused⟩

end steps

section finish

variable {doomed : Bool} {blocks : List OpenBlock} {items : List Item} {stop : Span}

theorem not_isLine_nil {line : StringLine} {rest : List Token} : ¬ IsLine [] line rest := by
  intro isLine
  cases isLine with
  | pieces are nonempty ended =>
    cases are with
    | nil => exact nonempty rfl
    | cons first others => cases first

theorem not_isItem_nil {item : Item} {rest : List Token} :
    ¬ IsItem readings source [] item rest := by
  intro derived
  cases derived with
  | comment derived => cases derived
  | spread derived ended => cases derived
  | strings derived => exact not_isLine_nil derived

theorem not_areKeyLines_nil {lines : List KeyLine} {closing : Token} {rest : List Token} :
    ¬ AreKeyLines readings source [] lines (closing :: rest) := by
  intro are
  cases are with
  | comment first others => cases first
  | strings first others => exact not_isLine_nil first

theorem not_isLowerValue_nil {value : ValueNode} {rest : List Token} :
    ¬ IsLowerValue readings source [] value rest := by
  intro derived
  cases derived with
  | block derived => cases derived
  | strings are nonempty =>
    cases are with
    | nil => exact nonempty rfl
    | cons first others => exact not_isLine_nil first

theorem not_isValue_nil {behindLines : Bool} {value : ValueNode} {rest : List Token} :
    ¬ IsValue readings source behindLines [] value rest := by
  intro derived
  cases derived with
  | block derived => cases derived
  | sameLine derived => exact not_isLowerValue_nil derived

theorem done_of_rests {depth : Nat} {absorbing : Bool}
    (rests : Rests readings source limit depth absorbing doomed []) :
    depth = 0 ∧ doomed = false := by
  cases uncons_of_rests rests with
  | done top sound => exact ⟨top, sound⟩
  | item derived => exact absurd derived not_isItem_nil

theorem done_of_follows {depth : Nat} {item : Item} (sound : item.absorbsSpread false = false)
    (follows : Follows readings source limit depth doomed item []) :
    depth = 0 ∧ doomed = false := by
  obtain ⟨later, rests, room, same⟩ := follows
  rw [sound, Bool.false_or] at same
  rw [same]
  exact done_of_rests rests

theorem finish_of_item (done : blocks.length = 0 ∧ doomed = false) :
    doomed = false ∧ ∃ parsed, finish stop ⟨blocks, items, .item⟩ = .ok parsed := by
  obtain ⟨top, sound⟩ := done
  cases blocks with
  | nil => exact ⟨sound, items.reverse, rfl⟩
  | cons block blocks => cases top

theorem finish_of_completes {awaiting : Awaiting} {item : Item}
    (completes : Completes awaiting item) (done : blocks.length = 0 ∧ doomed = false) :
    doomed = false ∧ ∃ parsed, finish stop ⟨blocks, items, awaiting⟩ = .ok parsed := by
  have same : finish stop ⟨blocks, items, awaiting⟩ = finish stop ⟨blocks, item :: items, .item⟩ := by
    cases completes <;> rfl
  rw [same]
  exact finish_of_item done

theorem finish_of_lines {entry : Entry} {lines : List StringLine}
    (owed : OwesLines (Follows readings source limit blocks.length doomed) entry lines []) :
    doomed = false ∧ ∃ parsed, finish stop ⟨blocks, items, .stringLine entry lines⟩ = .ok parsed := by
  obtain ⟨more, rest, are, follows⟩ := owed
  cases are with
  | cons first others => exact absurd first not_isLine_nil
  | nil =>
    have done := done_of_follows (absorbsSpread_item entry _ false) follows
    have finished : doomed = false ∧
        ∃ parsed, finish stop ⟨blocks, entry.item (stringValue lines) :: items, .item⟩ = .ok parsed :=
      finish_of_item done
    exact finished

theorem finish_of_demands {draft : Draft}
    (demands : Demands readings source limit doomed draft []) :
    doomed = false ∧ ∃ parsed, draft.finish stop = .ok parsed := by
  obtain ⟨blocks, items, awaiting⟩ := draft
  cases demands with
  | @valueEnd entry value rest awaiting ended rests =>
    cases awaiting
    cases ended with
    | endOfInput => exact finish_of_completes (.value entry value) (done_of_rests rests)
  | stuck sure stuck =>
    cases awaiting with
    | component reference =>
      obtain ⟨elsewhere, components, closing, rest, ended⟩ := stuck
      cases ended
    | separator reference =>
      obtain ⟨elsewhere, dot, ts, components, closing, rest, split, -⟩ := stuck
      cases split
    | spreadClose reference =>
      obtain ⟨elsewhere, closing, rest, split, -⟩ := stuck
      cases split
    | _ => exact stuck.elim
  | owes inside owed =>
    cases awaiting with
    | item => exact finish_of_item (done_of_rests owed)
    | commentEnd comment =>
      obtain ⟨body, rest, rest', split, texts, ended, behind⟩ := owed
      obtain ⟨rfl, rfl⟩ := List.append_eq_nil_iff.1 split.symm
      obtain ⟨key, span, text⟩ := comment
      cases ended with
      | endOfInput =>
        cases key with
        | none => exact finish_of_completes (.comment span text) (done_of_follows rfl behind)
        | some key =>
          obtain ⟨lines, closing, rest, are, -⟩ := behind
          exact absurd are not_areKeyLines_nil
    | templateName inherit =>
      obtain ⟨components, rest, rest', path, -⟩ := owed
      cases path
    | inheritEnd inherit =>
      rcases owed with ⟨rest, ended, behind⟩ | ⟨dot, rest, split, -⟩
      · cases ended with
        | endOfInput => exact finish_of_completes (.inherit inherit) (done_of_follows rfl behind)
      · cases split
    | key bracket template =>
      obtain ⟨key, rest, isKey, -⟩ := owed
      cases isKey
    | keyLine key =>
      obtain ⟨lines, closing, rest, are, -⟩ := owed
      exact absurd are not_areKeyLines_nil
    | value entry behindLines =>
      obtain ⟨value, rest, derived, -⟩ := owed
      exact absurd derived not_isValue_nil
    | valueBelow entry =>
      obtain ⟨value, rest, derived, -⟩ := owed
      exact absurd derived not_isLowerValue_nil
    | valueEnd entry value => exact absurd rfl (inside entry value)
    | stringPiece place elements =>
      rcases owed with ⟨pieces, rest, rest', are, ended, behind⟩ | ⟨-, -, path, rest, spread, -⟩
      · cases are with
        | cons first others => cases first
        | nil =>
          cases ended with
          | endOfInput =>
            cases place with
            | item => exact finish_of_completes (.strings elements) (done_of_follows rfl behind)
            | key key =>
              obtain ⟨lines, closing, rest, are, -⟩ := behind
              exact absurd are not_areKeyLines_nil
            | value entry lines =>
              rw [List.append_nil, ← stringLine_eq] at behind
              exact finish_of_lines behind
      · cases spread
    | stringLine entry lines => exact finish_of_lines owed
    | component reference =>
      obtain ⟨components, isSpread, closing, rest, ended, -⟩ := owed
      cases ended
    | separator reference =>
      rcases owed with ⟨closing, rest, split, -⟩ | ⟨dot, rest, split, -⟩
      · cases split
      · cases split
    | spreadEnd path =>
      obtain ⟨rest, ended, behind⟩ := owed
      cases ended with
      | endOfInput => exact finish_of_completes (.spread path) (done_of_follows rfl behind)
    | templateKey mark | keyEnd text bracket template | blockStart | spreadClose reference =>
      obtain ⟨token, rest, split, -⟩ := owed
      cases split

variable (stop) in
theorem pushAll_of_demands {draft : Draft} {tokens : List Token}
    (demands : Demands readings source limit doomed draft tokens) :
    (doomed = false ∧ ∃ last parsed, draft.pushAll limit tokens = .ok last ∧
      last.finish stop = .ok parsed) ∨
    (doomed = true ∧ ∃ span, draft.pushAll limit tokens = .error (.misplacedSpread span)) := by
  induction tokens generalizing draft with
  | nil =>
    have ended : doomed = false ∧ ∃ parsed, draft.finish stop = .ok parsed :=
      finish_of_demands demands
    obtain ⟨sound, parsed, finished⟩ := ended
    exact .inl ⟨sound, draft, parsed, rfl, finished⟩
  | cons token tokens ih =>
    rcases step_of_demands demands with ⟨after, takes, demands⟩ | ⟨sure, span, refused⟩
    · have taken := push_of_takes limit takes
      simp only [pushAll, taken, bind, Except.bind]
      exact ih demands
    · right
      refine ⟨sure, span, ?_⟩
      simp only [pushAll, refused, bind, Except.bind]

end finish

end Draft

namespace Document

open Grammar

variable {readings : Readings} {source : List Char} {limit : Nat}

/-- The tokens of a document of the grammar are read, unless a spread follows the string lines of
a value, and then that is what they are refused for. -/
theorem read_iff_no_spread_absorbed {tokens : List Token} {items : List Item} (stop : Span)
    (derived : IsDocument readings source tokens items) (shallow : nesting items ≤ limit) :
    ((∃ parsed, (Draft.empty.pushAll limit tokens).bind (·.finish stop) = .ok parsed) ↔
      absorbsSpread false items = false) ∧
    (absorbsSpread false items = true →
      ∃ span, Draft.empty.pushAll limit tokens = .error (.misplacedSpread span)) := by
  have demands : Draft.Demands readings source limit (absorbsSpread false items) Draft.empty
      tokens := .owes nofun ⟨items, derived, shallow, rfl⟩
  rcases Draft.pushAll_of_demands stop demands with
    ⟨sound, last, parsed, run, finished⟩ | ⟨sure, span, refused⟩
  · constructor
    · rw [run]
      exact iff_of_true ⟨parsed, finished⟩ sound
    · intro sure
      rw [sound] at sure
      cases sure
  · constructor
    · rw [refused, sure]
      exact iff_of_false nofun nofun
    · intro _
      exact ⟨span, refused⟩

/-- In the first text the spread follows the string line of the entry; in the second there is a
blank line between them. -/
theorem read_iff_no_spread_absorbed_lines :
    (∃ tokens items, tokenize 0 "[k]\n\"a\"\n<<*>>\n" = .ok tokens ∧
      IsDocument documented [] tokens items ∧ nesting items ≤ 0 ∧
      ∃ span, Draft.empty.pushAll 0 tokens = .error (.misplacedSpread span)) ∧
    ∃ tokens items, tokenize 0 "[k]\n\"a\"\n\n<<*>>\n" = .ok tokens ∧
      IsDocument documented [] tokens items ∧ nesting items ≤ 0 ∧
      ∃ parsed, (Draft.empty.pushAll 0 tokens).bind (·.finish default) = .ok parsed := by
  have decodes (span : Span) : Decodes ⟨.stringLiteral, "\"a\"", span⟩ "a" :=
    Json.readLiteral_eq_ok.1 (by cbv)
  have unescapes : Unescapes "k".toList ['k'] := unescapes_iff.2 (by cbv)
  have trims : Trims ['k'] ['k'] := trims_iff.2 (by decide)
  constructor
  · have tree : ∃ tokens, tokenize 0 "[k]\n\"a\"\n<<*>>\n" = .ok tokens ∧
        ∃ items, IsDocument documented [] tokens items ∧ nesting items ≤ 0 ∧
          absorbsSpread false items = true := by
      refine ⟨_, by cbv, _, .cons (.tagged rfl (.simple rfl unescapes trims rfl)
        (.nextLine rfl (.strings (.cons (.pieces (.cons (.literal rfl (decodes _)) .nil)
          (List.cons_ne_nil _ _) (.newline rfl)) .nil) (List.cons_ne_nil _ _))))
        (.cons (.spread (.whole rfl rfl rfl) (.newline rfl)) .nil), ?_, ?_⟩
      · decide
      · rfl
    obtain ⟨tokens, cut, items, derived, shallow, absorbed⟩ := tree
    exact ⟨tokens, items, cut, derived, shallow,
      (read_iff_no_spread_absorbed default derived shallow).2 absorbed⟩
  · have tree : ∃ tokens, tokenize 0 "[k]\n\"a\"\n\n<<*>>\n" = .ok tokens ∧
        ∃ items, IsDocument documented [] tokens items ∧ nesting items ≤ 0 ∧
          absorbsSpread false items = false := by
      refine ⟨_, by cbv, _, .cons (.tagged rfl (.simple rfl unescapes trims rfl)
        (.nextLine rfl (.strings (.cons (.pieces (.cons (.literal rfl (decodes _)) .nil)
          (List.cons_ne_nil _ _) (.newline rfl)) .nil) (List.cons_ne_nil _ _))))
        (.cons (.blank rfl) (.cons (.spread (.whole rfl rfl rfl) (.newline rfl)) .nil)), ?_, ?_⟩
      · decide
      · rfl
    obtain ⟨tokens, cut, items, derived, shallow, sound⟩ := tree
    exact ⟨tokens, items, cut, derived, shallow,
      (read_iff_no_spread_absorbed default derived shallow).1.2 sound⟩

end Document

end ConfigLang
