import ConfigLang.Proofs.Blame.Evaluation
import ConfigLang.Proofs.Syntax.Spans
import ConfigLang.Proofs.Syntax.Step
/-! What an error of reading blames: the character that no token takes, the token that a draft
refuses, a spread that does not stand alone, or the end of the text. With the spans of the tree
being exact, every error of a document points to a stretch of its text. -/
namespace ConfigLang

namespace Draft

inductive Blamed (token : Token) : Awaiting → Span → Prop
  | token (awaiting : Awaiting) : Blamed token awaiting token.span
  | closedSpread (reference : OpenReference) :
      Blamed token (.spreadClose reference) (reference.brackets.through token.span)
  | spread (path : Path) : Blamed token (.spreadEnd path) path.span

section tokens

variable {P : Span → Prop} {token : Token} (own : P token.span)

include own

theorem blames_unexpected {α : Type} (expected : String) :
    Blames P (.error (unexpected token expected) : Except Error α) :=
  .error rfl own rfl

theorem blames_literalText : Blames P (literalText token) := by
  unfold literalText
  cases Json.readLiteral token.text with
  | error fault => exact .error rfl own rfl
  | ok text => exact .ok text

theorem blames_componentText? : Blames P (componentText? token) := by
  unfold componentText?
  split
  · exact .ok _
  · exact (blames_literalText own).map some
  · exact .ok _

theorem blames_pushPiece? (draft : Draft) (place : LinePlace) (elements : List StringElement) :
    Blames P (draft.pushPiece? place elements token) := by
  unfold pushPiece?
  split
  · exact (blames_literalText own).bind fun text _ => .ok _
  · exact .ok _
  · exact .ok _
  · exact .ok _

theorem blames_pieceOr {draft : Draft} {place : LinePlace} {elements : List StringElement}
    {other : Except Error Draft} (others : Blames P other) :
    Blames P (do
      match ← draft.pushPiece? place elements token with
      | some next => return next
      | none => other) := by
  refine (blames_pushPiece? own draft place elements).bind fun piece _ => ?_
  cases piece with
  | some next => exact .ok next
  | none => exact others

theorem blames_openBlock (limit : Nat) (draft : Draft) (entry : Entry) :
    Blames P (draft.openBlock limit entry token) := by
  unfold openBlock
  split
  · exact .error rfl own rfl
  · exact .ok _

theorem blames_pushValueBelow (limit : Nat) (draft : Draft) (entry : Entry) :
    Blames P (draft.pushValueBelow limit entry token) := by
  unfold pushValueBelow
  split
  · exact blames_openBlock own limit draft entry
  · exact blames_pieceOr own (blames_unexpected own _)

theorem blames_pushItem (draft : Draft) : Blames P (draft.pushItem token) := by
  unfold pushItem
  split
  · exact .ok _
  · exact .ok _
  · split
    · exact .ok _
    · split
      · exact .ok _
      · exact .error rfl own rfl
  · exact .ok _
  · exact .ok _
  · split
    · exact blames_unexpected own _
    · exact .ok _
  · exact blames_pieceOr own (blames_unexpected own _)

end tokens

theorem blames_componentOr {P : Span → Prop} {token : Token} (own : P token.span)
    {pass : String → Draft} {other : Except Error Draft} (others : Blames P other) :
    Blames P (do
      match ← componentText? token with
      | some name => return pass name
      | none => other) := by
  refine (blames_componentText? own).bind fun component _ => ?_
  cases component with
  | some name => exact .ok _
  | none => exact others

theorem blames_pushInside (limit : Nat) (draft : Draft) (token : Token) :
    Blames (Blamed token draft.awaiting) (draft.pushInside limit token) := by
  have own : Blamed token draft.awaiting token.span := .token _
  have refuse : Blames (Blamed token draft.awaiting)
      (.error (unexpected token draft.awaiting.expected) : Except Error Draft) :=
    blames_unexpected own _
  obtain ⟨blocks, items, awaiting⟩ := draft
  cases awaiting with
  | item => exact blames_pushItem own _
  | templateName inherit => exact blames_componentOr own refuse
  | stringPiece place elements => exact blames_pieceOr own refuse
  | valueBelow entry => exact blames_pushValueBelow own limit _ entry
  | valueEnd entry value => exact refuse
  | spreadEnd path => exact .error rfl (.spread path) rfl
  | stringLine entry lines => exact blames_pieceOr own (blames_pushItem own _)
  | component reference =>
    simp only [pushInside]
    split
    · exact .ok _
    · exact blames_componentOr own refuse
  | spreadClose reference =>
    simp only [pushInside, closeSpread]
    split
    · split
      · exact .ok _
      · exact .error rfl (.closedSpread reference) rfl
    · exact refuse
  | keyLine key =>
    simp only [pushInside]
    split
    · exact .ok _
    · exact .ok _
    · exact .ok _
    · exact blames_pieceOr own refuse
  | value entry afterMultilineKey =>
    simp only [pushInside]
    split
    · exact .ok _
    · exact blames_openBlock own limit _ entry
    · exact .ok _
    · split
      · exact blames_pushValueBelow own limit _ entry
      · exact refuse
  | commentEnd comment | separator reference =>
    simp only [pushInside]
    split
    · exact .ok _
    · exact .ok _
    · exact refuse
  | key bracket template =>
    simp only [pushInside]
    split
    · exact .ok _
    · exact .ok _
    · exact .ok _
    · exact refuse
  | inheritEnd inherit | templateKey mark | keyEnd text bracket template | blockStart =>
    simp only [pushInside]
    split
    · exact .ok _
    · exact refuse

theorem blames_push (limit : Nat) (draft : Draft) (token : Token) :
    Blames (Blamed token draft.awaiting) (draft.push limit token) := by
  unfold push
  split
  · split <;> exact .ok _
  · split
    · exact .ok _
    · exact blames_pushInside limit draft token
  · exact blames_pushInside limit draft token

/-- The span of a placeholder is still open, or it is that of a spread; so far it lies in the
source, in front of the tokens to come. -/
def Awaiting.Lies (source : List Char) (low : Nat) : Awaiting → Prop
  | .component reference | .separator reference | .spreadClose reference =>
    reference.brackets.Lies source ∧ reference.brackets.range.stop.offset ≤ low
  | .spreadEnd path => path.span.Lies source
  | _ => True

section run

variable {source : List Char} {low high limit : Nat} {token : Token}

theorem Awaiting.Lies.mono {awaiting : Awaiting} (lies : awaiting.Lies source low)
    (le : low ≤ high) : awaiting.Lies source high := by
  cases awaiting with
  | component reference | separator reference | spreadClose reference =>
    exact ⟨lies.1, lies.2.trans le⟩
  | _ => exact lies

theorem lies_of_blamed {awaiting : Awaiting} {span : Span} (blamed : Blamed token awaiting span)
    (placed : token.Placed source) (lies : awaiting.Lies source token.span.range.start.offset) :
    span.Lies source := by
  have ordered := placed.lies.ordered
  cases blamed with
  | token => exact placed.lies
  | closedSpread reference =>
    obtain ⟨brackets, before⟩ := lies
    have starts := brackets.ordered.trans before
    exact brackets.through placed.lies starts (before.trans ordered)
  | spread path => exact lies

theorem lies_of_moves {before after : Awaiting} (moves : Moves token before after)
    (placed : token.Placed source) (lies : before.Lies source token.span.range.start.offset) :
    after.Lies source token.span.range.stop.offset := by
  have ordered := placed.lies.ordered
  cases moves with
  | blanks kind outside => exact lies.mono ordered
  | piece begins starts =>
    cases starts with
    | reference kind => exact ⟨placed.lies, Nat.le_refl _⟩
    | literal kind decoded => trivial
    | plus kind => trivial
  | star kind | component names | dot kind =>
    exact ⟨lies.1, lies.2.trans ordered⟩
  | spread kind place alone => exact lies_of_blamed (.closedSpread _) placed lies
  | _ => trivial

theorem lies_of_takes {before after : Draft} (takes : Takes limit token before after)
    (placed : token.Placed source)
    (lies : before.awaiting.Lies source token.span.range.start.offset) :
    after.awaiting.Lies source token.span.range.stop.offset := by
  induction takes with
  | move moves => exact lies_of_moves moves placed lies
  | valueEnd outside ends taken ih => exact ih trivial
  | blank kind => trivial
  | complete kind completes => trivial
  | opening kind opens room => trivial
  | closing kind => trivial

theorem blames_pushAll {tokens : List Token} {draft : Draft} (ahead : Ahead source low tokens)
    (lies : draft.awaiting.Lies source low) :
    Blames (Span.Lies source) (draft.pushAll limit tokens) := by
  -- the draft never knows a span behind the tokens that it has taken
  induction ahead generalizing draft with
  | nil => exact .ok _
  | cons le placed others ih =>
    have here := lies.mono le
    rw [pushAll]
    refine Blames.bind (fun error failed => ?_) fun next pushed => ?_
    · obtain ⟨⟨span, blames, blamed⟩, inside⟩ := blames_push limit draft _ error failed
      exact ⟨⟨span, blames, lies_of_blamed blamed placed here⟩, inside⟩
    · exact ih (lies_of_takes (takes_of_push pushed) placed here)

theorem unexpectedEnd_of_finish {draft : Draft} {stop : Span} {error : Error}
    (failed : draft.finish stop = .error error) :
    ∃ expected, error = .unexpectedEnd expected stop := by
  simp only [finish] at failed
  split at failed <;> cases failed <;> exact ⟨_, rfl⟩

end run

end Draft

theorem Cursor.blames_unmatched {P : Span → Prop} {cursor : Cursor} {found : Char}
    (here : P ⟨cursor.file, ⟨cursor.position, cursor.position.step found⟩⟩) {α : Type} :
    Blames P (.error (cursor.unmatched found) : Except Error α) := by
  unfold unmatched
  split
  · exact .error rfl here rfl
  · exact .error rfl here rfl

theorem blames_tokenize (text : String) :
    Blames (Span.Lies text.toList) (tokenize 0 text) := by
  simp only [tokenize]
  cases failed : (Scan.ofText 0 text).error? with
  | none => exact .ok _
  | some error =>
    have covers := covers_behind (.start 0 text.toList)
    obtain ⟨found, head, rfl⟩ := Option.map_eq_some_iff.1 failed
    obtain ⟨behind, left⟩ := List.head?_eq_some_iff.1 head
    have file : (Scan.ofText 0 text).last.file = 0 := covers.file
    have position : (Scan.ofText 0 text).last.position =
        Position.start.advance (textOf (Scan.ofText 0 text).tokens) := covers.position
    have rest : text.toList = textOf (Scan.ofText 0 text).tokens ++ found :: behind :=
      left ▸ covers.rest
    have lies := Span.lies_advance (textOf (Scan.ofText 0 text).tokens) [found] behind
    rw [Position.advance_append] at lies
    refine Cursor.blames_unmatched ?_
    rw [file, position, rest]
    exact lies

/-- The error points into the source: to a stretch of its text, counted right, that can be cut
out of it. If the text has ended too soon, that is the empty stretch at its end. -/
structure Error.PointsInto (sources : Sources) (text : String) (error : Error) : Prop where
  span : ∃ span, error.span? = some span ∧ span.Lies text.toList ∧
    ∃ stretch, sources.slice? span = some stretch
  atEnd : ∀ expected span, error = .unexpectedEnd expected span →
    span = ⟨0, .emptyAt (Document.endOf text)⟩

section pointing

variable {filename text : String}

theorem Span.Lies.slice? {span : Span} (lies : span.Lies text.toList) :
    ∃ stretch, (Sources.single filename text).slice? span = some stretch := by
  obtain ⟨middle, sliced⟩ := lies.sliced
  refine ⟨String.ofList middle, ?_⟩
  simp [Sources.slice?, Sources.get?, Sources.single, lies.file, sliced]

theorem Error.Blames.pointsInto {error : Error} (blames : error.Blames (Span.Lies text.toList)) :
    error.PointsInto (.single filename text) text := by
  obtain ⟨⟨span, known, lies⟩, inside⟩ := blames
  refine ⟨⟨span, known, lies, lies.slice?⟩, fun expected span same => ?_⟩
  subst same
  cases inside

theorem Error.pointsInto_unexpectedEnd (expected : String) :
    Error.PointsInto (.single filename text) text
      (.unexpectedEnd expected ⟨0, .emptyAt (Document.endOf text)⟩) := by
  have lies : Span.Lies text.toList ⟨0, .emptyAt (Document.endOf text)⟩ := by
    simpa [Document.endOf, Range.emptyAt] using Span.lies_advance text.toList [] []
  refine ⟨⟨_, rfl, lies, lies.slice?⟩, fun expected span same => ?_⟩
  cases same
  rfl

end pointing

namespace Document

theorem pointsInto_of_parseItems {filename text : String} {limit : Nat} {error : Error}
    (failed : parseItems limit text = .error error) :
    error.PointsInto (.single filename text) text := by
  simp only [parseItems] at failed
  cases cut : tokenize 0 text with
  | error fault =>
    rw [cut] at failed
    cases failed
    exact (blames_tokenize text _ cut).pointsInto
  | ok tokens =>
    rw [cut] at failed
    cases built : Draft.empty.pushAll limit tokens with
    | error fault =>
      simp only [bind, Except.bind, built] at failed
      cases failed
      have start : Draft.empty.awaiting.Lies text.toList 0 := trivial
      have blames := Draft.blames_pushAll (ahead_of_tokenize cut) start _ built
      exact blames.pointsInto
    | ok draft =>
      simp only [bind, Except.bind, built] at failed
      obtain ⟨expected, rfl⟩ := Draft.unexpectedEnd_of_finish failed
      exact Error.pointsInto_unexpectedEnd expected

/-- Whatever goes wrong, the error points into the source: an error of reading a text, and one of
evaluating what was read from it, to whatever depth and with whatever argument. -/
theorem errors_point_inside (filename : String) (limit : Nat) (text : String) :
    (∀ error, parse filename limit text = .error error →
      error.PointsInto (.single filename text) text) ∧
    ∀ document, parse filename limit text = .ok document →
      ∀ depth argument error, document.evaluate depth argument = .error error →
        error.PointsInto document.sources text := by
  constructor
  · intro error failed
    cases read : parseItems limit text with
    | error fault =>
      rw [parse, read] at failed
      cases failed
      exact pointsInto_of_parseItems read
    | ok items =>
      rw [parse, read] at failed
      cases failed
  · intro document parsed depth argument error failed
    have inside := outline_lies (sound_layout parsed)
    obtain ⟨items, _, same⟩ := except_bind_eq_ok.1 parsed
    cases same
    exact (blames_evaluate inside depth argument error failed).pointsInto

theorem errors_point_inside_second_line :
    (∃ error, parse "key" 1 "- é\n[a" = .error error ∧
      error.PointsInto (.single "key" "- é\n[a") "- é\n[a") ∧
    ∃ document, parse "line" 1 "- é\n<<a>>\n" = .ok document ∧
      ∃ error, document.evaluate 1 none = .error error ∧
        error.PointsInto document.sources "- é\n<<a>>\n" := by
  have failed : ∃ error, parse "key" 1 "- é\n[a" = .error error := ⟨_, by cbv⟩
  have parsed : ∃ document, parse "line" 1 "- é\n<<a>>\n" = .ok document ∧
      ∃ error, document.evaluate 1 none = .error error := ⟨_, by cbv, _, by cbv⟩
  obtain ⟨error, failed⟩ := failed
  obtain ⟨document, parsed, fault, missing⟩ := parsed
  have here := (errors_point_inside "key" 1 "- é\n[a").1 error failed
  have there := (errors_point_inside "line" 1 "- é\n<<a>>\n").2 document parsed 1 none fault missing
  exact ⟨⟨error, failed, here⟩, document, parsed, fault, missing, there⟩

end Document

end ConfigLang
