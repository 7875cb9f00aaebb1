import ConfigLang.Proofs.Descent.Outcome
import ConfigLang.Proofs.Descent.Rules
/-! Following a draft. Each program of the builder is tied to the drafts that it may start at: what
comes of such a draft in front of the program comes of another one behind it, and an error of the
program is what comes of the draft. The blocks of the draft are those that the program counts. -/
namespace ConfigLang

namespace Draft

def addLine (draft : Draft) (line : StringLine) : LinePlace → Draft
  | .item => draft.add (.strings line)
  | .key key => draft.await (.keyLine { key with lines := .strings line :: key.lines })
  | .value entry lines => draft.await (.stringLine entry (line :: lines))

def addComment (draft : Draft) (comment : Comment) : Option OpenKey → Draft
  | none => draft.add (.comment comment)
  | some key => draft.await (.keyLine { key with lines := .comment comment :: key.lines })

def Awaiting.inside : Option OpenKey → Awaiting
  | none => .item
  | some before => .keyLine before

def Awaiting.tag : Option Span → Awaiting
  | none => .item
  | some mark => .templateKey mark

/-- Only the first piece of a line that is an item may be a spread. -/
def LinePlace.allowsSpread : LinePlace → List StringElement → Bool
  | .item, [] => true
  | _, _ => false

def addReference (draft : Draft) (place : LinePlace) (elements : List StringElement) :
    Descent.Reference → Except Error Draft
  | .placeholder path => .ok (draft.await (.stringPiece place (.placeholder path :: elements)))
  | .spread path =>
    if place.allowsSpread elements then .ok (draft.await (.spreadEnd path))
    else .error (.misplacedSpread path.span)

structure AddsPieces (limit : Nat) (draft : Draft) (place : LinePlace)
    (elements : List StringElement) : Prop where
  gap : ∀ gap, draft.withGap gap = draft
  literal : ∀ text span, draft.push limit ⟨.stringLiteral, text, span⟩ =
    (literalText ⟨.stringLiteral, text, span⟩).map fun text =>
      draft.await (.stringPiece place (.literal text span :: elements))
  plus : ∀ text span, draft.push limit ⟨.plus, text, span⟩ =
    .ok (draft.await (.stringPiece place (.plus span :: elements)))
  reference : ∀ text span, draft.push limit ⟨.openAngled, text, span⟩ =
    .ok (draft.await (.component ⟨place, elements, span, []⟩))

structure OpensBlock (limit : Nat) (draft : Draft) (entry : Entry) : Prop where
  gap : ∀ gap, draft.withGap gap = draft
  brace : ∀ text span, draft.push limit ⟨.openCurly, text, span⟩ =
    draft.openBlock limit entry ⟨.openCurly, text, span⟩

end Draft

namespace Descent

open Draft

variable {α β : Type}

def nextOf (tokens : List Token) : Option Token := (tokens.dropWhile (!·.isSignificant)).head?

/-- There comes what comes of the draft after the answer; or the error. `stops` is known of the
token in front of which the program has stopped. -/
def Leads (limit : Nat) (stop : Span) (result : Except Error (List Item))
    (stops : α → Option Token → Prop) (after : α → Except Error Draft) :
    Except Error (α × List Token) → Prop
  | .ok (a, rest) => stops a (nextOf rest) ∧
      result = (after a).bind fun draft => draft.outcome limit stop rest
  | .error error => result = .error error

def Place.Sees (kind : Token.Kind) (place : Place) : Prop :=
  ∃ text span, place.next? = some ⟨kind, text, span⟩

def seesPiece (token? : Option Token) : Bool := token?.any fun token => startsPiece token.kind

def Place.component (stop : Span) (expected : String) (place : Place) :
    Except Error ((String × Span) × List Token) :=
  match place.next? with
  | none => .error (place.refusal stop expected)
  | some token => (componentText? token).bind fun
    | some name => .ok ((name, token.span), place.pass.rest)
    | none => .error (unexpected token expected)

/-- The drafts that a call may start at, and those that it leads to. -/
def following (limit : Nat) (stop : Span) : Contract Call.Answer
  | .items inBlock before, place, outcome => ∀ blocks : List OpenBlock,
      blocks.length = place.depth → inBlock = !blocks.isEmpty →
      Leads limit stop (Draft.outcome limit stop ⟨blocks, before, .item⟩ place.rest)
        (fun _ next? => next?.map (·.kind) = if inBlock then some .closeCurly else none)
        (fun items => .ok ⟨blocks, items.reverse, .item⟩) outcome
  | .item, place, outcome => ∀ draft : Draft, draft.awaiting = .item →
      draft.blocks.length = place.depth →
      (∃ token, place.next? = some token ∧ token.kind ≠ .closeCurly) →
      Leads limit stop (draft.outcome limit stop place.rest) (fun _ _ => True)
        (fun item => .ok (draft.add item)) outcome
  | .comment, place, outcome => ∀ (draft : Draft) (key? : Option OpenKey),
      draft.awaiting = .inside key? → place.Sees .hash →
      Leads limit stop (draft.outcome limit stop place.rest) (fun _ _ => True)
        (fun comment => .ok (draft.addComment comment key?)) outcome
  | .commentText span text, place, outcome => ∀ (draft : Draft) (key? : Option OpenKey),
      Leads limit stop
        ((draft.await (.commentEnd ⟨key?, span, text⟩)).outcome limit stop place.rest)
        (fun _ _ => True) (fun comment => .ok (draft.addComment comment key?)) outcome
  | .directive, place, outcome => ∀ draft : Draft, draft.awaiting = .item →
      draft.blocks.length = place.depth → place.Sees .directive →
      Leads limit stop (draft.outcome limit stop place.rest) (fun _ _ => True)
        (fun item => .ok (draft.add item)) outcome
  | .templatePath inherit, place, outcome => ∀ draft : Draft,
      Leads limit stop ((draft.await (.templateName inherit)).outcome limit stop place.rest)
        (fun _ next? => next?.any (·.kind = .dot) = false)
        (fun inherit => .ok (draft.await (.inheritEnd inherit))) outcome
  | .component expected, place, outcome => outcome = place.component stop expected
  | .reference, place, outcome => ∀ (draft : Draft) (linePlace : LinePlace)
      (elements : List StringElement), draft.AddsPieces limit linePlace elements →
      place.Sees .openAngled →
      Leads limit stop (draft.outcome limit stop place.rest) (fun _ _ => True)
        (draft.addReference linePlace elements) outcome
  | .components brackets before, place, outcome => ∀ (draft : Draft) (linePlace : LinePlace)
      (elements : List StringElement),
      Leads limit stop
        ((draft.await (.component ⟨linePlace, elements, brackets, before⟩)).outcome limit stop
          place.rest)
        (fun _ _ => True) (draft.addReference linePlace elements) outcome
  | .element, place, outcome => ∀ (draft : Draft) (linePlace : LinePlace)
      (elements : List StringElement), draft.AddsPieces limit linePlace elements →
      seesPiece place.next? = true →
      (place.Sees .openAngled → linePlace.allowsSpread elements = false) →
      Leads limit stop (draft.outcome limit stop place.rest) (fun _ _ => True)
        (fun piece => .ok (draft.await (.stringPiece linePlace (piece :: elements)))) outcome
  | .line first?, place, outcome => ∀ (draft : Draft) (linePlace : LinePlace),
      draft.AddsPieces limit linePlace first?.toList →
      (seesPiece place.next? = true ∨
        first?.toList ≠ [] ∧ draft.awaiting = .stringPiece linePlace first?.toList) →
      (place.Sees .openAngled → linePlace.allowsSpread first?.toList = false) →
      Leads limit stop (draft.outcome limit stop place.rest) (fun _ _ => True)
        (fun line => .ok (draft.addLine line linePlace)) outcome
  | .pieces before, place, outcome => ∀ (draft : Draft) (linePlace : LinePlace),
      draft.AddsPieces limit linePlace before →
      (seesPiece place.next? = true ∨
        before ≠ [] ∧ draft.awaiting = .stringPiece linePlace before) →
      (place.Sees .openAngled → linePlace.allowsSpread before = false) →
      Leads limit stop (draft.outcome limit stop place.rest)
        (fun pieces next? => pieces ≠ [] ∧ seesPiece next? = false)
        (fun pieces => .ok (draft.await (.stringPiece linePlace pieces))) outcome
  | .tagged mark?, place, outcome => ∀ draft : Draft, draft.awaiting = .tag mark? →
      draft.blocks.length = place.depth → place.Sees .openSquare →
      Leads limit stop (draft.outcome limit stop place.rest) (fun _ _ => True)
        (fun item => .ok (draft.add item)) outcome
  | .key bracket, place, outcome => ∀ (draft : Draft) (mark? : Option Span),
      Leads limit stop ((draft.await (.key bracket mark?)).outcome limit stop place.rest)
        (fun _ _ => True)
        (fun key => .ok (draft.await (.value (.tagged key mark? (mark?.getD bracket))
          (Grammar.isMultiline key)))) outcome
  | .keyLines bracket before, place, outcome => ∀ (draft : Draft) (mark? : Option Span),
      Leads limit stop
        ((draft.await (.keyLine ⟨bracket, mark?, before⟩)).outcome limit stop place.rest)
        (fun _ _ => True)
        (fun key => .ok (draft.await (.value (.tagged key mark? (mark?.getD bracket))
          (Grammar.isMultiline key)))) outcome
  | .value afterMultilineKey, place, outcome => ∀ (draft : Draft) (entry : Entry),
      draft.blocks.length = place.depth →
      Leads limit stop
        ((draft.await (.value entry afterMultilineKey)).outcome limit stop place.rest)
        (fun _ _ => True) (fun value => .ok (draft.add (entry.item value))) outcome
  | .lowerValue, place, outcome => ∀ (draft : Draft) (entry : Entry),
      draft.blocks.length = place.depth →
      Leads limit stop ((draft.await (.valueBelow entry)).outcome limit stop place.rest)
        (fun _ _ => True) (fun value => .ok (draft.add (entry.item value))) outcome
  | .lines before, place, outcome => ∀ (draft : Draft) (entry : Entry),
      draft.AddsPieces limit (.value entry before) [] →
      (seesPiece place.next? = true ∨
        before ≠ [] ∧ draft.awaiting = .stringLine entry before) →
      Leads limit stop (draft.outcome limit stop place.rest)
        (fun lines next? => lines ≠ [] ∧ seesPiece next? = false)
        (fun lines => .ok (draft.await (.stringLine entry lines))) outcome
  | .block, place, outcome => ∀ (draft : Draft) (entry : Entry), draft.OpensBlock limit entry →
      draft.blocks.length = place.depth → place.Sees .openCurly →
      Leads limit stop (draft.outcome limit stop place.rest) (fun _ _ => True)
        (fun value => .ok (draft.add (entry.item value))) outcome
  | .blockItems brace, place, outcome => ∀ (draft : Draft) (entry : Entry),
      draft.blocks.length + 1 = place.depth →
      Leads limit stop (Draft.outcome limit stop
          ⟨⟨entry, brace, draft.items⟩ :: draft.blocks, [], .blockStart⟩ place.rest)
        (fun _ _ => True) (fun value => .ok (draft.add (entry.item value))) outcome

/-! ### The steps of a program that follows a draft -/

section steps

open Builder

variable {limit : Nat} {stop : Span} {draft next : Draft} {place : Place} {token : Token}
  {expected : String} {result : Except Error (List Item)} {stops : α → Option Token → Prop}
  {after : α → Except Error Draft}

/-- The program follows a draft that comes to `result`, if its calls follow theirs. -/
abbrev Agrees (limit : Nat) (stop : Span) (program : Builder α) (place : Place)
    (result : Except Error (List Item)) (stops : α → Option Token → Prop)
    (after : α → Except Error Draft) : Prop :=
  program.Meets limit (fun _ _ => True) (following limit stop) place
    (Leads limit stop result stops after)

theorem Place.kind_ne (starts : place.next? = some token) : token.kind ≠ .whitespace := by
  have first := List.head?_dropWhile_not (!·.isSignificant) place.rest
  rw [← visible, ← next?, starts] at first
  simpa [Token.isSignificant] using first

theorem outcome_refused (starts : place.next? = some token)
    (refused : (draft.withGap place.gap).push limit token = .error (unexpected token expected)) :
    draft.outcome limit stop place.rest = .error (place.refusal stop expected) := by
  rw [Place.refusal, starts]
  exact outcome_of_refused starts refused

theorem outcome_ended (ends : place.next? = none)
    (refused : (draft.withGap place.gap).finish stop = .error (.unexpectedEnd expected stop)) :
    draft.outcome limit stop place.rest = .error (place.refusal stop expected) := by
  rw [Place.refusal, ends, outcome_none ends, refused]

theorem outcome_refusal (gap : ∀ gap, draft.withGap gap = draft)
    (ends : draft.finish stop = .error (.unexpectedEnd expected stop))
    (refused : ∀ token, place.next? = some token →
      draft.push limit token = .error (unexpected token expected)) :
    draft.outcome limit stop place.rest = .error (place.refusal stop expected) := by
  cases starts : place.next? with
  | none => exact outcome_ended starts (by rw [gap, ends])
  | some token => exact outcome_refused starts (by rw [gap, refused token starts])

theorem withGap_of_settled (settled : draft.endLine? = none) (gap : List Char) :
    draft.withGap gap = draft := by
  obtain ⟨blocks, items, awaiting⟩ := draft
  cases awaiting with
  | commentEnd comment =>
    obtain ⟨key?, span, text⟩ := comment
    cases key? <;> cases settled
  | _ => rfl

theorem finish_of_endLine? (ends : draft.endLine? = some next) (settled : next.endLine? = none) :
    draft.finish stop = next.finish stop := by
  rw [finish, finish, ends, settled]
  rfl

theorem push_newline (ends : draft.endLine? = some next) (kind : token.kind = .newline) :
    draft.push limit token = .ok next := by
  rw [push, kind]
  simp only [ends]

theorem push_inside (visible : token.kind ≠ .whitespace)
    (inside : token.kind ≠ .newline ∨ draft.endLine? = none) :
    draft.push limit token = draft.pushInside limit token := by
  obtain ⟨kind, text, span⟩ := token
  rw [push]
  cases kind
  case whitespace => exact absurd rfl visible
  case newline => simp only [inside.resolve_left (absurd rfl)]
  all_goals rfl

theorem outcome_of_endLine? (finished : place.next? = none)
    (ends : (draft.withGap place.gap).endLine? = some next) (settled : next.endLine? = none) :
    draft.outcome limit stop place.rest = next.outcome limit stop place.rest := by
  rw [outcome_none finished, outcome_none finished, finish_of_endLine? ends settled,
    withGap_of_settled settled]

theorem agrees_lineEnd {a : α} (next : Draft)
    (ends : (draft.withGap place.gap).endLine? = some next)
    (settled : next.endLine? = none)
    (refused : ∀ token, place.next? = some token → token.kind ≠ .newline →
      (draft.withGap place.gap).push limit token = .error (unexpected token expected))
    (stopped : ∀ next?, stops a next?) (same : after a = .ok next) :
    Agrees limit stop (lineEnd stop expected >>= fun _ => pure a) place
      (draft.outcome limit stop place.rest) stops after := by
  refine meets_lineEnd (fun finished => ⟨stopped _, ?_⟩) (fun token starts kind => ⟨stopped _, ?_⟩)
    fun token starts other => outcome_refused starts (refused token starts other)
  · rw [same, outcome_of_endLine? finished ends settled]
    rfl
  · rw [same, outcome_of_push _ starts (push_newline ends kind)]
    rfl

theorem agrees_expect {kind : Token.Kind} {f : Token → Builder α}
    (gap : ∀ gap, draft.withGap gap = draft)
    (taken : ∀ text span, place.next? = some ⟨kind, text, span⟩ →
      Agrees limit stop (f ⟨kind, text, span⟩) place.pass (draft.outcome limit stop place.rest)
        stops after)
    (ends : draft.finish stop = .error (.unexpectedEnd expected stop))
    (refused : ∀ token, token.kind ≠ .whitespace → token.kind ≠ kind →
      draft.push limit token = .error (unexpected token expected)) :
    Agrees limit stop (expect stop kind expected >>= f) place
      (draft.outcome limit stop place.rest) stops after := by
  refine meets_expect (fun token starts same => ?_) fun other => outcome_refusal gap ends ?_
  · subst same
    exact taken _ _ starts
  · exact fun token starts => refused token (Place.kind_ne starts) (other token starts)

theorem agrees_expect_seen {kind : Token.Kind} {text : String} {span : Span} {f : Token → Builder α}
    (starts : place.next? = some ⟨kind, text, span⟩)
    (taken : Agrees limit stop (f ⟨kind, text, span⟩) place.pass result stops after) :
    Agrees limit stop (expect stop kind expected >>= f) place result stops after := by
  refine meets_expect (fun token starts' _ => ?_) fun other => absurd rfl (other _ starts)
  cases starts.symm.trans starts'
  exact taken

theorem agrees_bind {c : Call} {f : c.Answer → Builder α}
    {stops' : c.Answer → Option Token → Prop} {after' : c.Answer → Except Error Draft}
    (called : ∀ outcome, following limit stop c place outcome →
      Leads limit stop result stops' after' outcome)
    (answered : ∀ answer rest, stops' answer (nextOf rest) →
      Agrees limit stop (f answer) { place with rest }
        ((after' answer).bind fun draft => draft.outcome limit stop rest) stops after) :
    Agrees limit stop (ask c >>= f) place result stops after := by
  refine meets_ask_bind trivial (fun error given => called _ given)
    fun answer rest given _ => ?_
  obtain ⟨stopped, same⟩ := called _ given
  rw [same]
  exact answered answer rest stopped

theorem agrees_ask_bind {c : Call} {f : c.Answer → Builder α}
    {stops' : c.Answer → Option Token → Prop} {next : c.Answer → Draft}
    (called : ∀ outcome, following limit stop c place outcome →
      Leads limit stop result stops' (fun answer => .ok (next answer)) outcome)
    (answered : ∀ answer rest, stops' answer (nextOf rest) →
      Agrees limit stop (f answer) { place with rest } ((next answer).outcome limit stop rest)
        stops after) :
    Agrees limit stop (ask c >>= f) place result stops after :=
  agrees_bind called answered

theorem agrees_ask {c : Call} {stops : c.Answer → Option Token → Prop}
    {after : c.Answer → Except Error Draft}
    (called : ∀ outcome, following limit stop c place outcome →
      Leads limit stop result stops after outcome) :
    Agrees limit stop (ask c) place result stops after :=
  meets_ask trivial (fun _ given => called _ given) fun _ _ given _ => called _ given

theorem leads_component (next : String × Span → Draft) (gap : ∀ gap, draft.withGap gap = draft)
    (ends : draft.finish stop = .error (.unexpectedEnd expected stop))
    (takes : ∀ token, place.next? = some token →
      draft.push limit token = (componentText? token).bind fun
        | some name => .ok (next (name, token.span))
        | none => .error (unexpected token expected)) :
    ∀ outcome, outcome = place.component stop expected →
      Leads limit stop (draft.outcome limit stop place.rest) (fun _ _ => True)
        (fun named => .ok (next named)) outcome := by
  rintro _ rfl
  rw [Place.component]
  cases starts : place.next? with
  | none => exact outcome_ended starts (by rw [gap, ends])
  | some token =>
    have taken := takes token starts
    rw [← gap place.gap] at taken
    cases named : componentText? token with
    | error error =>
      simp only [named, Except.bind] at taken ⊢
      exact outcome_of_refused starts taken
    | ok name? =>
      cases name? with
      | none =>
        simp only [named, Except.bind] at taken ⊢
        exact outcome_of_refused starts taken
      | some name =>
        simp only [named, Except.bind] at taken ⊢
        exact ⟨trivial, outcome_of_push _ starts taken⟩

theorem agrees_unexpected (refused : result = .error (place.refusal stop expected)) :
    Agrees limit stop (unexpected stop expected) place result stops after :=
  meets_unexpected.2 refused

theorem Place.sees_of_any {kind : Token.Kind} (seen : place.next?.any (·.kind = kind) = true) :
    place.Sees kind := by
  obtain ⟨⟨kind', text, span⟩, starts, same⟩ := (Option.any_eq_true _ _).1 seen
  cases of_decide_eq_true same
  exact ⟨text, span, starts⟩

theorem outcome_congr {draft' : Draft} (gap : ∀ gap, draft.withGap gap = draft)
    (gap' : ∀ gap, draft'.withGap gap = draft')
    (ends : place.next? = none → draft.finish stop = draft'.finish stop)
    (pushed : ∀ token, place.next? = some token →
      draft.push limit token = draft'.push limit token) :
    draft.outcome limit stop place.rest = draft'.outcome limit stop place.rest := by
  cases starts : place.next? with
  | none => rw [outcome_none starts, outcome_none starts, gap, gap', ends starts]
  | some token => rw [outcome_some starts, outcome_some starts, gap, gap', pushed token starts]

theorem outcome_value (draft : Draft) (entry : Entry) (starts : place.next? = some token)
    (below : token.kind ≠ .line ∧ token.kind ≠ .newline) :
    (draft.await (.value entry true)).outcome limit stop place.rest =
      (draft.await (.valueBelow entry)).outcome limit stop place.rest := by
  refine outcome_congr (fun _ => rfl) (fun _ => rfl) (by simp [starts]) fun token' starts' => ?_
  cases starts.symm.trans starts'
  obtain ⟨kind, text, span⟩ := token
  cases kind
  case whitespace => exact absurd rfl (Place.kind_ne starts)
  case line => exact absurd rfl below.1
  case newline => exact absurd rfl below.2
  all_goals rfl

theorem outcome_stringLine (place : Place) (draft : Draft) (entry : Entry) (lines : List StringLine)
    (ends : seesPiece place.next? = false) :
    (draft.await (.stringLine entry lines)).outcome limit stop place.rest =
      (draft.add (entry.item (stringValue lines))).outcome limit stop place.rest := by
  refine outcome_congr (fun _ => rfl) (fun _ => rfl) (fun _ => rfl) fun token starts => ?_
  rw [starts] at ends
  obtain ⟨kind, text, span⟩ := token
  cases kind
  case whitespace => exact absurd rfl (Place.kind_ne starts)
  all_goals first | rfl | cases ends

end steps

/-! ### Drafts that add pieces and open blocks -/

section drafts

variable {limit : Nat} {stop : Span} {draft : Draft} {place : Place}

theorem literal_bind (token : Token) (next : String → Draft) (other : Except Error Draft) :
    ((literalText token).bind fun text => Except.ok (some (next text))).bind
      (fun | some draft => .ok draft | none => other) = (literalText token).map next := by
  cases literalText token <;> rfl

theorem addsPieces_item (awaiting : draft.awaiting = .item) :
    draft.AddsPieces limit .item [] where
  gap _ := by simp only [withGap, awaiting]
  literal text span := by
    simp only [push, pushInside, awaiting]
    exact literal_bind _ _ _
  plus _ _ := by simp only [push, pushInside, awaiting]; rfl
  reference _ _ := by simp only [push, pushInside, awaiting]; rfl

theorem addsPieces_keyLine (draft : Draft) (key : OpenKey) :
    (draft.await (.keyLine key)).AddsPieces limit (.key key) [] where
  gap _ := rfl
  literal _ _ := literal_bind _ _ _
  plus _ _ := rfl
  reference _ _ := rfl

theorem addsPieces_stringPiece (draft : Draft) (linePlace : LinePlace)
    (elements : List StringElement) :
    (draft.await (.stringPiece linePlace elements)).AddsPieces limit linePlace elements where
  gap _ := rfl
  literal _ _ := literal_bind _ _ _
  plus _ _ := rfl
  reference _ _ := rfl

theorem addsPieces_valueBelow (draft : Draft) (entry : Entry) :
    (draft.await (.valueBelow entry)).AddsPieces limit (.value entry []) [] where
  gap _ := rfl
  literal _ _ := literal_bind _ _ _
  plus _ _ := rfl
  reference _ _ := rfl

theorem addsPieces_stringLine (draft : Draft) (entry : Entry) (lines : List StringLine) :
    (draft.await (.stringLine entry lines)).AddsPieces limit (.value entry lines) [] where
  gap _ := rfl
  literal _ _ := literal_bind _ _ _
  plus _ _ := rfl
  reference _ _ := rfl

theorem opensBlock_value (draft : Draft) (entry : Entry) (afterMultilineKey : Bool) :
    (draft.await (.value entry afterMultilineKey)).OpensBlock limit entry where
  gap _ := rfl
  brace _ _ := rfl

theorem opensBlock_valueBelow (draft : Draft) (entry : Entry) :
    (draft.await (.valueBelow entry)).OpensBlock limit entry where
  gap _ := rfl
  brace _ _ := rfl

end drafts

end Descent

end ConfigLang
