import ConfigLang.Proofs.Redaction.Reading
import ConfigLang.Proofs.Reading.Earlier
import ConfigLang.Proofs.Reading.Modes
/-! Reading behind other text. If whole lines stand in front of a text, all its positions are moved
past them. The same tokens are cut off it there, at the moved spans, and the same tree is built, so
what it is read as is moved as well, and so is the error that it may be. -/
namespace ConfigLang

namespace Position

def past (front : List Char) (p : Position) : Position :=
  ⟨p.offset + Text.byteLength front, p.row + front.count '\n', p.column⟩

variable (front : List Char) (p q : Position)

theorem step_past (c : Char) : (p.past front).step c = (p.step c).past front := by
  unfold step past
  split <;> simp only [Position.mk.injEq, and_true] <;> omega

theorem advance_past (text : List Char) :
    (p.past front).advance text = (p.advance text).past front := by
  induction text generalizing p with
  | nil => rfl
  | cons c text ih => rw [advance_cons, advance_cons, step_past, ih]

theorem compare_past : (p.past front).compare (q.past front) = p.compare q := by
  have moved (a b n : Nat) : Ord.compare (a + n) (b + n) = Ord.compare a b := by
    simp [Nat.compare_eq_ite_lt]
  simp only [compare, past, moved]

theorem min_past : (p.past front).min (q.past front) = (p.min q).past front := by
  rw [min, min, compare_past]
  split <;> rfl

theorem max_past : (p.past front).max (q.past front) = (p.max q).past front := by
  rw [max, max, compare_past]
  split <;> rfl

theorem row_advance (text : List Char) : (p.advance text).row = p.row + text.count '\n' := by
  induction text generalizing p with
  | nil => rfl
  | cons c text ih =>
    rw [advance_cons, ih, List.count_cons, step]
    by_cases newline : c = '\n'
    · simp [newline]
      omega
    · simp [newline]

theorem advance_start (whole : front = [] ∨ front.getLast? = some '\n') :
    start.advance front = start.past front := by
  have row := row_advance start front
  have offset := offset_advance start front
  have column : (start.advance front).column = 0 := by
    rcases whole with rfl | last
    · rfl
    · obtain ⟨lines, rfl⟩ := List.getLast?_eq_some_iff.1 last
      rw [advance_append]
      rfl
  rw [past, ← row, ← offset]
  exact congrArg (Position.mk _ _) column

end Position

namespace Span

def past (front : List Char) (span : Span) : Span :=
  ⟨span.file, ⟨span.range.start.past front, span.range.stop.past front⟩⟩

theorem through_past (front : List Char) (a b : Span) :
    (a.through b).past front = (a.past front).through (b.past front) := by
  unfold through
  split
  · next same =>
    rw [if_pos (by exact same)]
    simp only [past, Range.cover, Position.min_past, Position.max_past]
  · next other => rw [if_neg (by exact other)]

end Span

def Redaction.past (front : List Char) : Redaction := ⟨Span.past front, true⟩

theorem Redaction.rigid_past (front : List Char) : (past front).Rigid :=
  ⟨rfl, Span.through_past front⟩

def Token.past (front : List Char) (token : Token) : Token :=
  { token with span := token.span.past front }

namespace Cursor

def past (front : List Char) (cursor : Cursor) : Cursor :=
  { cursor with position := cursor.position.past front }

variable (front : List Char) (cursor : Cursor) (rule : Rule) (n : Nat)

theorem token_past : (cursor.past front).token rule n = (cursor.token rule n).past front := by
  simp only [token, Token.past, Span.past, past, Position.advance_past]

theorem pass_past : (cursor.past front).pass rule n = (cursor.pass rule n).past front := by
  simp only [pass, past, Position.advance_past]

theorem unmatched_past (found : Char) :
    (cursor.past front).unmatched found = (cursor.unmatched found).mapSpan (Span.past front) := by
  simp only [unmatched, past, Position.step_past]
  split <;> rfl

end Cursor

namespace Scan

theorem behind_past (front : List Char) (cursor : Cursor) :
    (behind (cursor.past front)).tokens = (behind cursor).tokens.map (Token.past front) ∧
      (behind (cursor.past front)).last = (behind cursor).last.past front := by
  induction size : cursor.rest.length using Nat.strongRecOn generalizing cursor with
  | _ size ih =>
    subst size
    cases fits : cursor.fitting? with
    | none =>
      have fits' : (cursor.past front).fitting? = none := fits
      rw [Reading.behind_of_misfit fits, Reading.behind_of_misfit fits']
      exact ⟨rfl, rfl⟩
    | some fit =>
      obtain ⟨rule, n⟩ := fit
      have fits' : (cursor.past front).fitting? = some (rule, n) := fits
      obtain ⟨tokens, last⟩ := Reading.behind_of_fits fits
      obtain ⟨tokens', last'⟩ := Reading.behind_of_fits fits'
      obtain ⟨later, ends⟩ := ih _ (Cursor.length_pass fits) (cursor.pass rule n) rfl
      rw [tokens, tokens', last, last', Cursor.token_past, Cursor.pass_past, later, ends]
      exact ⟨rfl, rfl⟩

theorem error?_past (front : List Char) (cursor : Cursor) :
    (behind (cursor.past front)).error? =
      (behind cursor).error?.map (·.mapSpan (Span.past front)) := by
  have last := (behind_past front cursor).2
  rw [error?, error?, last, Option.map_map]
  exact congrArg (Option.map · _) (funext (Cursor.unmatched_past front _))

end Scan

namespace Draft

open Redaction

variable {limit : Nat} {draft next : Draft} {token : Token}

/-- A line that may end has got a piece, and a value that may end has got a line. -/
theorem filled_of_takes (takes : Takes limit token draft next) (filled : Filled draft.awaiting) :
    Filled next.awaiting := by
  induction takes with
  | move moves =>
    cases moves with
    | blanks => exact filled
    | piece begins starts => cases starts <;> first | exact List.cons_ne_nil _ _ | trivial
    | placeholder | valueLineEnd => exact List.cons_ne_nil _ _
    | _ => trivial
  | valueEnd outside ends taken ih => exact ih trivial
  | _ => trivial

theorem push_newline (limit : Nat) (draft : Draft) (text text' : String) (span : Span) :
    draft.push limit ⟨.newline, text, span⟩ = draft.push limit ⟨.newline, text', span⟩ := by
  obtain ⟨blocks, items, awaiting⟩ := draft
  cases awaiting <;> rfl

theorem push_past (front : List Char) (limit : Nat) (draft : Draft) (token : Token) :
    draft.push limit (token.past front) =
      draft.push limit ((Redaction.past front).token token) := by
  obtain ⟨kind, text, span⟩ := token
  cases kind with
  | newline => exact push_newline limit draft text "" _
  | _ => rfl

theorem mirrors_pushAll (front : List Char) (limit : Nat) (filled : Filled draft.awaiting)
    (tokens : List Token) :
    (Redaction.past front).MirrorsDraft (draft.pushAll limit tokens)
      (((Redaction.past front).draft draft).pushAll limit (tokens.map (Token.past front))) := by
  induction tokens generalizing draft with
  | nil => exact (rfl : _ = _)
  | cons token tokens ih =>
    have taken := mirrors_push (rigid_past front) limit (.inr filled) token
    rw [List.map_cons, pushAll, pushAll, push_past]
    obtain ⟨next, _, here, there, rfl⟩ | ⟨fault, here, there⟩ := taken.outcomes
    · rw [here, there]
      exact ih (filled_of_takes (takes_of_push here) filled)
    · rw [here, there]
      exact rfl

theorem filled_of_pushAll {last : Draft} {tokens : List Token} (filled : Filled draft.awaiting)
    (taken : draft.pushAll limit tokens = .ok last) : Filled last.awaiting := by
  induction tokens generalizing draft with
  | nil =>
    cases taken
    exact filled
  | cons token tokens ih =>
    obtain ⟨next, here, later⟩ := except_bind_eq_ok.1 taken
    exact ih (filled_of_takes (takes_of_push here) filled) later

end Draft

namespace Reading

def State.outcome (limit : Nat) (stop : Span) (state : State) : Except Error (List Item) :=
  let scan := Scan.behind state.cursor
  match scan.error? with
  | some error => .error error
  | none => do (← state.draft.pushAll limit scan.tokens).finish stop

theorem parseItems_eq (limit : Nat) (text : String) :
    Document.parseItems limit text =
      State.outcome limit ⟨0, .emptyAt (Document.endOf text)⟩ ⟨.start 0 text.toList, .empty⟩ := by
  simp only [Document.parseItems, tokenize, Scan.ofText, State.outcome]
  cases (Scan.behind (.start 0 text.toList)).error? <;> rfl

theorem outcome_of_run {limit : Nat} {a b : State} (run : Run limit a b) (stop : Span) :
    a.outcome limit stop = b.outcome limit stop := by
  obtain ⟨built, last⟩ := pushAll_behind run
  simp only [State.outcome, Scan.error?, built, last]

/-- The text is read behind other lines, and the items in front of it, as it is read alone, but for
where it stands. Items come last first in a draft. -/
theorem outcome_past (front : List Char) (base : List Item) (limit : Nat) (stop : Span)
    (state : State) (filled : Redaction.Filled state.draft.awaiting) :
    Mirrors (Span.past front)
      (fun items items' => items' = base.reverse ++ (Redaction.past front).items items)
      (state.outcome limit stop)
      (State.outcome limit (stop.past front)
        ⟨state.cursor.past front, ((Redaction.past front).draft state.draft).onto base⟩) := by
  obtain ⟨cursor, draft⟩ := state
  obtain ⟨tokens, _⟩ := Scan.behind_past front cursor
  simp only [State.outcome, Scan.error?_past, tokens, Draft.pushAll_onto]
  cases (Scan.behind cursor).error? with
  | some fault => exact rfl
  | none =>
    have taken := Draft.mirrors_pushAll front limit filled (Scan.behind cursor).tokens
    obtain ⟨last, _, here, there, rfl⟩ | ⟨fault, here, there⟩ := taken.outcomes
    · have filled' := Draft.filled_of_pushAll filled here
      have finished := Redaction.mirrors_finish (Redaction.rigid_past front) (.inr filled') stop
      rw [here, there]
      change Mirrors _ _ (last.finish stop)
        ((((Redaction.past front).draft last).onto base).finish (stop.past front))
      rw [Draft.finish_onto]
      exact finished.map_right (base.reverse ++ ·)
    · rw [here, there]
      exact rfl

end Reading

end ConfigLang
