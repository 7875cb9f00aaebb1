import Mathlib
import ConfigLang.Proofs.Grammar.Comment
import ConfigLang.Proofs.Reading.Modes
import ConfigLang.Proofs.Spacing.Document
import ConfigLang.Proofs.Spacing.Trailing
/-! Blanks at the ends of lines do not matter, but for those right behind the bracket that opens a
key. A document that gets more of them is still one, with the same items. Most are passed; those
that a comment or a value takes in are trimmed off when its line ends. Behind the bracket they
would be the text of a key, and no key that spans lines would start. -/
namespace ConfigLang

theorem Mode.head?_rules_of_ne_key : ∀ (mode : Mode), mode ≠ .key →
    mode.rules.head? = some ⟨.whitespace, .blanks, .stay⟩ := by
  intro mode
  cases mode <;> decide

theorem Mode.kind_of_isLoose : ∀ (mode : Mode), ∀ rule ∈ mode.rules,
    rule.pattern.isLoose = true → rule.kind = .whitespace ∨ rule.kind = .line := by
  intro mode
  cases mode <;> decide

namespace Draft

/-- The draft as the end of the line sees it: a comment has no blanks at its end. -/
def settled (draft : Draft) : Draft :=
  match draft.awaiting with
  | .commentEnd comment =>
    draft.await (.commentEnd { comment with text := Text.trimRight comment.text })
  | _ => draft

section settled

variable {limit : Nat} {draft next : Draft} {token : Token} {blanks : List Char}

theorem endLine?_settled (draft : Draft) : draft.settled.endLine? = draft.endLine? := by
  obtain ⟨blocks, items, awaiting⟩ := draft
  cases awaiting with
  | commentEnd comment =>
    obtain ⟨key, span, text⟩ := comment
    cases key <;> simp [settled, endLine?, OpenComment.comment, Text.trim_trimRight, await, add]
  | _ => rfl

theorem finish_settled (draft : Draft) (stop : Span) :
    draft.settled.finish stop = draft.finish stop := by
  have ended := draft.endLine?_settled
  obtain ⟨blocks, items, awaiting⟩ := draft
  cases awaiting with
  | commentEnd comment =>
    obtain ⟨key, span, text⟩ := comment
    simp only [finish, ended]
    cases key <;> rfl
  | _ => rfl

theorem push_newline_settled (limit : Nat) (draft : Draft) (kind : token.kind = .newline) :
    draft.settled.push limit token = draft.push limit token := by
  have ended := draft.endLine?_settled
  obtain ⟨blocks, items, awaiting⟩ := draft
  cases awaiting with
  | commentEnd comment =>
    obtain ⟨key, span, text⟩ := comment
    simp only [push, kind, ended]
    cases key <;> rfl
  | _ => rfl

theorem settled_unplaced (draft : Draft) :
    Redaction.unplaced.draft draft.settled = (Redaction.unplaced.draft draft).settled := by
  obtain ⟨blocks, items, awaiting⟩ := draft
  cases awaiting <;> rfl

theorem push_blanks (limit : Nat) (draft : Draft) (span : Span)
    (blank : ∀ c ∈ blanks, Text.isBlank c = true) :
    ∃ next, draft.push limit ⟨.whitespace, String.ofList blanks, span⟩ = .ok next ∧
      next.settled = draft.settled := by
  obtain ⟨blocks, items, awaiting⟩ := draft
  cases awaiting with
  | commentEnd comment =>
    refine ⟨_, rfl, ?_⟩
    simp only [settled, await, String.toList_ofList, Text.trimRight_append_blank blank]
  | _ => exact ⟨_, rfl, rfl⟩

theorem push_longer (blank : ∀ c ∈ blanks, Text.isBlank c = true)
    (kind : token.kind = .whitespace ∨ token.kind = .line)
    (taken : draft.push limit token = .ok next) :
    ∃ next', draft.push limit
        ⟨token.kind, String.ofList (token.text.toList ++ blanks), token.span⟩ = .ok next' ∧
      next'.settled = next.settled := by
  obtain ⟨tokenKind, text, span⟩ := token
  have trimmed (front : List Char) :
      Text.trimRight (front ++ (text.toList ++ blanks)) =
        Text.trimRight (front ++ text.toList) := by
    rw [← List.append_assoc, Text.trimRight_append_blank blank]
  obtain ⟨blocks, items, awaiting⟩ := draft
  rcases kind with rfl | rfl
  · cases awaiting with
    | commentEnd comment =>
      cases taken
      exact ⟨_, rfl, by simp only [settled, await, String.toList_ofList, trimmed]⟩
    | _ =>
      cases taken
      exact ⟨_, rfl, rfl⟩
  · cases awaiting with
    | commentEnd comment =>
      cases taken
      exact ⟨_, rfl, by simp only [settled, await, String.toList_ofList, trimmed]⟩
    | value entry behindLines =>
      cases taken
      refine ⟨_, rfl, ?_⟩
      simp only [settled, await, String.toList_ofList, Text.trim_append_blank blank]
    | _ => cases taken

theorem kind_of_takes_key {bracket : Span} {template : Option Span}
    (takes : Takes limit token draft next) (awaiting : next.awaiting = .key bracket template) :
    token.kind = .openSquare ∨
      token.kind = .whitespace ∧ draft.awaiting = .key bracket template := by
  induction takes with
  | move moves =>
    cases moves with
    | blanks kind => exact .inr ⟨kind, awaiting⟩
    | tagged kind | templateKey kind => exact .inl kind
    | piece begins starts => cases starts <;> cases awaiting
    | _ => cases awaiting
  | valueEnd outside ends taken ih =>
    rcases ih awaiting with kind | ⟨kind, _⟩
    · exact .inl kind
    · exact absurd kind outside
  | _ => cases awaiting

theorem Awaiting.of_key_modes {awaiting : Awaiting} (mode : Mode.current awaiting.modes = .key) :
    (∃ bracket template, awaiting = .key bracket template) ∨
      ∃ text bracket template, awaiting = .keyEnd text bracket template := by
  cases awaiting with
  | key bracket template => exact .inl ⟨bracket, template, rfl⟩
  | keyEnd text bracket template => exact .inr ⟨text, bracket, template, rfl⟩
  | commentEnd comment =>
    obtain ⟨key, span, text⟩ := comment
    cases key <;> cases mode
  | value entry behindLines => cases behindLines <;> cases mode
  | valueEnd entry value => cases value <;> cases mode
  | stringPiece place elements => cases place <;> cases mode
  | _ => cases mode

end settled

end Draft

namespace Reading

open Redaction

/-- The lexer is in step with the draft, and blanks are free to stand nowhere right behind a bracket
that opens a key, be it one that was just taken or one that is still to come. -/
structure State.Guarded (free : Position → Prop) (state : State) : Prop where
  inStep : state.InStep
  taken : ∀ bracket template, state.draft.awaiting = .key bracket template →
    ¬ free state.cursor.position
  ahead : ∀ token ∈ (Scan.behind state.cursor).tokens, token.kind = .openSquare →
    ¬ free token.span.range.stop

theorem State.Guarded.step {free : Position → Prop} {limit : Nat} {a b : State}
    (guarded : a.Guarded free) (step : Step limit a b) : b.Guarded free := by
  have inStep := guarded.inStep.step step
  obtain @⟨cursor, draft, next, rule, n, fits, taken⟩ := step
  have tokens := (behind_of_fits fits).1
  have ahead := guarded.ahead
  rw [tokens] at ahead
  obtain ⟨here, later⟩ := List.forall_mem_cons.1 ahead
  refine ⟨inStep, fun bracket template awaiting => ?_, later⟩
  rcases Draft.kind_of_takes_key (Draft.takes_of_push taken) awaiting with kind | ⟨kind, key⟩
  · exact here kind
  · -- No blanks are cut off where the text of a key may start.
    have modes : cursor.modes = draft.awaiting.modes := guarded.inStep
    have known := (Cursor.fitting?_eq_some fits).1
    rw [Cursor.mode, modes, key] at known
    have visible : ∀ rule ∈ Mode.rules .key, rule.kind ≠ .whitespace := by decide
    exact absurd kind (visible rule known)

/-- The blanks in front of the end of a line are passed, unless it ends in a key. -/
theorem exists_past_blanks {limit : Nat} {stop : Span} {cursor : Cursor} {draft : Draft}
    {blanks rest : List Char} (text : cursor.rest = blanks ++ rest)
    (blank : ∀ c ∈ blanks, Pattern.isBlank c = true) (ends : Text.LineEnds rest)
    (outside : blanks ≠ [] → cursor.mode ≠ .key) :
    ∃ state : State, State.items? limit stop ⟨cursor, draft⟩ = state.items? limit stop ∧
      state.cursor.rest = rest ∧ state.cursor.modes = cursor.modes ∧
      state.draft.settled = draft.settled := by
  by_cases none : blanks = []
  · subst none
    exact ⟨⟨cursor, draft⟩, rfl, text, rfl, rfl⟩
  have length : Pattern.blanks.length cursor.rest = blanks.length := by
    have here := ends.run_eq_zero
    rw [Pattern.run, List.length_eq_zero_iff] at here
    rw [text, Pattern.length, Pattern.run, List.takeWhile_append_of_pos blank, here,
      List.append_nil]
  obtain ⟨n, more⟩ : ∃ n, blanks.length = n + 1 :=
    Nat.exists_eq_succ_of_ne_zero fun empty => none (List.length_eq_zero_iff.1 empty)
  have fits : cursor.fitting? = some (⟨.whitespace, .blanks, .stay⟩, blanks.length) := by
    obtain ⟨rules, first⟩ := List.head?_eq_some_iff.1 (Mode.head?_rules_of_ne_key _ (outside none))
    rw [Cursor.fitting?, first, List.findSome?_cons, length, more]
  have taken : cursor.rest.take blanks.length = blanks := by rw [text, List.take_left]
  have token : cursor.token ⟨.whitespace, .blanks, .stay⟩ blanks.length =
      ⟨.whitespace, String.ofList blanks,
        ⟨cursor.file, ⟨cursor.position, cursor.position.advance blanks⟩⟩⟩ := by
    rw [Cursor.token, taken]
  obtain ⟨next, pushed, settled⟩ := draft.push_blanks limit
    ⟨cursor.file, ⟨cursor.position, cursor.position.advance blanks⟩⟩
    fun c member => Text.isBlank_of_patternBlank (blank c member)
  rw [← token] at pushed
  refine ⟨⟨cursor.pass ⟨.whitespace, .blanks, .stay⟩ blanks.length, next⟩, ?_, ?_, rfl, settled⟩
  · rw [items?_of_fits fits, pushed]
    rfl
  · rw [Cursor.pass, text, List.drop_left]

/-- Two readings stand beside each other, the second one in the text with more blanks. Their drafts
are the same, but where a line ends the second one may have taken more blanks. -/
structure Beside (free : Position → Prop) (left right : State) : Prop where
  texts : Trailed .newline free left.cursor.position left.cursor.rest right.cursor.rest
  modes : left.cursor.modes = right.cursor.modes
  guarded : left.Guarded free
  settled : unplaced.draft left.draft.settled = unplaced.draft right.draft.settled
  drafts : Text.LineEnds right.cursor.rest ∨ unplaced.draft left.draft = unplaced.draft right.draft

def ReadsOn (limit : Nat) (stop stop' : Span) (left right : State) : Prop :=
  ∀ items, left.items? limit stop = some items →
    ∃ items', right.items? limit stop' = some items' ∧
      unplaced.items items = unplaced.items items'

section beside

variable {free : Position → Prop} {limit n m : Nat} {stop stop' : Span} {cursor cursor' : Cursor}
  {draft draft' : Draft} {rule : Rule}

theorem settled_alike (drafts : unplaced.draft draft = unplaced.draft draft') :
    unplaced.draft draft.settled = unplaced.draft draft'.settled := by
  rw [Draft.settled_unplaced, Draft.settled_unplaced, drafts]

theorem readsOn_of_fits (fits : cursor.fitting? = some (rule, n))
    (fits' : cursor'.fitting? = some (rule, m))
    (later : ∀ next, draft.push limit (cursor.token rule n) = .ok next →
      ∃ next', draft'.push limit (cursor'.token rule m) = .ok next' ∧
        ReadsOn limit stop stop' ⟨cursor.pass rule n, next⟩ ⟨cursor'.pass rule m, next'⟩) :
    ReadsOn limit stop stop' ⟨cursor, draft⟩ ⟨cursor', draft'⟩ := by
  intro items read
  rw [items?_of_fits fits] at read
  rw [items?_of_fits fits']
  cases taken : draft.push limit (cursor.token rule n) with
  | error fault =>
    rw [taken] at read
    cases read
  | ok next =>
    obtain ⟨next', taken', reads⟩ := later next taken
    rw [taken] at read
    rw [taken']
    exact reads items read

theorem closed_of_items? {items : List Item} (fits : cursor.fitting? = some (rule, n))
    (inLine : Pattern.newline.length cursor.rest = 0)
    (read : State.items? limit stop ⟨cursor, draft⟩ = some items) (key : rule.pattern = .keyText) :
    ∃ front rest, cursor.rest = front ++ ']' :: rest ∧
      Pattern.keyText.length cursor.rest = front.length := by
  obtain ⟨known, length, pos⟩ := Cursor.fitting?_eq_some fits
  have positive : rule.pattern.length cursor.rest ≠ 0 := by omega
  rw [key] at positive
  obtain ⟨front, rest, text, taken, _⟩ := Pattern.split_of_fits positive
  have more : cursor.rest ≠ [] := by
    intro done
    rw [done] at positive
    exact positive rfl
  have bracket : rest.head? = some ']' := by
    by_contra unclosed
    rw [items?_of_keyText (Mode.eq_key_of_rule _ rule known key) inLine text taken.symm more
      unclosed] at read
    cases read
  obtain ⟨rest, rfl⟩ := List.head?_eq_some_iff.1 bracket
  exact ⟨front, rest, text, taken.symm⟩

theorem readsOn_in_line (beside : Beside free ⟨cursor, draft⟩ ⟨cursor', draft'⟩) {c : Char}
    {a b : List Char} (left : cursor.rest = c :: a) (right : cursor'.rest = c :: b)
    (inLine : Pattern.newline.length cursor.rest = 0)
    (inLine' : Pattern.newline.length cursor'.rest = 0)
    (later : ∀ left right, Beside free left right →
      left.cursor.rest.length < cursor.rest.length → ReadsOn limit stop stop' left right) :
    ReadsOn limit stop stop' ⟨cursor, draft⟩ ⟨cursor', draft'⟩ := by
  have texts : Trailed .newline free cursor.position cursor.rest cursor'.rest := beside.texts
  have modes : cursor.modes = cursor'.modes := beside.modes
  have drafts : unplaced.draft draft = unplaced.draft draft' := by
    refine beside.drafts.resolve_left ?_
    rintro (done | ends)
    · rw [right] at done
      cases done
    · exact ends inLine'
  intro items read
  cases fits : cursor.fitting? with
  | none =>
    rw [items?_of_misfit fits (by simp [left])] at read
    cases read
  | some fit =>
    obtain ⟨rule, n⟩ := fit
    obtain ⟨m, front, blanks, a', b', fits', parts, loose⟩ := texts.fits_in_line modes left right
      inLine inLine' (closed_of_items? fits inLine read) fits
    have known := (Cursor.fitting?_eq_some fits).1
    have shorter := Cursor.length_pass fits
    have texts' : Trailed .newline free (cursor.pass rule n).position (cursor.pass rule n).rest
        (cursor'.pass rule m).rest := by
      simp only [Cursor.pass, parts.take_left, parts.drop_left, parts.drop_right]
      exact parts.others
    have modes' : (cursor.pass rule n).modes = (cursor'.pass rule m).modes :=
      congrArg rule.change.apply modes
    refine readsOn_of_fits fits fits' (fun next taken => ?_) items read
    have guarded := beside.guarded.step (.take fits taken)
    by_cases none : blanks = []
    · have tokens : unplaced.token (cursor.token rule n) =
          unplaced.token (cursor'.token rule m) := by
        simp [Redaction.token, Cursor.token, unplaced, parts.take_left, parts.take_right, none]
      obtain ⟨next', taken', alike⟩ := push_of_alike drafts tokens taken
      exact ⟨next', taken', later _ _ ⟨texts', modes', guarded, settled_alike alike, .inr alike⟩
        shorter⟩
    · have kind := Mode.kind_of_isLoose _ rule known (loose none)
      obtain ⟨longer, pushed, settled⟩ := Draft.push_longer
        (fun c member => Text.isBlank_of_patternBlank (parts.blank c member)) kind taken
      have tokens : unplaced.token ⟨rule.kind, String.ofList
          ((cursor.token rule n).text.toList ++ blanks), (cursor.token rule n).span⟩ =
          unplaced.token (cursor'.token rule m) := by
        simp [Redaction.token, Cursor.token, unplaced, parts.take_left, parts.take_right]
      obtain ⟨next', taken', alike⟩ := push_of_alike drafts tokens pushed
      have ends : Text.LineEnds (cursor'.pass rule m).rest := by
        simp only [Cursor.pass, parts.drop_right]
        exact (parts.ends none).2
      refine ⟨next', taken', later _ _ ⟨texts', modes', guarded, ?_, .inl ends⟩ shorter⟩
      rw [← settled]
      exact settled_alike alike

theorem readsOn_at_ending {last a b : List Char} (ends : Pattern.newline.Matches last)
    (left : cursor.rest = last ++ a) (right : cursor'.rest = last ++ b)
    (modes : cursor.modes = cursor'.modes) (guarded : State.Guarded free ⟨cursor, draft⟩)
    (settled : unplaced.draft draft.settled = unplaced.draft draft'.settled)
    (others : Trailed .newline free (cursor.position.advance last) a b)
    (later : ∀ left right, Beside free left right →
      left.cursor.rest.length < cursor.rest.length → ReadsOn limit stop stop' left right) :
    ReadsOn limit stop stop' ⟨cursor, draft⟩ ⟨cursor', draft'⟩ := by
  have fits := Cursor.fitting?_ending ends left
  have fits' := Cursor.fitting?_ending ends right
  have mode : cursor'.mode = cursor.mode := congrArg Mode.current modes.symm
  rw [mode] at fits'
  have nonempty := Pattern.ne_nil_of_matches ends
  cases found : cursor.mode.newline? with
  | none =>
    rw [found] at fits
    intro items read
    rw [items?_of_misfit fits (by simp [left, nonempty])] at read
    cases read
  | some rule =>
    rw [found] at fits fits'
    have kind := Mode.kind_of_newline? found
    have tokens : unplaced.token (cursor.token rule last.length) =
        unplaced.token (cursor'.token rule last.length) := by
      simp [Redaction.token, Cursor.token, kind, unplaced]
    refine readsOn_of_fits fits fits' fun next taken => ?_
    have settledTaken : draft.settled.push limit (cursor.token rule last.length) = .ok next := by
      rw [Draft.push_newline_settled limit draft kind, taken]
    obtain ⟨next', taken', alike⟩ := push_of_alike settled tokens settledTaken
    rw [Draft.push_newline_settled limit draft' kind] at taken'
    refine ⟨next', taken', later _ _ ⟨?_, congrArg rule.change.apply modes,
      guarded.step (.take fits taken), settled_alike alike, .inr alike⟩ (Cursor.length_pass fits)⟩
    simpa only [Cursor.pass, left, right, List.take_left, List.drop_left] using others

theorem readsOn_at_end (left : cursor.rest = []) (right : cursor'.rest = [])
    (settled : unplaced.draft draft.settled = unplaced.draft draft'.settled) :
    ReadsOn limit stop stop' ⟨cursor, draft⟩ ⟨cursor', draft'⟩ := by
  intro items read
  have alike := finish_alike settled stop stop'
  rw [items?_of_done left] at read
  rw [items?_of_done right]
  rw [Draft.finish_settled, Draft.finish_settled, read] at alike
  cases finished : (draft'.finish stop').toOption with
  | none =>
    rw [finished] at alike
    cases alike
  | some items' =>
    rw [finished] at alike
    exact ⟨items', rfl, Option.some.inj alike⟩

theorem mode_ne_key {items : List Item} (guarded : State.Guarded free ⟨cursor, draft⟩)
    (room : free cursor.position) (ends : Text.LineEnds cursor.rest)
    (read : State.items? limit stop ⟨cursor, draft⟩ = some items) : cursor.mode ≠ .key := by
  intro mode
  have modes : cursor.modes = draft.awaiting.modes := guarded.inStep
  have mode' := mode
  rw [Cursor.mode, modes] at mode'
  rcases Draft.Awaiting.of_key_modes mode' with
    ⟨bracket, template, awaiting⟩ | ⟨text, bracket, template, awaiting⟩
  · exact guarded.taken bracket template awaiting room
  · rw [items?_of_keyEnd mode awaiting ends.head_ne] at read
    cases read

end beside

theorem readsOn_of_beside {free : Position → Prop} {left right : State} (limit : Nat)
    (stop stop' : Span) (beside : Beside free left right) :
    ReadsOn limit stop stop' left right := by
  induction size : left.cursor.rest.length using Nat.strong_induction_on
    generalizing left right with
  | _ size ih =>
    subst size
    have later (left' right' : State) (beside' : Beside free left' right')
        (shorter : left'.cursor.rest.length < left.cursor.rest.length) :
        ReadsOn limit stop stop' left' right' :=
      ih _ shorter beside' rfl
    obtain ⟨cursor, draft⟩ := left
    obtain ⟨cursor', draft'⟩ := right
    have modes : cursor.modes = cursor'.modes := beside.modes
    have settled : unplaced.draft draft.settled = unplaced.draft draft'.settled := beside.settled
    rcases beside.texts.line_cases with
      ⟨c, a, b, here, there, inLine, inLine'⟩ | ⟨blanks, rest, there, blank, room, ends⟩
    · exact readsOn_in_line beside here there inLine inLine' later
    · have lineEnds : Text.LineEnds cursor.rest ∧ Text.LineEnds rest := by
        rcases ends with ⟨here, rfl⟩ | ⟨last, a, b, ends, here, rfl, _⟩
        · exact ⟨.inl here, .inl rfl⟩
        · rw [here]
          exact ⟨Text.lineEnds_of_matches ends a, Text.lineEnds_of_matches ends b⟩
      intro items read
      have outside (added : blanks ≠ []) : cursor'.mode ≠ .key := by
        have mode : cursor.mode = cursor'.mode := congrArg Mode.current modes
        rw [← mode]
        exact mode_ne_key beside.guarded (room added) lineEnds.1 read
      obtain ⟨⟨passed, next⟩, same, behind, modes', settled'⟩ :=
        exists_past_blanks there blank lineEnds.2 outside
      rw [same]
      rw [← settled'] at settled
      rcases ends with ⟨here, rfl⟩ | ⟨last, a, b, ends, here, rfl, others⟩
      · exact readsOn_at_end here behind settled items read
      · exact readsOn_at_ending ends here behind (modes.trans modes'.symm) beside.guarded settled
          others later items read

end Reading

namespace Document

def keyStarts (text : String) : List Position :=
  ((Scan.ofText 0 text).tokens.filter (·.kind = .openSquare)).map (·.span.range.stop)

/-- Blanks at the ends of lines do not matter. A document that gets spaces and tabs in front of its
line ends, or at its end, but nowhere right behind a bracket that opens a key, is read as a document
that is alike. -/
theorem parse_trailed (filename : String) (limit : Nat) {text text' : String} {document : Document}
    (read : parse filename limit text = .ok document)
    (trailed : Trailed .newline (· ∉ keyStarts text) .start text.toList text'.toList) :
    ∃ document', parse filename limit text' = .ok document' ∧ document.Alike document' := by
  obtain ⟨items, here, made⟩ := except_bind_eq_ok.1 read
  cases made
  have ahead : ∀ token ∈ (Scan.ofText 0 text).tokens, token.kind = .openSquare →
      ¬ token.span.range.stop ∉ keyStarts text := by
    intro token member bracket outside
    exact outside (List.mem_map.2 ⟨token, List.mem_filter.2 ⟨member, by simpa using bracket⟩, rfl⟩)
  have beside : Reading.Beside (· ∉ keyStarts text) ⟨.start 0 text.toList, .empty⟩
      ⟨.start 0 text'.toList, .empty⟩ := ⟨trailed, rfl, ⟨rfl, nofun, ahead⟩, rfl, .inr rfl⟩
  have reads := Reading.readsOn_of_beside limit ⟨0, .emptyAt (endOf text)⟩
    ⟨0, .emptyAt (endOf text')⟩ beside
  rw [Reading.ReadsOn, ← Reading.toOption_parseItems, ← Reading.toOption_parseItems, here] at reads
  obtain ⟨items', there, alike⟩ := reads items rfl
  cases read' : parseItems limit text' with
  | error fault =>
    rw [read'] at there
    cases there
  | ok items'' =>
    rw [read'] at there
    cases there
    refine ⟨⟨items', ⟨0, ⟨.start, endOf text'⟩⟩, .single filename text'⟩, ?_, alike_of_items alike⟩
    rw [parse, read']
    rfl

theorem parse_trailed_block :
    let text := "[\n\"k\"\r\n] \x7b\n# a\n\x7d"
    let text' := "[\n\"k\" \r\n] \x7b\t\n# a \t\n\x7d "
    Trailed .newline (· ∉ keyStarts text) .start text.toList text'.toList ∧
      ∃ document document', parse "block" 1 text = .ok document ∧
        parse "block" 1 text' = .ok document' ∧ document.Alike document' := by
  intro text text'
  have starts : keyStarts text = [⟨1, 0, 1⟩] := by cbv
  have newline : Pattern.newline.Matches ['\n'] := .inl rfl
  have returns : Pattern.newline.Matches ['\r', '\n'] := .inr rfl
  have before : text.toList = ['[', '\n', '"', 'k', '"', '\r', '\n', ']', ' ', '\x7b', '\n', '#',
      ' ', 'a', '\n', '\x7d'] := by decide
  have after : text'.toList = ['[', '\n', '"', 'k', '"', ' ', '\r', '\n', ']', ' ', '\x7b', '\t',
      '\n', '#', ' ', 'a', ' ', '\t', '\n', '\x7d', ' '] := by decide
  have trailed : Trailed .newline (· ∉ keyStarts text) .start text.toList text'.toList := by
    rw [starts, before, after]
    refine .prependLine ['['] [] ['\n'] (by simp [Pattern.length]) (by simp) (by simp) newline ?_
    refine .prependLine ['"', 'k', '"'] [' '] ['\r', '\n'] (by simp [Pattern.length])
      (by simp [Pattern.isBlank]) (by decide) returns ?_
    refine .prependLine [']', ' ', '\x7b'] ['\t'] ['\n'] (by simp [Pattern.length])
      (by simp [Pattern.isBlank]) (by decide) newline ?_
    refine .prependLine ['#', ' ', 'a'] [' ', '\t'] ['\n'] (by simp [Pattern.length])
      (by simp [Pattern.isBlank]) (by decide) newline ?_
    exact .prepend ['\x7d'] (by simp [Pattern.length])
      (.done (by simp [Pattern.isBlank]) (by decide))
  have read : ∃ document, parse "block" 1 text = .ok document := ⟨_, by cbv⟩
  obtain ⟨document, read⟩ := read
  obtain ⟨document', read', alike⟩ := parse_trailed "block" 1 read trailed
  exact ⟨trailed, document, document', read, read', alike⟩

/-- Blanks between a carriage return and a newline, and behind a bracket that opens a key. -/
theorem parse_trailed_fails :
    let returns := "- a\r\n"
    let returns' := "- a\r \n"
    let key := "[\n\"k\"\n] \"v\"\n"
    let key' := "[ \n\"k\"\n] \"v\"\n"
    (Trailed (.exactly ['\n']) (fun _ => True) .start returns.toList returns'.toList ∧
      (∃ document, parse "returns" 1 returns = .ok document) ∧
      ∃ error, parse "returns" 1 returns' = .error error) ∧
    Trailed (.exactly ['\n']) (fun _ => True) .start key.toList key'.toList ∧
      (∃ document, parse "key" 1 key = .ok document) ∧
      ∃ error, parse "key" 1 key' = .error error := by
  intro returns returns' key key'
  have newline : (Pattern.exactly ['\n']).Matches ['\n'] := ⟨by decide, rfl⟩
  have inReturns : Trailed (.exactly ['\n']) (fun _ => True) .start returns.toList
      returns'.toList := by
    have before : returns.toList = ['-', ' ', 'a', '\r', '\n'] := by decide
    have after : returns'.toList = ['-', ' ', 'a', '\r', ' ', '\n'] := by decide
    rw [before, after]
    exact .prependLine ['-', ' ', 'a', '\r'] [' '] ['\n'] (by simp [Pattern.length])
      (by simp [Pattern.isBlank]) (fun _ => trivial) newline (.done (by simp) (by simp))
  have inKey : Trailed (.exactly ['\n']) (fun _ => True) .start key.toList key'.toList := by
    have before : key.toList = ['[', '\n', '"', 'k', '"', '\n', ']', ' ', '"', 'v', '"', '\n'] := by
      decide
    have after : key'.toList =
        ['[', ' ', '\n', '"', 'k', '"', '\n', ']', ' ', '"', 'v', '"', '\n'] := by decide
    rw [before, after]
    refine .prependLine ['['] [' '] ['\n'] (by simp [Pattern.length])
      (by simp [Pattern.isBlank]) (fun _ => trivial) newline ?_
    refine .prependLine ['"', 'k', '"'] [] ['\n'] (by simp [Pattern.length]) (by simp) (by simp)
      newline ?_
    exact .prependLine [']', ' ', '"', 'v', '"'] [] ['\n'] (by simp [Pattern.length]) (by simp)
      (by simp) newline (.done (by simp) (by simp))
  exact ⟨⟨inReturns, ⟨_, by cbv⟩, ⟨_, by cbv⟩⟩, inKey, ⟨_, by cbv⟩, ⟨_, by cbv⟩⟩

end Document

end ConfigLang
