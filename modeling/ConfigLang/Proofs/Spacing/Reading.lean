import ConfigLang.Proofs.Redaction.Reading
import ConfigLang.Proofs.Spacing.Basic
import ConfigLang.Proofs.Syntax.Step
/-! Texts that differ in spacing alone are read alike. Two readings stay side by side: they have the
same modes, the same drafts up to spans, and texts that still differ in spacing alone. A step of
both cuts one token off each; at the end of a line it also passes the blanks behind it. -/
namespace ConfigLang

namespace Draft

variable {limit : Nat} {draft next : Draft} {token : Token}

theorem outside_of_takes (takes : Takes limit token draft next) (kind : token.kind = .newline)
    (comment : OpenComment) : next.awaiting ≠ .commentEnd comment := by
  induction takes with
  | move moves =>
    cases moves with
    | piece begins starts => cases starts <;> exact nofun
    | _ => simp_all
  | valueEnd outside ends taken ih => exact ih
  | opening kind' => simp_all
  | _ => exact nofun

theorem kind_of_takes_keyEnd {blocks : List OpenBlock} {items : List Item} {text : String}
    {bracket : Span} {template : Option Span}
    (takes : Takes limit token ⟨blocks, items, .keyEnd text bracket template⟩ next) :
    token.kind = .closeSquare ∨ token.kind = .whitespace := by
  cases takes with
  | move moves =>
    cases moves with
    | blanks kind => exact .inr kind
    | keyEnd kind => exact .inl kind
    | piece begins => cases begins
  | complete _ completes => cases completes
  | opening _ opens => cases opens

theorem awaiting_of_takes_keyText (takes : Takes limit token draft next)
    (kind : token.kind = .keyText) :
    ∃ text bracket template, next.awaiting = .keyEnd text bracket template := by
  induction takes with
  | move moves =>
    cases moves with
    | keyText => exact ⟨_, _, _, rfl⟩
    | piece begins starts => cases starts <;> simp_all
    | templateName names | component names => cases names <;> simp_all
    | _ => simp_all
  | valueEnd outside ends taken ih => exact ih
  | _ => simp_all

end Draft

def Cursor.unindent (cursor : Cursor) : Cursor :=
  ⟨cursor.file, cursor.position.advance (cursor.rest.takeWhile Pattern.isBlank), cursor.modes,
    Text.unindent cursor.rest⟩

namespace Reading

def State.items? (limit : Nat) (stop : Span) (state : State) : Option (List Item) :=
  let scan := Scan.behind state.cursor
  if scan.last.rest.isEmpty then
    (do
      let draft ← state.draft.pushAll limit scan.tokens
      draft.finish stop).toOption
  else none

theorem toOption_parseItems (limit : Nat) (text : String) :
    (Document.parseItems limit text).toOption =
      State.items? limit ⟨0, .emptyAt (Document.endOf text)⟩ ⟨.start 0 text.toList, .empty⟩ := by
  simp only [Document.parseItems, tokenize, Scan.ofText, Scan.error?, State.items?]
  cases (Scan.behind (.start 0 text.toList)).last.rest <;> rfl

section steps

variable {limit n : Nat} {stop : Span} {cursor : Cursor} {draft : Draft} {rule : Rule}

theorem items?_of_done (done : cursor.rest = []) :
    State.items? limit stop ⟨cursor, draft⟩ = (draft.finish stop).toOption := by
  simp [State.items?, behind_of_done done, done, Scan.tokens, Draft.pushAll, bind, Except.bind]

theorem items?_of_misfit (misfit : cursor.fitting? = none) (more : cursor.rest ≠ []) :
    State.items? limit stop ⟨cursor, draft⟩ = none := by
  simp [State.items?, behind_of_misfit misfit, more]

theorem items?_of_fits (fits : cursor.fitting? = some (rule, n)) :
    State.items? limit stop ⟨cursor, draft⟩ =
      (draft.push limit (cursor.token rule n)).toOption.bind fun next =>
        State.items? limit stop ⟨cursor.pass rule n, next⟩ := by
  obtain ⟨tokens, last⟩ := behind_of_fits fits
  simp only [State.items?, tokens, last, Draft.pushAll]
  cases draft.push limit (cursor.token rule n) with
  | error fault => simp [bind, Except.bind, Except.toOption]
  | ok next => rfl

theorem items?_unindent (starts : cursor.mode.startsLine = true)
    (outside : ∀ comment, draft.awaiting ≠ .commentEnd comment) :
    State.items? limit stop ⟨cursor, draft⟩ =
      State.items? limit stop ⟨cursor.unindent, draft⟩ := by
  have takes := Pattern.take_run Pattern.isBlank cursor.rest
  have drops := Pattern.drop_run Pattern.isBlank cursor.rest
  cases blanks : Pattern.run Pattern.isBlank cursor.rest with
  | zero =>
    rw [blanks] at takes drops
    have same : cursor.unindent = cursor := by
      rw [Cursor.unindent, Text.unindent, ← takes, ← drops]
      rfl
    rw [same]
  | succ n =>
    have fits : cursor.fitting? = some (⟨.whitespace, .blanks, .stay⟩, n + 1) := by
      have mode : cursor.mode = .main ∨ cursor.mode = .multilineKey := by
        simpa [Mode.startsLine] using starts
      rcases mode with mode | mode <;>
        simp only [Cursor.fitting?, mode, Mode.rules, List.findSome?_cons, Pattern.length, blanks]
    have taken : draft.push limit (cursor.token ⟨.whitespace, .blanks, .stay⟩ (n + 1)) =
        .ok draft :=
      (Draft.push_eq_ok_iff limit).2 (.move (.blanks rfl outside))
    have pass : cursor.pass ⟨.whitespace, .blanks, .stay⟩ (n + 1) = cursor.unindent := by
      rw [blanks] at takes drops
      rw [Cursor.unindent, Text.unindent, ← takes, ← drops]
      rfl
    rw [items?_of_fits fits, taken, pass]
    rfl

theorem head?_of_bracket {cs : List Char} (fits : Pattern.length (.exactly [']']) cs ≠ 0) :
    cs.head? = some ']' := by
  obtain ⟨front, rest, rfl, _, _, rfl⟩ := Pattern.split_of_fits fits
  rfl

theorem items?_of_keyEnd {text : String} {bracket : Span} {template : Option Span}
    (mode : cursor.mode = .key) (awaiting : draft.awaiting = .keyEnd text bracket template)
    (unclosed : cursor.rest.head? ≠ some ']') :
    State.items? limit stop ⟨cursor, draft⟩ = none := by
  obtain ⟨blocks, items, _⟩ := draft
  cases awaiting
  by_cases done : cursor.rest = []
  · rw [items?_of_done done]
    rfl
  cases fits : cursor.fitting? with
  | none => exact items?_of_misfit fits done
  | some fit =>
    obtain ⟨rule, n⟩ := fit
    obtain ⟨known, length, pos⟩ := Cursor.fitting?_eq_some fits
    have positive : rule.pattern.length cursor.rest ≠ 0 := by omega
    rw [items?_of_fits fits]
    cases taken : Draft.push limit _ (cursor.token rule n) with
    | error fault => rfl
    | ok next =>
      have kind : rule.kind = .closeSquare ∨ rule.kind = .whitespace :=
        Draft.kind_of_takes_keyEnd (Draft.takes_of_push taken)
      rw [mode] at known
      simp only [Mode.rules, List.mem_cons, List.not_mem_nil, or_false] at known
      rcases known with rfl | rfl | rfl
      · exact absurd (head?_of_bracket positive) unclosed
      · simp at kind
      · simp at kind

theorem items?_of_keyText {front rest : List Char} (mode : cursor.mode = .key)
    (inLine : Pattern.newline.length cursor.rest = 0) (text : cursor.rest = front ++ rest)
    (fits : Pattern.keyText.length cursor.rest = front.length) (more : cursor.rest ≠ [])
    (unclosed : rest.head? ≠ some ']') : State.items? limit stop ⟨cursor, draft⟩ = none := by
  cases fit? : cursor.fitting? with
  | none => exact items?_of_misfit fit? more
  | some fit =>
    obtain ⟨rule, n⟩ := fit
    obtain ⟨known, length, pos⟩ := Cursor.fitting?_eq_some fit?
    have positive : rule.pattern.length cursor.rest ≠ 0 := by omega
    rw [mode] at known
    simp only [Mode.rules, List.mem_cons, List.not_mem_nil, or_false] at known
    rcases known with rfl | rfl | rfl
    · have bracket := head?_of_bracket positive
      rw [text] at bracket fits
      cases front with
      | nil => exact absurd bracket unclosed
      | cons c front =>
        cases bracket
        cases fits
    · exact absurd inLine positive
    · rw [items?_of_fits fit?]
      cases taken : draft.push limit (cursor.token ⟨.keyText, .keyText, .stay⟩ n) with
      | error fault => rfl
      | ok next =>
        have takes := Draft.takes_of_push taken
        obtain ⟨_, _, _, awaiting⟩ := Draft.awaiting_of_takes_keyText takes rfl
        have left : (cursor.pass ⟨.keyText, .keyText, .stay⟩ n).rest = rest := by
          rw [Cursor.pass, ← length, fits, text, List.drop_left]
        refine items?_of_keyEnd mode awaiting ?_
        rw [left]
        exact unclosed

end steps

open Redaction

structure Abreast (returns : Bool) (left right : State) : Prop where
  texts : Respaced returns left.cursor.rest right.cursor.rest
  modes : left.cursor.modes = right.cursor.modes
  known : left.cursor.modes ∈ Mode.nestings
  drafts : unplaced.draft left.draft = unplaced.draft right.draft

/-- Both are read to the end and give the same items but for spans, or neither is. -/
def ReadAlike (limit : Nat) (stop stop' : Span) (left right : State) : Prop :=
  (left.items? limit stop).map unplaced.items = (right.items? limit stop').map unplaced.items

section abreast

variable {returns : Bool} {limit n n' : Nat} {stop stop' : Span} {cursor cursor' : Cursor}
  {draft draft' : Draft} {rule : Rule}

theorem readAlike_of_fits (fits : cursor.fitting? = some (rule, n))
    (fits' : cursor'.fitting? = some (rule, n'))
    (drafts : unplaced.draft draft = unplaced.draft draft')
    (tokens : unplaced.token (cursor.token rule n) = unplaced.token (cursor'.token rule n'))
    (later : ∀ next next', draft.push limit (cursor.token rule n) = .ok next →
      draft'.push limit (cursor'.token rule n') = .ok next' →
      unplaced.draft next = unplaced.draft next' →
      ReadAlike limit stop stop' ⟨cursor.pass rule n, next⟩ ⟨cursor'.pass rule n', next'⟩) :
    ReadAlike limit stop stop' ⟨cursor, draft⟩ ⟨cursor', draft'⟩ := by
  have pushed := push_alike limit drafts tokens
  rw [ReadAlike, items?_of_fits fits, items?_of_fits fits']
  cases taken : draft.push limit (cursor.token rule n) with
  | error fault =>
    cases taken' : draft'.push limit (cursor'.token rule n') with
    | error fault' => rfl
    | ok next' => simp [taken, taken', Except.toOption] at pushed
  | ok next =>
    cases taken' : draft'.push limit (cursor'.token rule n') with
    | error fault' => simp [taken, taken', Except.toOption] at pushed
    | ok next' =>
      simp only [taken, taken', Except.toOption, Option.map_some, Option.some.injEq] at pushed
      exact later next next' taken taken' pushed

theorem readAlike_of_misfit (misfit : cursor.fitting? = none) (misfit' : cursor'.fitting? = none)
    (more : cursor.rest ≠ []) (more' : cursor'.rest ≠ []) :
    ReadAlike limit stop stop' ⟨cursor, draft⟩ ⟨cursor', draft'⟩ := by
  rw [ReadAlike, items?_of_misfit misfit more, items?_of_misfit misfit' more']

theorem readAlike_at_ending {ending ending' a b : List Char}
    (abreast : Abreast returns ⟨cursor, draft⟩ ⟨cursor', draft'⟩)
    (ends : Pattern.newline.Matches ending) (ends' : Pattern.newline.Matches ending')
    (starts : cursor.rest = ending ++ a) (starts' : cursor'.rest = ending' ++ b)
    (others : Respaced returns (Text.unindent a) (Text.unindent b))
    (later : ∀ left right, Abreast returns left right →
      left.cursor.rest.length < cursor.rest.length → ReadAlike limit stop stop' left right) :
    ReadAlike limit stop stop' ⟨cursor, draft⟩ ⟨cursor', draft'⟩ := by
  have modes : cursor.modes = cursor'.modes := abreast.modes
  have fits := Cursor.fitting?_ending ends starts
  have fits' := Cursor.fitting?_ending ends' starts'
  have mode : cursor'.mode = cursor.mode := congrArg Mode.current modes.symm
  have nonempty := Pattern.ne_nil_of_matches ends
  rw [mode] at fits'
  cases found : cursor.mode.newline? with
  | none =>
    have nonempty' := Pattern.ne_nil_of_matches ends'
    rw [found] at fits fits'
    exact readAlike_of_misfit fits fits' (by simp [starts, nonempty]) (by simp [starts', nonempty'])
  | some rule =>
    have kind := Mode.kind_of_newline? found
    have tokens : unplaced.token (cursor.token rule ending.length) =
        unplaced.token (cursor'.token rule ending'.length) := by
      simp [Redaction.token, Cursor.token, kind, unplaced]
    rw [found] at fits fits'
    have drafts := abreast.drafts
    refine readAlike_of_fits fits fits' drafts tokens fun next next' taken taken' alike => ?_
    have outside := Draft.outside_of_takes (Draft.takes_of_push taken) kind
    have outside' := Draft.outside_of_takes (Draft.takes_of_push taken') kind
    obtain ⟨known, line⟩ := Mode.startsLine_of_newline? _ abreast.known rule found
    have here : (cursor.pass rule ending.length).mode.startsLine = true := line
    have there : (cursor'.pass rule ending'.length).mode.startsLine = true := by
      rw [← here, Cursor.mode, Cursor.pass, ← modes]
      rfl
    have left : (cursor.pass rule ending.length).rest = a := by simp [Cursor.pass, starts]
    have left' : (cursor'.pass rule ending'.length).rest = b := by simp [Cursor.pass, starts']
    rw [ReadAlike, items?_unindent here outside, items?_unindent there outside']
    refine later _ _ ⟨?_, ?_, ?_, alike⟩ ?_
    · simp only [Cursor.unindent, left, left']
      exact others
    · exact congrArg rule.change.apply modes
    · exact Mode.nestings_step _ abreast.known rule known
    · have shorter := List.length_dropWhile_le Pattern.isBlank a
      have positive := List.length_pos_iff.2 nonempty
      simp only [Cursor.unindent, left, starts, List.length_append, Text.unindent]
      omega

/-- The text of a key that ends in a backslash leaves no reading to go on. -/
theorem readAlike_of_backslash {front a b : List Char} (mode : cursor.mode = .key)
    (mode' : cursor'.mode = .key) (inLine : Pattern.newline.length cursor.rest = 0)
    (inLine' : Pattern.newline.length cursor'.rest = 0)
    (text : cursor.rest = front ++ '\\' :: '\n' :: a)
    (text' : cursor'.rest = front ++ '\\' :: '\r' :: '\n' :: b)
    (key : Pattern.keyText.length cursor.rest = front.length)
    (key' : Pattern.keyText.length cursor'.rest = front.length + 2) :
    ReadAlike limit stop stop' ⟨cursor, draft⟩ ⟨cursor', draft'⟩ := by
  have whole : cursor'.rest = (front ++ ['\\', '\r']) ++ '\n' :: b := by simp [text']
  have key'' : Pattern.keyText.length cursor'.rest = (front ++ ['\\', '\r']).length := by
    simpa using key'
  have stuck : State.items? limit stop ⟨cursor, draft⟩ = none :=
    items?_of_keyText mode inLine text key (by simp [text]) (by simp)
  have stuck' : State.items? limit stop' ⟨cursor', draft'⟩ = none :=
    items?_of_keyText mode' inLine' whole key'' (by simp [whole]) (by simp)
  rw [ReadAlike, stuck, stuck']

theorem readAlike_in_line (abreast : Abreast returns ⟨cursor, draft⟩ ⟨cursor', draft'⟩)
    (inLine : Pattern.newline.length cursor.rest = 0)
    (inLine' : Pattern.newline.length cursor'.rest = 0)
    (later : ∀ left right, Abreast returns left right →
      left.cursor.rest.length < cursor.rest.length → ReadAlike limit stop stop' left right) :
    ReadAlike limit stop stop' ⟨cursor, draft⟩ ⟨cursor', draft'⟩ := by
  have texts : Respaced returns cursor.rest cursor'.rest := abreast.texts
  have modes : cursor.modes = cursor'.modes := abreast.modes
  have drafts : unplaced.draft draft = unplaced.draft draft' := abreast.drafts
  by_cases done : cursor.rest = []
  · have done' : cursor'.rest = [] := texts.eq_nil_iff.1 done
    rw [ReadAlike, items?_of_done done, items?_of_done done']
    exact finish_alike drafts stop stop'
  by_cases keys : cursor.mode = .key → returns = true →
      Pattern.keyText.length cursor.rest = Pattern.keyText.length cursor'.rest
  · have same := texts.fitting?_eq modes inLine inLine' keys
    cases fits : cursor.fitting? with
    | none =>
      have more : cursor'.rest ≠ [] := fun done' => done (texts.eq_nil_iff.2 done')
      exact readAlike_of_misfit fits (same ▸ fits) done more
    | some fit =>
      obtain ⟨rule, n⟩ := fit
      obtain ⟨known, length, pos⟩ := Cursor.fitting?_eq_some fits
      have crosses : rule.pattern.isInLine = true := by
        rcases Mode.isInLine_of_rule _ rule known with newline | crosses
        · rw [newline] at length
          omega
        · exact crosses
      have positive : rule.pattern.length cursor.rest ≠ 0 := by omega
      obtain ⟨front, a, split, taken, matched⟩ := Pattern.split_of_fits positive
      rw [split] at texts
      obtain ⟨b, split', others⟩ := texts.split_left (Pattern.not_mem_of_matches matched crosses)
      rw [length] at taken
      subst taken
      have tokens : unplaced.token (cursor.token rule front.length) =
          unplaced.token (cursor'.token rule front.length) := by
        simp [Redaction.token, Cursor.token, unplaced, split, split']
      refine readAlike_of_fits fits (same ▸ fits) drafts tokens fun next next' _ _ alike => ?_
      refine later _ _ ⟨?_, ?_, ?_, alike⟩ ?_
      · simpa [Cursor.pass, split, split'] using others
      · exact congrArg rule.change.apply modes
      · exact Mode.nestings_step _ abreast.known rule known
      · simp only [Cursor.pass, List.length_drop, split, List.length_append]
        omega
  · simp only [Classical.not_imp] at keys
    obtain ⟨mode, rfl, differs⟩ := keys
    rcases texts.key_cases with same | ⟨front, a, b, text, text', key, key'⟩
    · exact absurd same differs
    · have mode' : cursor'.mode = .key := (congrArg Mode.current modes.symm).trans mode
      exact readAlike_of_backslash mode mode' inLine inLine' text text' key key'

end abreast

theorem readAlike_of_abreast {returns : Bool} {left right : State} (limit : Nat)
    (stop stop' : Span) (abreast : Abreast returns left right) :
    ReadAlike limit stop stop' left right := by
  induction size : left.cursor.rest.length using Nat.strong_induction_on
    generalizing left right with
  | _ size ih =>
    subst size
    have later (left' right' : State) (abreast' : Abreast returns left' right')
        (shorter : left'.cursor.rest.length < left.cursor.rest.length) :
        ReadAlike limit stop stop' left' right' :=
      ih _ shorter abreast' rfl
    rcases abreast.texts.newline_cases with
      ⟨ending, ending', a, b, ends, ends', starts, starts', others⟩ | ⟨inLine, inLine'⟩
    · exact readAlike_at_ending abreast ends ends' starts starts' others later
    · exact readAlike_in_line abreast inLine inLine' later

end Reading

end ConfigLang
