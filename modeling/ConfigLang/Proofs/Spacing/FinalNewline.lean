import Mathlib
import ConfigLang.Proofs.Reading.Append
import ConfigLang.Proofs.Reading.Modes
import ConfigLang.Proofs.Spacing.Reading
/-! The newline that ends the last line. Once a line is begun by a token that is not white space, the
end of the text settles it as a newline does, or neither can. A newline where a line is not begun is
a blank line, and that is an item of its own. -/
namespace ConfigLang

namespace Text

def lastLine : List Char → List Char
  | [] => []
  | c :: rest => if '\n' ∈ c :: rest then lastLine rest else c :: rest

section lastLine

variable {front back text : List Char} {c : Char}

theorem lastLine_of_inLine (inLine : '\n' ∉ text) : lastLine text = text := by
  cases text with
  | nil => rfl
  | cons c rest => rw [lastLine, if_neg inLine]

theorem lastLine_suffix (text : List Char) : lastLine text <:+ text := by
  induction text with
  | nil => exact List.suffix_refl []
  | cons c rest ih =>
    rw [lastLine]
    split
    · exact ih.trans (List.suffix_cons c rest)
    · exact List.suffix_refl _

theorem lastLine_append (crosses : '\n' ∈ back) : lastLine (front ++ back) = lastLine back := by
  induction front with
  | nil => rfl
  | cons c front ih =>
    have member : '\n' ∈ c :: (front ++ back) :=
      List.mem_cons_of_mem c (List.mem_append_right front crosses)
    rw [List.cons_append, lastLine, if_pos member, ih]

theorem mem_lastLine_append (inLine : '\n' ∉ back) (member : c ∈ lastLine (front ++ back)) :
    c ∈ lastLine front ∨ c ∈ back := by
  induction front with
  | nil => exact .inr (lastLine_of_inLine inLine ▸ member)
  | cons d front ih =>
    rw [List.cons_append, lastLine] at member
    rw [lastLine]
    by_cases crosses : '\n' ∈ d :: front
    · have crosses' : '\n' ∈ d :: (front ++ back) := List.mem_append_left back crosses
      rw [if_pos crosses'] at member
      rw [if_pos crosses]
      exact ih member
    · have outside : '\n' ∉ d :: (front ++ back) := by
        simpa [inLine] using crosses
      rw [if_neg outside] at member
      rw [if_neg crosses]
      exact List.mem_append.1 member

theorem mem_lastLine_concat (inLine : c ≠ '\n') : c ∈ lastLine (front ++ [c]) := by
  induction front with
  | nil => simp [lastLine, Ne.symm inLine]
  | cons d front ih =>
    rw [List.cons_append, lastLine]
    split
    · exact ih
    · simp

end lastLine

def VisibleAtEnd (text : List Char) : Prop := ∃ c ∈ lastLine text, Pattern.isBlank c = false

instance VisibleAtEnd.decidable (text : List Char) : Decidable (VisibleAtEnd text) :=
  List.decidableBEx _ _

/-- The text ends inside of a line on which something stands. -/
structure EndsInLine (text : List Char) : Prop where
  newline : text.getLast? ≠ some '\n'
  carriage : text.getLast? ≠ some '\r'
  visible : VisibleAtEnd text

theorem EndsInLine.of_concat {front : List Char} {c : Char} (visible : isBlank c = false) :
    EndsInLine (front ++ [c]) := by
  have other {d : Char} (blank : isBlank d = true) : c ≠ d := by
    rintro rfl
    rw [visible] at blank
    cases blank
  refine ⟨by simpa using other (by decide), by simpa using other (by decide), c,
    mem_lastLine_concat (other (by decide)), Bool.eq_false_iff.2 fun blank => ?_⟩
  exact absurd rfl (other (isBlank_of_patternBlank blank))

end Text

theorem Mode.pattern_of_newline : ∀ (mode : Mode), ∀ rule ∈ mode.rules,
    rule.kind = .newline → rule.pattern = .newline := by
  intro mode
  cases mode <;> decide

namespace Draft

/-- A line is begun, and no item or string line of a value may start. -/
structure MidLine (draft : Draft) : Prop where
  item : draft.awaiting ≠ .item
  line : ∀ entry lines, draft.awaiting ≠ .stringLine entry lines
  block : draft.awaiting = .blockStart → draft.blocks ≠ []

section midLine

variable {limit : Nat} {stop stop' : Span} {draft next : Draft} {token : Token}

theorem midLine_of_takes (takes : Takes limit token draft next) (newline : token.kind ≠ .newline)
    (visible : token.kind ≠ .whitespace) : next.MidLine := by
  induction takes with
  | move moves =>
    cases moves with
    | blanks kind | blanksInComment kind => exact absurd kind visible
    | keyCommentEnd kind | longKey kind | blankKeyLine kind | nextLine kind | blockStart kind
    | keyLineEnd kind | valueLineEnd kind => exact absurd kind newline
    | piece begins starts => cases starts <;> exact ⟨nofun, nofun, nofun⟩
    | _ => exact ⟨nofun, nofun, nofun⟩
  | blank kind | complete kind => exact absurd kind newline
  | opening => exact ⟨nofun, nofun, fun _ => List.cons_ne_nil _ _⟩
  | closing => exact ⟨nofun, nofun, nofun⟩
  | valueEnd outside ends taken ih => exact ih

theorem MidLine.blanks (mid : draft.MidLine) (takes : Takes limit token draft next)
    (kind : token.kind = .whitespace) : next.MidLine := by
  cases takes with
  | move moves =>
    cases moves with
    | blanks => exact mid
    | blanksInComment => exact ⟨nofun, nofun, nofun⟩
    | piece begins starts =>
      have kinds := starts.kinds
      simp [kind] at kinds
    | templateName names | component names =>
      have visible := (componentText?_of_names names).1
      exact absurd kind visible
    | _ => simp_all
  | valueEnd outside => exact absurd kind outside
  | _ => simp_all

theorem finish_of_endLine? (ends : draft.endLine? = some next) :
    (draft.finish stop).toOption = (next.finish stop').toOption := by
  have settled : next.endLine? = none := by
    obtain ⟨blocks, items, awaiting⟩ := draft
    cases awaiting with
    | commentEnd comment =>
      obtain ⟨key, span, text⟩ := comment
      cases key <;> cases ends <;> rfl
    | stringPiece place elements => cases place <;> cases ends <;> rfl
    | _ => cases ends <;> rfl
  simp only [finish, ends, settled, Option.getD_some, Option.getD_none]
  generalize next.endValue = last
  obtain ⟨blocks, items, awaiting⟩ := last
  cases awaiting <;> cases blocks <;> rfl

theorem MidLine.finish_of_open (mid : draft.MidLine) (goes : draft.endLine? = none) :
    (draft.finish stop).toOption = none := by
  obtain ⟨blocks, items, awaiting⟩ := draft
  cases awaiting with
  | item => exact absurd rfl mid.item
  | stringLine entry lines => exact absurd rfl (mid.line entry lines)
  | _ => simp [finish, goes, endValue, Except.toOption]

theorem MidLine.finish_behind_newline (mid : draft.MidLine) (goes : draft.endLine? = none)
    (takes : Takes limit token draft next) (kind : token.kind = .newline) :
    (next.finish stop).toOption = none := by
  cases takes with
  | move moves =>
    cases moves with
    | longKey | blankKeyLine | nextLine => rfl
    | blockStart =>
      obtain ⟨block, others, rfl⟩ := List.exists_cons_of_ne_nil (mid.block rfl)
      rfl
    | keyCommentEnd | keyLineEnd | valueLineEnd => cases goes
    | piece begins starts =>
      have kinds := starts.kinds
      simp [kind] at kinds
    | templateName names | component names =>
      have outside := (componentText?_of_names names).2.1
      exact absurd kind outside
    | _ => simp_all
  | blank => exact absurd rfl mid.item
  | complete _ completes => cases completes <;> cases goes
  | opening kind' | closing kind' => simp [kind] at kind'
  | valueEnd => exact absurd rfl (mid.line _ _)

theorem newline?_of_endLine? (ends : draft.endLine? = some next) :
    (Mode.current draft.awaiting.modes).newline? ≠ none := by
  obtain ⟨blocks, items, awaiting⟩ := draft
  cases awaiting with
  | commentEnd comment =>
    obtain ⟨key, span, text⟩ := comment
    cases key <;> exact Option.some_ne_none _
  | stringPiece place elements => cases place <;> exact Option.some_ne_none _
  | valueEnd entry value => cases value <;> exact Option.some_ne_none _
  | _ => cases ends <;> exact Option.some_ne_none _

end midLine

end Draft

namespace Reading

section newline

variable {limit : Nat} {stop stop' : Span} {file : FileId} {position : Position}
  {modes : List Mode} {draft next : Draft}

theorem items?_newline_of_midLine (inStep : modes = draft.awaiting.modes) (mid : draft.MidLine) :
    State.items? limit stop ⟨⟨file, position, modes, []⟩, draft⟩ =
      State.items? limit stop' ⟨⟨file, position, modes, ['\n']⟩, draft⟩ := by
  have ending : Pattern.newline.Matches ['\n'] := .inl rfl
  have fits : Cursor.fitting? ⟨file, position, modes, ['\n']⟩ =
      (Mode.current modes).newline?.map fun rule => (rule, 1) :=
    Cursor.fitting?_ending ending rfl
  rw [items?_of_done rfl]
  cases ends : draft.endLine? with
  | some next =>
    obtain ⟨rule, found⟩ := Option.ne_none_iff_exists'.1 (Draft.newline?_of_endLine? ends)
    rw [← inStep] at found
    rw [found] at fits
    have kind := Mode.kind_of_newline? found
    have taken : draft.push limit (Cursor.token ⟨file, position, modes, ['\n']⟩ rule 1) =
        .ok next := by
      simp only [Draft.push, Cursor.token, kind, ends]
    rw [items?_of_fits fits, taken]
    exact (Draft.finish_of_endLine? ends).trans (items?_of_done rfl).symm
  | none =>
    rw [mid.finish_of_open ends]
    cases found : (Mode.current modes).newline? with
    | none =>
      rw [found] at fits
      exact (items?_of_misfit fits (List.cons_ne_nil _ _)).symm
    | some rule =>
      rw [found] at fits
      have kind := Mode.kind_of_newline? found
      rw [items?_of_fits fits]
      cases taken : draft.push limit (Cursor.token ⟨file, position, modes, ['\n']⟩ rule 1) with
      | error fault => rfl
      | ok next =>
        have stuck : (next.finish stop').toOption = none :=
          mid.finish_behind_newline ends (Draft.takes_of_push taken) kind
        exact ((items?_of_done rfl).trans stuck).symm

def Begun (text : List Char) (draft : Draft) : Prop :=
  Text.VisibleAtEnd text ∨ '\n' ∉ text ∧ draft.MidLine

theorem Begun.behind_token {rule : Rule} {front rest : List Char} {span : Span}
    (begun : Begun (front ++ rest) draft) (known : rule ∈ (Mode.current modes).rules)
    (matched : rule.pattern.Matches front)
    (takes : Draft.Takes limit ⟨rule.kind, String.ofList front, span⟩ draft next) :
    Begun rest next := by
  by_cases crosses : '\n' ∈ rest
  · rcases begun with ⟨c, member, visible⟩ | ⟨inLine, _⟩
    · rw [Text.lastLine_append crosses] at member
      exact .inl ⟨c, member, visible⟩
    · exact absurd (List.mem_append_right front crosses) inLine
  rcases begun with ⟨c, member, visible⟩ | ⟨inLine, mid⟩
  · rcases Text.mem_lastLine_append crosses member with here | there
    · have newline : rule.kind ≠ .newline := by
        intro kind
        rw [Mode.pattern_of_newline _ rule known kind] at matched
        rcases matched with rfl | rfl <;> simp [Text.lastLine] at here
      have blanks : rule.kind ≠ .whitespace := by
        intro kind
        rw [Mode.pattern_of_whitespace _ rule known kind] at matched
        have blank := matched.2 c ((Text.lastLine_suffix front).subset here)
        rw [visible] at blank
        cases blank
      exact .inr ⟨crosses, Draft.midLine_of_takes takes newline blanks⟩
    · rw [← Text.lastLine_of_inLine crosses] at there
      exact .inl ⟨c, there, visible⟩
  · refine .inr ⟨crosses, ?_⟩
    by_cases blanks : rule.kind = .whitespace
    · exact mid.blanks takes blanks
    · refine Draft.midLine_of_takes takes (fun kind => inLine ?_) blanks
      rw [Mode.pattern_of_newline _ rule known kind] at matched
      rcases matched with rfl | rfl <;> simp

theorem items?_append_newline {text : List Char}
    (inStep : State.InStep ⟨⟨file, position, modes, text⟩, draft⟩)
    (newline : text.getLast? ≠ some '\n') (carriage : text.getLast? ≠ some '\r')
    (begun : Begun text draft) :
    State.items? limit stop ⟨⟨file, position, modes, text⟩, draft⟩ =
      State.items? limit stop' ⟨⟨file, position, modes, text ++ ['\n']⟩, draft⟩ := by
  -- the tokens are the same up to the newline
  induction size : text.length using Nat.strong_induction_on
    generalizing text position modes draft with
  | _ size ih =>
    subst size
    by_cases done : text = []
    · subst done
      rcases begun with ⟨c, member, _⟩ | ⟨_, mid⟩
      · cases member
      · exact items?_newline_of_midLine inStep mid
    have breaks : Text.BreaksBetween text ['\n'] := .inr ⟨done, carriage, rfl⟩
    cases fits : Cursor.fitting? ⟨file, position, modes, text⟩ with
    | none =>
      have misfit := (Cursor.fitting?_append breaks).trans fits
      rw [items?_of_misfit fits done, items?_of_misfit misfit (by simp)]
    | some fit =>
      obtain ⟨rule, n⟩ := fit
      have fits' := (Cursor.fitting?_append breaks).trans fits
      obtain ⟨known, length, pos⟩ := Cursor.fitting?_eq_some fits
      have positive : rule.pattern.length text ≠ 0 := by
        simp only at length
        omega
      obtain ⟨front, rest, rfl, taken, matched⟩ := Pattern.split_of_fits positive
      obtain rfl : front.length = n := taken.trans length
      rw [List.append_assoc] at fits' ⊢
      rw [items?_of_fits fits, items?_of_fits fits', token_text, token_text, pass_text, pass_text]
      cases pushed : draft.push limit
        ⟨rule.kind, String.ofList front, ⟨file, ⟨position, position.advance front⟩⟩⟩ with
      | error fault => rfl
      | ok next =>
        have shorter : rest.length < (front ++ rest).length := by
          rw [List.length_append]
          omega
        have last {c : Char} (ends : (front ++ rest).getLast? ≠ some c) :
            rest.getLast? ≠ some c := by
          intro same
          exact ends (by simp [List.getLast?_append, same])
        exact ih _ shorter (inStep.step (.cut front fits pushed)) (last newline) (last carriage)
          (begun.behind_token known matched (Draft.takes_of_push pushed)) rfl

end newline

end Reading

namespace Document

theorem toOption_parseItems_newline (limit : Nat) {text : String}
    (ends : Text.EndsInLine text.toList) :
    (parseItems limit text).toOption = (parseItems limit (text ++ "\n")).toOption := by
  rw [Reading.toOption_parseItems, Reading.toOption_parseItems, String.toList_append]
  exact Reading.items?_append_newline (Reading.inStep_start _) ends.newline ends.carriage
    (.inl ends.visible)

/-- A last line on which something stands may end in a newline or not: the text is a document with
the newline just if it is one without it, and the items are the same, spans and all. -/
theorem parse_append_newline (filename : String) (limit : Nat) {text : String}
    (ends : Text.EndsInLine text.toList) :
    ((∃ document, parse filename limit text = .ok document) ↔
      ∃ document, parse filename limit (text ++ "\n") = .ok document) ∧
    ∀ document document', parse filename limit text = .ok document →
      parse filename limit (text ++ "\n") = .ok document' → document.items = document'.items := by
  have same := toOption_parseItems_newline limit ends
  simp only [parse]
  cases here : parseItems limit text with
  | error fault =>
    cases there : parseItems limit (text ++ "\n") with
    | error fault' =>
      refine ⟨iff_of_false ?_ ?_, ?_⟩
      · rintro ⟨document, read⟩
        cases read
      · rintro ⟨document, read⟩
        cases read
      · intro document document' read
        cases read
    | ok items =>
      rw [here, there] at same
      cases same
  | ok items =>
    rw [here] at same
    have there : parseItems limit (text ++ "\n") = .ok items :=
      except_toOption_eq_some.1 same.symm
    rw [there]
    refine ⟨iff_of_true ⟨_, rfl⟩ ⟨_, rfl⟩, ?_⟩
    intro document document' read read'
    cases read
    cases read'
    rfl

theorem parse_append_newline_closed_block :
    let text := "[é] \x7b\r\n\t\"ü\" <<x>> +\n\x7d "
    Text.EndsInLine text.toList ∧ ∃ document document', parse "block" 1 text = .ok document ∧
      parse "block" 1 (text ++ "\n") = .ok document' ∧ document.items = document'.items := by
  intro text
  have ends : Text.EndsInLine text.toList := ⟨by decide, by decide, by decide⟩
  obtain ⟨both, same⟩ := parse_append_newline "block" 1 ends
  have read : ∃ document, parse "block" 1 text = .ok document := ⟨_, by cbv⟩
  have read' := both.1 read
  obtain ⟨document, read⟩ := read
  obtain ⟨document', read'⟩ := read'
  exact ⟨ends, document, document', read, read', same document document' read read'⟩

end Document

end ConfigLang
