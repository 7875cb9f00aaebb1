import Mathlib
import ConfigLang.Proofs.Reading.Past
import ConfigLang.Proofs.Spacing.Basic
import ConfigLang.Proofs.Token.Cut
/-! Documents one behind the other. No token reaches across the end of a line, and where an item may
start outside of all blocks, nothing is left of what was read before but the items. A blank line at
the end of a document shows that an item may start behind it. So what stands there is read as if
it stood alone. -/
namespace ConfigLang

/-- A line ends where the two texts meet: with the last character of the first text, or with the
first one of the second text, and then that is a newline by itself. -/
def Text.BreaksBetween (front back : List Char) : Prop :=
  front.getLast? = some '\n' ∨
    front ≠ [] ∧ front.getLast? ≠ some '\r' ∧ back.head? = some '\n'

theorem Pattern.length_newline_append {front : List Char} (nonempty : front ≠ [])
    (ends : front.getLast? ≠ some '\r') (back : List Char) :
    Pattern.newline.length (front ++ back) = Pattern.newline.length front := by
  match front with
  | [c] =>
    by_cases newline : c = '\n'
    · subst newline
      rfl
    · have plain : c ≠ '\r' := by simpa using ends
      rw [newline_misfit_of_other newline plain]
      exact newline_misfit_of_other newline plain _
  | c :: d :: rest =>
    by_cases newline : c = '\n'
    · subst newline
      rfl
    · by_cases other : c = '\r'
      · subst other
        by_cases breaks : d = '\n'
        · subst breaks
          rfl
        · rw [newline_misfit_of_return breaks]
          exact newline_misfit_of_return breaks _
      · rw [newline_misfit_of_other newline other]
        exact newline_misfit_of_other newline other _

/-- No form but that of newlines takes anything from both sides of the end of a line. -/
theorem Pattern.length_append {pattern : Pattern} {front back : List Char}
    (known : pattern = .newline ∨ pattern.isInLine = true)
    (breaks : Text.BreaksBetween front back) :
    pattern.length (front ++ back) = pattern.length front := by
  rcases known with rfl | inLine
  · rcases breaks with last | ⟨nonempty, ends, _⟩
    · exact length_newline_append (by rintro rfl; cases last) (by simp [last]) back
    · exact length_newline_append nonempty ends back
  · refine Nat.le_antisymm ?_ ?_
    · by_cases fits : pattern.length (front ++ back) = 0
      · omega
      obtain ⟨text, behind, split, length, matched⟩ := split_of_fits fits
      have inside := not_mem_of_matches matched inLine
      rcases List.append_eq_append_iff.1 split with ⟨more, rfl, crossed⟩ | ⟨more, rfl, _⟩
      · cases more with
        | nil =>
          rw [List.append_nil] at matched length
          have bound := length_of_matches matched []
          rw [List.append_nil] at bound
          omega
        | cons c more =>
          refine absurd (List.mem_append.2 ?_) inside
          rcases breaks with last | ⟨_, _, first⟩
          · exact .inl (List.mem_of_getLast? last)
          · rw [crossed] at first
            cases first
            exact .inr List.mem_cons_self
      · have bound := length_of_matches matched more
        omega
    · by_cases fits : pattern.length front = 0
      · omega
      obtain ⟨text, behind, rfl, length, matched⟩ := split_of_fits fits
      have bound := length_of_matches matched (behind ++ back)
      rw [← List.append_assoc] at bound
      omega

theorem Cursor.fitting?_append {file : FileId} {position : Position} {modes : List Mode}
    {front back : List Char} (breaks : Text.BreaksBetween front back) :
    fitting? ⟨file, position, modes, front ++ back⟩ = fitting? ⟨file, position, modes, front⟩ := by
  refine fitting?_congr rfl fun rule known => ?_
  exact Pattern.length_append (Mode.isInLine_of_rule _ rule known) breaks

namespace Reading

/-- Whole lines that are read alone are read in front of any text, and the reading comes to that
text with the same draft. -/
theorem run_append (limit : Nat) (file : FileId) (back : List Char) {lines : List Char}
    {position : Position} {modes : List Mode} {draft last : Draft}
    (whole : lines = [] ∨ lines.getLast? = some '\n')
    (done : (Scan.behind ⟨file, position, modes, lines⟩).last.rest = [])
    (taken : draft.pushAll limit (Scan.behind ⟨file, position, modes, lines⟩).tokens = .ok last) :
    ∃ modes', Run limit ⟨⟨file, position, modes, lines ++ back⟩, draft⟩
      ⟨⟨file, position.advance lines, modes', back⟩, last⟩ := by
  induction size : lines.length using Nat.strong_induction_on
    generalizing lines position modes draft with
  | _ size ih =>
    subst size
    by_cases empty : lines = []
    · subst empty
      rw [behind_of_done rfl] at taken
      cases taken
      exact ⟨modes, .refl⟩
    have whole := whole.resolve_left empty
    cases fits : Cursor.fitting? ⟨file, position, modes, lines⟩ with
    | none =>
      rw [behind_of_misfit fits] at done
      exact absurd done empty
    | some fit =>
      obtain ⟨rule, n⟩ := fit
      obtain ⟨_, length, pos⟩ := Cursor.fitting?_eq_some fits
      have positive : rule.pattern.length lines ≠ 0 := by
        simp only at length
        omega
      obtain ⟨text, rest, rfl, taken', matched⟩ := Pattern.split_of_fits positive
      obtain rfl : text.length = n := taken'.trans length
      obtain ⟨tokens, ends⟩ := behind_of_fits fits
      rw [ends, pass_text] at done
      rw [tokens, pass_text, token_text] at taken
      obtain ⟨next, here, later⟩ := except_bind_eq_ok.1 taken
      have fits' : Cursor.fitting? ⟨file, position, modes, text ++ rest ++ back⟩ =
          some (rule, text.length) := (Cursor.fitting?_append (.inl whole)).trans fits
      rw [List.append_assoc] at fits' ⊢
      have whole' : rest = [] ∨ rest.getLast? = some '\n' := by
        cases rest with
        | nil => exact .inl rfl
        | cons c rest => exact .inr (by simpa [List.getLast?_append] using whole)
      have shorter : rest.length < (text ++ rest).length := by
        rw [List.length_append]
        omega
      obtain ⟨modes', run⟩ := ih _ shorter whole' done later rfl
      rw [Position.advance_append]
      exact ⟨modes', .head (.cut text fits' here) run⟩

theorem draft_of_blank {draft : Draft} {stop span : Span} {items : List Item}
    (finished : draft.finish stop = .ok items) (blank : items.getLast? = some (.blank span)) :
    draft = ⟨[], items.reverse, .item⟩ := by
  obtain ⟨blocks, before, awaiting⟩ := draft
  obtain ⟨closed, finishes⟩ := Draft.finishes_of_finish finished
  have value (entry : Draft.Entry) (node : ValueNode) : entry.item node ≠ .blank span := by
    cases entry <;> nofun
  simp only at closed finishes
  subst closed
  cases finishes with
  | item => rw [List.reverse_reverse]
  | complete completes =>
    simp only [List.reverse_cons, List.getLast?_concat, Option.some.injEq] at blank
    subst blank
    generalize ends : Item.blank span = item at completes
    cases completes with
    | value entry node => exact absurd ends.symm (value entry node)
    | _ => cases ends
  | lines | lastLine =>
    simp only [List.reverse_cons, List.getLast?_concat, Option.some.injEq] at blank
    exact absurd blank (value _ _)

end Reading

namespace Document

open Reading

/-- Behind a document that ends in a blank line, or none, the reading is where it was at the start,
further on and with the items of the document. -/
theorem run_of_parseItems {limit : Nat} {front : String} {before : List Item}
    (read : parseItems limit front = .ok before)
    (ends : front = "" ∨ front.toList.getLast? = some '\n' ∧
      ∃ span, before.getLast? = some (.blank span)) (back : List Char) :
    Run limit ⟨.start 0 (front.toList ++ back), .empty⟩
      ⟨⟨0, Position.start.advance front.toList, [.main], back⟩, ⟨[], before.reverse, .item⟩⟩ := by
  obtain ⟨tokens, scanned, last, taken, finished⟩ := parseItems_eq_ok_iff.1 read
  obtain ⟨rfl, done⟩ := scan_of_tokenize scanned
  have whole : front.toList = [] ∨ front.toList.getLast? = some '\n' := by
    rcases ends with rfl | ⟨newline, _⟩
    · exact .inl rfl
    · exact .inr newline
  have same : last = ⟨[], before.reverse, .item⟩ := by
    rcases ends with rfl | ⟨_, span, blank⟩
    · have nothing : (Scan.ofText 0 "").tokens = [] := congrArg Scan.tokens (behind_of_done rfl)
      rw [nothing] at taken
      cases taken
      cases finished
      rfl
    · exact draft_of_blank finished blank
  obtain ⟨modes, run⟩ := run_append limit 0 back whole done taken
  have modes : modes = last.awaiting.modes := (inStep_start (front.toList ++ back)).run run
  rw [same] at run modes
  rw [modes] at run
  exact run

theorem mirrors_parseItems {limit : Nat} {front : String} {before : List Item}
    (read : parseItems limit front = .ok before)
    (ends : front = "" ∨ front.toList.getLast? = some '\n' ∧
      ∃ span, before.getLast? = some (.blank span)) (back : String) :
    Mirrors (Span.past front.toList)
      (fun later whole => whole = before ++ (Redaction.past front.toList).items later)
      (parseItems limit back) (parseItems limit (front ++ back)) := by
  have whole : front.toList = [] ∨ front.toList.getLast? = some '\n' := by
    rcases ends with rfl | ⟨newline, _⟩
    · exact .inl rfl
    · exact .inr newline
  have start := Position.advance_start front.toList whole
  have reached : Run limit ⟨.start 0 (front.toList ++ back.toList), .empty⟩
      ⟨(Cursor.start 0 back.toList).past front.toList,
        ((Redaction.past front.toList).draft .empty).onto before.reverse⟩ := by
    have run := run_of_parseItems read ends back.toList
    rw [start] at run
    exact run
  have stop : endOf (front ++ back) = (endOf back).past front.toList := by
    rw [endOf, String.toList_append, Position.advance_append, start, Position.advance_past]
    rfl
  have moved := outcome_past front.toList before.reverse limit ⟨0, .emptyAt (endOf back)⟩
    ⟨.start 0 back.toList, .empty⟩ trivial
  rw [List.reverse_reverse] at moved
  rw [parseItems_eq, parseItems_eq, String.toList_append, outcome_of_run reached, stop]
  exact moved

def EndsBlank (filename : String) (limit : Nat) (text : String) : Prop :=
  text = "" ∨ text.toList.getLast? = some '\n' ∧ ∃ document span,
    parse filename limit text = .ok document ∧ document.items.getLast? = some (.blank span)

/-- What stands behind a document that ends in a blank line is read as if it stood alone. It is a
document if and only if it is one alone; the items of the whole are then those of the first and
those of the second, moved past the first. Otherwise the error is the same one, moved past it. -/
theorem parse_append (filename : String) {limit : Nat} {front : String}
    (ends : EndsBlank filename limit front) (back : String) :
    ∃ before, parse filename limit front = .ok before ∧
      match parse filename limit back with
      | .ok later => ∃ whole, parse filename limit (front ++ back) = .ok whole ∧
          whole.items = before.items ++ (Redaction.past front.toList).items later.items
      | .error error =>
        parse filename limit (front ++ back) =
          .error (error.mapSpan (Span.past front.toList)) := by
  have starts : ∃ before, parse filename limit front = .ok before ∧
      parseItems limit front = .ok before.items ∧
      (front = "" ∨ front.toList.getLast? = some '\n' ∧
        ∃ span, before.items.getLast? = some (.blank span)) := by
    rcases ends with rfl | ⟨newline, before, span, read, blank⟩
    · have nothing : parseItems limit "" = .ok [] := parseItems_of_run .refl rfl
      have read : parse filename limit "" =
          .ok ⟨[], ⟨0, ⟨.start, endOf ""⟩⟩, .single filename ""⟩ := by
        rw [parse, nothing]
        rfl
      exact ⟨_, read, nothing, .inl rfl⟩
    · obtain ⟨items, here, made⟩ := except_bind_eq_ok.1 read
      cases made
      exact ⟨_, read, here, .inr ⟨newline, span, blank⟩⟩
  obtain ⟨before, read, here, ends⟩ := starts
  refine ⟨before, read, ?_⟩
  obtain ⟨later, _, alone, whole, rfl⟩ | ⟨fault, alone, whole⟩ :=
    (mirrors_parseItems here ends back).outcomes
  · simp only [parse, alone, whole]
    exact ⟨_, rfl, rfl⟩
  · simp only [parse, alone, whole]
    rfl

theorem parse_append_string_lines :
    let front := "[k]\n\"a\"\n\n"
    let back := "\"b\"\n"
    EndsBlank "lines" 0 front ∧ ∃ before later whole, parse "lines" 0 front = .ok before ∧
      parse "lines" 0 back = .ok later ∧ parse "lines" 0 (front ++ back) = .ok whole ∧
      whole.items = before.items ++ (Redaction.past front.toList).items later.items := by
  intro front back
  have ends : EndsBlank "lines" 0 front := .inr ⟨by decide, _, _, by cbv, rfl⟩
  have second : ∃ later, parse "lines" 0 back = .ok later := ⟨_, by cbv⟩
  obtain ⟨before, first, joined⟩ := parse_append "lines" ends back
  obtain ⟨later, second⟩ := second
  rw [second] at joined
  obtain ⟨whole, both, items⟩ := joined
  exact ⟨ends, before, later, whole, first, second, both, items⟩

end Document

end ConfigLang
