import ConfigLang.Text.Blank
import ConfigLang.Proofs.Token.Matching
import ConfigLang.Token.Lexer
/-! The tokens of a text are the text: each stands where the one before it ends, its span is that
of its own characters, and white space is nothing but white space. -/
namespace ConfigLang

/-- The tokens stand one behind the other in a text that starts at a position. -/
inductive Cut (file : FileId) : Position → List Char → List Token → Prop
  | done {position : Position} : Cut file position [] []
  | token {position : Position} {rest : List Char} {tokens : List Token} (token : Token)
      (span : token.span = ⟨file, ⟨position, position.advance token.text.toList⟩⟩)
      (nonempty : token.text.toList ≠ [])
      (blank : token.kind = .whitespace → ∀ c ∈ token.text.toList, Text.isBlank c = true)
      (others : Cut file (position.advance token.text.toList) rest tokens) :
      Cut file position (token.text.toList ++ rest) (token :: tokens)

theorem Text.isBlank_of_patternBlank {c : Char} (blank : Pattern.isBlank c = true) :
    Text.isBlank c = true := by
  unfold Pattern.isBlank at blank
  rcases Bool.or_eq_true_iff.1 blank with space | tab
  · rw [beq_iff_eq.1 space]
    decide
  · rw [beq_iff_eq.1 tab]
    decide

theorem Mode.pattern_of_whitespace : ∀ (mode : Mode), ∀ rule ∈ mode.rules,
    rule.kind = .whitespace → rule.pattern = .blanks := by
  intro mode
  cases mode <;> decide

def textOf (tokens : List Token) : List Char := tokens.flatMap (·.text.toList)

@[simp] theorem textOf_nil : textOf [] = [] := rfl

@[simp] theorem textOf_cons (token : Token) (tokens : List Token) :
    textOf (token :: tokens) = token.text.toList ++ textOf tokens := rfl

theorem textOf_append (xs ys : List Token) : textOf (xs ++ ys) = textOf xs ++ textOf ys :=
  List.flatMap_append

theorem Cut.textOf_eq {file : FileId} {position : Position} {text : List Char} {tokens : List Token}
    (cut : Cut file position text tokens) : textOf tokens = text := by
  induction cut with
  | done => rfl
  | token token _ _ _ _ ih => rw [textOf_cons, ih]

theorem Cut.behind {file : FileId} {position : Position} {text : List Char}
    {before after : List Token} (cut : Cut file position text (before ++ after)) :
    Cut file (position.advance (textOf before)) (textOf after) after := by
  induction before generalizing position text with
  | nil =>
    have whole := cut.textOf_eq
    rw [List.nil_append] at cut whole
    rwa [whole]
  | cons token before ih =>
    cases cut with
    | token _ _ _ _ others =>
      rw [textOf_cons, Position.advance_append]
      exact ih others

structure Scan.Covers (scan : Scan) (cursor : Cursor) : Prop where
  cut : Cut cursor.file cursor.position (textOf scan.tokens) scan.tokens
  rest : cursor.rest = textOf scan.tokens ++ scan.last.rest
  file : scan.last.file = cursor.file
  position : scan.last.position = cursor.position.advance (textOf scan.tokens)

theorem covers_behind (cursor : Cursor) : (Scan.behind cursor).Covers cursor := by
  fun_induction Scan.behind cursor with
  | case1 cursor fits => exact ⟨.done, rfl, rfl, rfl⟩
  | case2 cursor rule n fits next scan ih =>
    obtain ⟨known, length, pos⟩ := Cursor.fitting?_eq_some fits
    have text : (cursor.token rule n).text.toList = cursor.rest.take n := String.toList_ofList
    have nonempty : cursor.rest.take n ≠ [] := by
      have bound := rule.pattern.length_le cursor.rest
      rw [length] at bound
      exact List.ne_nil_of_length_pos (by rw [List.length_take]; omega)
    have blank (kind : rule.kind = .whitespace) : ∀ c ∈ cursor.rest.take n, Text.isBlank c = true := by
      rw [Mode.pattern_of_whitespace _ rule known kind] at length
      rw [← length]
      exact fun c member => Text.isBlank_of_patternBlank (Pattern.all_take_run _ _ c member)
    constructor
    · refine .token (cursor.token rule n) ?_ (by rwa [text]) (by rwa [text]) ?_
      · rw [text]
        rfl
      · rw [text]
        exact ih.cut
    · have rest : cursor.rest.drop n = textOf scan.tokens ++ scan.last.rest := ih.rest
      refine (List.take_append_drop n cursor.rest).symm.trans ?_
      rw [rest, ← List.append_assoc, ← text]
      rfl
    · exact ih.file
    · have position : scan.last.position = (cursor.position.advance (cursor.rest.take n)).advance
        (textOf scan.tokens) := ih.position
      rw [← Position.advance_append, ← text] at position
      exact position

theorem scan_of_tokenize {file : FileId} {text : String} {tokens : List Token}
    (done : tokenize file text = .ok tokens) :
    (Scan.ofText file text).tokens = tokens ∧ (Scan.ofText file text).last.rest = [] := by
  cases failed : (Scan.ofText file text).error? with
  | some error =>
    simp only [tokenize, failed] at done
    cases done
  | none =>
    simp only [tokenize, failed] at done
    cases done
    rw [Scan.error?, Option.map_eq_none_iff, List.head?_eq_none_iff] at failed
    exact ⟨rfl, failed⟩

theorem cut_of_tokenize {file : FileId} {text : String} {tokens : List Token}
    (done : tokenize file text = .ok tokens) : Cut file .start text.toList tokens := by
  have covers := covers_behind (.start file text.toList)
  obtain ⟨rfl, used⟩ := scan_of_tokenize done
  have whole : text.toList = textOf (Scan.ofText file text).tokens ++
      (Scan.ofText file text).last.rest := covers.rest
  rw [used, List.append_nil] at whole
  rw [whole]
  exact covers.cut

end ConfigLang
