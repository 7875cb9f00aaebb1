import ConfigLang.Proofs.Grammar.Leaf
import ConfigLang.Proofs.Token.Cut
/-! The text of a comment. It is gathered token by token, white space included, up to the end of
the line; in the source it is what stands between the `#` and the last token that is not white
space. Trimming makes the two the same. -/
namespace ConfigLang

theorem Position.offset_max (p q : Position) : (p.max q).offset = Nat.max p.offset q.offset := by
  unfold Position.max Position.compare
  rcases Nat.lt_trichotomy p.offset q.offset with less | same | greater
  · rw [Nat.compare_eq_lt.2 less]
    exact (Nat.max_eq_right (Nat.le_of_lt less)).symm
  · split
    · exact (Nat.max_eq_left (Nat.le_of_eq same.symm)).symm
    · exact (Nat.max_eq_right (Nat.le_of_eq same)).symm
  · rw [Nat.compare_eq_gt.2 greater]
    exact (Nat.max_eq_left (Nat.le_of_lt greater)).symm

theorem Span.stop_through {a b : Span} (same : a.file = b.file) :
    (a.through b).range.stop.offset = Nat.max a.range.stop.offset b.range.stop.offset := by
  rw [through, if_pos same]
  exact Position.offset_max _ _

namespace Grammar

theorem stop_of_body {file : FileId} {body rest : List Token} {position : Position}
    {text gap : List Char} {span : Span} (cut : Cut file position text (body ++ rest))
    (sameFile : span.file = file)
    (reached : span.range.stop.offset + Text.byteLength gap = position.offset)
    (blank : ∀ c ∈ gap, Text.isBlank c = true) :
    ∃ kept blanks, gap ++ textOf body = kept ++ blanks ∧
      (∀ c ∈ blanks, Text.isBlank c = true) ∧
      ((body.filter Token.isSignificant).foldl (fun span token => span.through token.span)
        span).range.stop.offset = span.range.stop.offset + Text.byteLength kept := by
  induction body generalizing position text gap span with
  | nil => exact ⟨[], gap, by simp, blank, rfl⟩
  | cons token body ih =>
    rw [List.cons_append] at cut
    cases cut with
    | token token tokenSpan nonempty whiteSpace others =>
      have stop : (position.advance token.text.toList).offset =
          position.offset + Text.byteLength token.text.toList := Position.offset_advance _ _
      by_cases kind : token.kind = .whitespace
      · have skipped : Token.isSignificant token = false := by simp [Token.isSignificant, kind]
        rw [List.filter_cons_of_neg (by simp [skipped])]
        obtain ⟨kept, blanks, split, allBlank, reached⟩ := @ih _ _ (gap ++ token.text.toList) _
          others sameFile (by rw [Text.byteLength_append, stop]; omega)
          (fun c member => (List.mem_append.1 member).elim (blank c) (whiteSpace kind c))
        refine ⟨kept, blanks, ?_, allBlank, reached⟩
        rw [← split, List.append_assoc]
        rfl
      · have seen : Token.isSignificant token = true := by simp [Token.isSignificant, kind]
        have tokenFile : span.file = token.span.file := by rw [sameFile, tokenSpan]
        have throughFile : (span.through token.span).file = file := by
          rw [Span.through, if_pos tokenFile]
          exact sameFile
        have throughStop : (span.through token.span).range.stop.offset =
            position.offset + Text.byteLength token.text.toList := by
          rw [Span.stop_through tokenFile, tokenSpan, stop]
          exact Nat.max_eq_right (by omega)
        obtain ⟨kept, blanks, split, allBlank, whole⟩ := @ih _ _ [] _ others throughFile
          (by rw [throughStop, stop]; rfl) (List.forall_mem_nil _)
        refine ⟨gap ++ token.text.toList ++ kept, blanks, ?_, allBlank, ?_⟩
        · rw [List.append_assoc, ← split]
          simp
        · rw [List.filter_cons_of_pos seen, List.foldl_cons, whole, throughStop,
            Text.byteLength_append, Text.byteLength_append]
          omega

/-- What a comment's tokens say is the source behind its `#`, but for blanks at the ends. -/
theorem trims_commentSource {file : FileId} {hash : Token} {body rest : List Token}
    {position : Position} {before text : List Char}
    (cut : Cut file position text (hash :: (body ++ rest)))
    (behind : position.offset = Text.byteLength before) :
    Trims (commentSource (before ++ text) hash (body.filter Token.isSignificant))
      (Text.trim (textOf body)) := by
  cases cut with
  | token hash span nonempty blank others =>
    have stop : hash.span.range.stop.offset = Text.byteLength (before ++ hash.text.toList) := by
      rw [span, Text.byteLength_append, ← behind]
      exact Position.offset_advance _ _
    have reached : hash.span.range.stop.offset + Text.byteLength [] =
        (position.advance hash.text.toList).offset := by rw [span]; rfl
    obtain ⟨kept, blanks, split, allBlank, whole⟩ := stop_of_body others (by rw [span]) reached nofun
    rw [List.nil_append] at split
    have later := others.textOf_eq
    rw [textOf_append, split] at later
    have slice := Text.sliceBytes_append (before ++ hash.text.toList) kept (blanks ++ textOf rest)
    rw [List.append_assoc] at slice
    rw [trims_iff, commentSource, commentSpan, whole, stop, ← later, List.append_assoc kept, slice,
      Option.getD_some, split, Text.trim_append_blank allBlank]

end Grammar

end ConfigLang
