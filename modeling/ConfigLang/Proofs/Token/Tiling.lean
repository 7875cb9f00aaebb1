import ConfigLang.Proofs.Token.Cut
/-! The tokens tile the text. They are not empty, the first stands at the start, each of the
others stands where the one before it ends, and every position is counted right. They leave
nothing over but what follows an error, and an error is a character at which no form of its
mode matches. A lexer that is asked for one token at a time gives the same tokens, then the
error, and then nothing. -/
namespace ConfigLang

/-- The position is counted right: it is the one behind the text in front of it. -/
def Position.Within (source : List Char) (position : Position) : Prop :=
  ∃ front, Text.sliceBytes 0 position.offset source = some front ∧
    position = Position.start.advance front

structure Token.Stands (file : FileId) (source : List Char) (token : Token) : Prop where
  nonempty : token.text ≠ ""
  file : token.span.file = file
  start : token.span.range.start.Within source
  stop : token.span.range.stop.Within source
  slice : Text.sliceBytes token.span.range.start.offset token.span.range.stop.offset source =
    some token.text.toList

/-- The first token starts at the position, and each other one where the one before it ends. -/
def Adjoin (position : Position) : List Token → Prop
  | [] => True
  | token :: rest => token.span.range.start = position ∧ Adjoin token.span.range.stop rest

theorem Position.offset_advance_start (front : List Char) :
    (Position.start.advance front).offset = Text.byteLength front := by
  rw [Position.offset_advance]
  exact Nat.zero_add _

theorem Position.within_advance (front behind : List Char) :
    (Position.start.advance front).Within (front ++ behind) := by
  refine ⟨front, ?_, rfl⟩
  have slice := Text.sliceBytes_append [] front behind
  rw [Text.byteLength_nil, Nat.zero_add, List.nil_append] at slice
  rw [offset_advance_start]
  exact slice

theorem Cut.adjoin {file : FileId} {position : Position} {text : List Char} {tokens : List Token}
    (cut : Cut file position text tokens) : Adjoin position tokens := by
  induction cut with
  | done => trivial
  | token token span _ _ _ ih =>
    rw [Adjoin, span]
    exact ⟨rfl, ih⟩

theorem Cut.first {file : FileId} {position : Position} {text : List Char} {token : Token}
    {tokens : List Token} (cut : Cut file position text (token :: tokens)) :
    token.span = ⟨file, ⟨position, position.advance token.text.toList⟩⟩ ∧
      token.text.toList ≠ [] := by
  cases cut with
  | token token span nonempty _ _ => exact ⟨span, nonempty⟩

theorem Cut.stands {file : FileId} {text behind : List Char} {tokens : List Token}
    (cut : Cut file .start text tokens) :
    ∀ token ∈ tokens, token.Stands file (text ++ behind) := by
  intro token member
  obtain ⟨before, after, rfl⟩ := List.append_of_mem member
  obtain ⟨span, nonempty⟩ := cut.behind.first
  have split : text ++ behind =
      textOf before ++ (token.text.toList ++ (textOf after ++ behind)) := by
    rw [← cut.textOf_eq, textOf_append, textOf_cons]
    simp
  have start : token.span.range.start = .advance .start (textOf before) := by rw [span]
  have stop : token.span.range.stop = .advance .start (textOf before ++ token.text.toList) := by
    rw [span, Position.advance_append]
  constructor
  · intro empty
    rw [empty] at nonempty
    exact nonempty rfl
  · rw [span]
  · rw [start, split]
    exact Position.within_advance _ _
  · rw [stop, split, ← List.append_assoc]
    exact Position.within_advance _ _
  · rw [start, stop, Position.offset_advance_start, Position.offset_advance_start,
      Text.byteLength_append, split]
    exact Text.sliceBytes_append _ _ _

namespace Cursor

theorem fitting?_eq_none {cursor : Cursor} :
    cursor.fitting? = none ↔ ∀ rule ∈ cursor.mode.rules, rule.pattern.length cursor.rest = 0 := by
  rw [fitting?, List.findSome?_eq_none_iff]
  refine forall₂_congr fun rule _ => ?_
  cases rule.pattern.length cursor.rest <;> simp

theorem span?_unmatched (cursor : Cursor) (found : Char) :
    (cursor.unmatched found).span? =
      some ⟨cursor.file, ⟨cursor.position, cursor.position.step found⟩⟩ := by
  unfold unmatched
  dsimp only
  split <;> rfl

end Cursor

theorem Scan.fitting?_last (cursor : Cursor) : (Scan.behind cursor).last.fitting? = none := by
  fun_induction Scan.behind cursor with
  | case1 cursor fits => exact fits
  | case2 _ _ _ _ _ _ ih => exact ih

structure TokenStream where
  cursor : Cursor
  failed : Bool

namespace TokenStream

def start (file : FileId) (text : List Char) : TokenStream := ⟨.start file text, false⟩

/-- The next token or error, and the stream behind it. There is none behind an error or at the
end of the text. -/
def next (stream : TokenStream) : Option (Except Error Token) × TokenStream :=
  if stream.failed then (none, stream)
  else match stream.cursor.rest with
    | [] => (none, stream)
    | found :: _ =>
      match stream.cursor.fitting? with
      | none => (some (.error (stream.cursor.unmatched found)), { stream with failed := true })
      | some (rule, n) =>
        (some (.ok (stream.cursor.token rule n)), ⟨stream.cursor.pass rule n, false⟩)

def after : Nat → TokenStream → TokenStream
  | 0, stream => stream
  | n + 1, stream => after n stream.next.2

def answer (stream : TokenStream) (n : Nat) : Option (Except Error Token) :=
  (stream.after n).next.1

@[simp] theorem answer_zero (stream : TokenStream) : stream.answer 0 = stream.next.1 := rfl

@[simp] theorem answer_succ (stream : TokenStream) (n : Nat) :
    stream.answer (n + 1) = stream.next.2.answer n := rfl

theorem next_of_failed (cursor : Cursor) : next ⟨cursor, true⟩ = (none, ⟨cursor, true⟩) := rfl

theorem next_of_done {cursor : Cursor} (done : cursor.rest = []) :
    next ⟨cursor, false⟩ = (none, ⟨cursor, false⟩) := by
  simp only [next, done, Bool.false_eq_true, if_false]

theorem next_of_misfit {cursor : Cursor} {found : Char} {behind : List Char}
    (rest : cursor.rest = found :: behind) (misfit : cursor.fitting? = none) :
    next ⟨cursor, false⟩ = (some (.error (cursor.unmatched found)), ⟨cursor, true⟩) := by
  simp only [next, rest, misfit, Bool.false_eq_true, if_false]

theorem next_of_fits {cursor : Cursor} {rule : Rule} {n : Nat}
    (fits : cursor.fitting? = some (rule, n)) :
    next ⟨cursor, false⟩ = (some (.ok (cursor.token rule n)), ⟨cursor.pass rule n, false⟩) := by
  have shorter := Cursor.length_pass fits
  cases rest : cursor.rest with
  | nil =>
    rw [rest] at shorter
    exact absurd shorter (Nat.not_lt_zero _)
  | cons found behind => simp only [next, rest, fits, Bool.false_eq_true, if_false]

theorem answer_of_stuck {stream : TokenStream} (stuck : stream.next = (none, stream)) (n : Nat) :
    stream.answer n = none := by
  induction n with
  | zero => rw [answer_zero, stuck]
  | succ n ih => rw [answer_succ, stuck, ih]

end TokenStream

def Scan.answers (scan : Scan) : List (Except Error Token) :=
  scan.tokens.map .ok ++ scan.error?.toList.map .error

namespace TokenStream

theorem answer_behind (cursor : Cursor) (n : Nat) :
    answer ⟨cursor, false⟩ n = (Scan.behind cursor).answers[n]? := by
  fun_induction Scan.behind cursor generalizing n with
  | case1 cursor misfit =>
    cases rest : cursor.rest with
    | nil =>
      rw [answer_of_stuck (next_of_done rest)]
      simp [Scan.answers, Scan.tokens, Scan.error?, rest]
    | cons found behind =>
      have answers : Scan.answers ⟨[], cursor⟩ = [.error (cursor.unmatched found)] := by
        simp [Scan.answers, Scan.tokens, Scan.error?, rest]
      rw [answers]
      cases n with
      | zero =>
        rw [answer_zero, next_of_misfit rest misfit]
        rfl
      | succ n =>
        rw [answer_succ, next_of_misfit rest misfit, answer_of_stuck (next_of_failed cursor)]
        rfl
  | case2 cursor rule m fits next scan ih =>
    cases n with
    | zero =>
      rw [answer_zero, next_of_fits fits]
      rfl
    | succ n =>
      rw [answer_succ, next_of_fits fits]
      exact ih n

theorem matches_of_next {stream : TokenStream} {token : Token}
    (given : stream.next.1 = some (.ok token)) :
    ∃ rule ∈ stream.cursor.mode.rules, token.kind = rule.kind ∧
      rule.pattern.Matches token.text.toList := by
  obtain ⟨cursor, failed⟩ := stream
  cases failed with
  | true => cases given
  | false =>
    cases fits : cursor.fitting? with
    | none =>
      cases rest : cursor.rest with
      | nil =>
        rw [next_of_done rest] at given
        cases given
      | cons found behind =>
        rw [next_of_misfit rest fits] at given
        cases given
    | some fit =>
      obtain ⟨rule, n⟩ := fit
      rw [next_of_fits fits] at given
      cases given
      obtain ⟨known, length, positive⟩ := Cursor.fitting?_eq_some fits
      have matched := rule.pattern.matches_take_length cursor.rest (by omega)
      have text : (cursor.token rule n).text.toList = cursor.rest.take n := String.toList_ofList
      refine ⟨rule, known, rfl, ?_⟩
      rw [text, ← length]
      exact matched

theorem cursor_after_tokens (cursor : Cursor) :
    (after (Scan.behind cursor).tokens.length ⟨cursor, false⟩).cursor =
      (Scan.behind cursor).last := by
  fun_induction Scan.behind cursor with
  | case1 => rfl
  | case2 cursor rule n fits next scan ih =>
    have step : after (scan.tokens.length + 1) ⟨cursor, false⟩ =
        after scan.tokens.length ⟨next, false⟩ := by
      rw [after, next_of_fits fits]
    exact (congrArg TokenStream.cursor step).trans ih

end TokenStream

theorem Cut.length_le {file : FileId} {position : Position} {text : List Char}
    {tokens : List Token} (cut : Cut file position text tokens) : tokens.length ≤ text.length := by
  induction cut with
  | done => exact Nat.le_refl _
  | token token _ nonempty _ _ ih =>
    have positive := List.length_pos_iff.2 nonempty
    rw [List.length_cons, List.length_append]
    omega

theorem Scan.length_answers (file : FileId) (text : String) :
    (ofText file text).answers.length ≤ text.toList.length := by
  have covers := covers_behind (.start file text.toList)
  have rest : text.toList = textOf (ofText file text).tokens ++ (ofText file text).last.rest :=
    covers.rest
  have tokens : (ofText file text).tokens.length ≤ (textOf (ofText file text).tokens).length :=
    covers.cut.length_le
  rw [rest, answers, List.length_append, List.length_append, List.length_map, List.length_map,
    error?]
  cases (ofText file text).last.rest with
  | nil => simpa using tokens
  | cons found behind =>
    simp
    omega

/-- The tokens tile the text up to its end or the first error, which is the one character behind
them, where no form matches. Asked for one at a time, the lexer gives the tokens, each a text of
a form of the mode that it is in, then the error, and from then on nothing; that is so after
as many calls as there are characters. -/
theorem tokens_tile (file : FileId) (text : String) :
    let scan := Scan.ofText file text
    let stream := TokenStream.start file text.toList
    Adjoin .start scan.tokens ∧
    (∀ token ∈ scan.tokens, token.Stands file text.toList) ∧
    (scan.error? = none → textOf scan.tokens = text.toList) ∧
    (∀ error, scan.error? = some error → ∃ found behind,
      text.toList = textOf scan.tokens ++ found :: behind ∧
      error.span? = some ⟨file, ⟨.advance .start (textOf scan.tokens),
        .advance .start (textOf scan.tokens ++ [found])⟩⟩ ∧
      ∀ rule ∈ (stream.after scan.tokens.length).cursor.mode.rules, ∀ front,
        front <+: found :: behind → ¬ rule.pattern.Matches front) ∧
    (∀ n, stream.answer n = (scan.tokens.map .ok ++ scan.error?.toList.map .error)[n]?) ∧
    (∀ n token, stream.answer n = some (.ok token) →
      ∃ rule ∈ (stream.after n).cursor.mode.rules, token.kind = rule.kind ∧
        rule.pattern.Matches token.text.toList) ∧
    ∀ n, text.toList.length ≤ n → stream.answer n = none := by
  intro scan stream
  have covers : scan.Covers (.start file text.toList) := covers_behind _
  have rest : text.toList = textOf scan.tokens ++ scan.last.rest := covers.rest
  have given (n : Nat) : stream.answer n = scan.answers[n]? := TokenStream.answer_behind _ n
  refine ⟨covers.cut.adjoin, ?_, ?_, ?_, given, ?_, ?_⟩
  · rw [rest]
    exact covers.cut.stands
  · intro whole
    rw [Scan.error?, Option.map_eq_none_iff, List.head?_eq_none_iff] at whole
    rw [rest, whole, List.append_nil]
  · intro error failed
    obtain ⟨found, head, rfl⟩ := Option.map_eq_some_iff.1 failed
    obtain ⟨behind, left⟩ := List.head?_eq_some_iff.1 head
    refine ⟨found, behind, left ▸ rest, ?_, ?_⟩
    · rw [Cursor.span?_unmatched, covers.file, covers.position, Position.advance_append]
      rfl
    · intro rule known front isPrefix
      have stopped : (stream.after scan.tokens.length).cursor = scan.last :=
        TokenStream.cursor_after_tokens _
      rw [stopped] at known
      have misfit := Cursor.fitting?_eq_none.1 (Scan.fitting?_last (.start file text.toList))
      have here : rule.pattern.length scan.last.rest = 0 := misfit rule known
      rw [left] at here
      exact Pattern.not_matches_of_length here isPrefix
  · intro n token answered
    exact TokenStream.matches_of_next answered
  · intro n enough
    rw [given, List.getElem?_eq_none_iff]
    exact (Scan.length_answers file text).trans enough

end ConfigLang
