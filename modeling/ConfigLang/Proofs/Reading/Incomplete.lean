import ConfigLang.Proofs.Blame.Reading
/-! Reading the first tokens of a document. A token is refused for what stands in front of it, never
for what is missing behind it. So tokens that a document starts with are read or found to end too
soon, and tokens that are at fault are at fault whatever comes behind them. -/
namespace ConfigLang.Draft

def build (limit : Nat) (stop : Span) (tokens : List Token) : Except Error (List Item) :=
  (empty.pushAll limit tokens).bind (·.finish stop)

/-- The tokens are read, or nothing is wrong with them but that they end too soon. -/
def ReadsOrEnds (stop : Span) (outcome : Except Error (List Item)) : Prop :=
  (∃ items, outcome = .ok items) ∨ ∃ expected, outcome = .error (.unexpectedEnd expected stop)

section tokens

variable {limit : Nat} {stop stop' : Span} {draft : Draft} {tokens later : List Token}
  {error : Error}

theorem isUnexpectedEnd_of_pushAll (refused : draft.pushAll limit tokens = .error error) :
    error.isUnexpectedEnd = false := by
  induction tokens generalizing draft with
  | nil => cases refused
  | cons token tokens ih =>
    cases taken : draft.push limit token with
    | error fault =>
      simp only [pushAll, taken, bind, Except.bind] at refused
      cases refused
      exact (blames_push limit draft token error taken).2
    | ok next =>
      simp only [pushAll, taken, bind, Except.bind] at refused
      exact ih refused

theorem pushAll_append_of_error (refused : draft.pushAll limit tokens = .error error)
    (later : List Token) : draft.pushAll limit (tokens ++ later) = .error error := by
  rw [pushAll_append, refused]
  rfl

theorem exists_pushAll_of_append {last : Draft}
    (taken : draft.pushAll limit (tokens ++ later) = .ok last) :
    ∃ next, draft.pushAll limit tokens = .ok next := by
  cases here : draft.pushAll limit tokens with
  | ok next => exact ⟨next, rfl⟩
  | error fault =>
    rw [pushAll_append_of_error here later] at taken
    cases taken

theorem readsOrEnds_iff (limit : Nat) (stop : Span) (tokens : List Token) :
    ReadsOrEnds stop (build limit stop tokens) ↔
      ∃ last, empty.pushAll limit tokens = .ok last := by
  unfold build
  cases taken : empty.pushAll limit tokens with
  | ok last =>
    refine iff_of_true ?_ ⟨last, rfl⟩
    cases finished : last.finish stop with
    | ok items => exact .inl ⟨items, finished⟩
    | error fault =>
      obtain ⟨expected, rfl⟩ := unexpectedEnd_of_finish finished
      exact .inr ⟨expected, finished⟩
  | error fault =>
    refine iff_of_false ?_ nofun
    rintro (⟨items, read⟩ | ⟨expected, ended⟩)
    · cases read
    · cases ended
      cases isUnexpectedEnd_of_pushAll taken

theorem ReadsOrEnds.of_append
    (reads : ReadsOrEnds stop' (build limit stop' (tokens ++ later))) (stop : Span) :
    ReadsOrEnds stop (build limit stop tokens) := by
  obtain ⟨last, taken⟩ := (readsOrEnds_iff limit stop' (tokens ++ later)).1 reads
  exact (readsOrEnds_iff limit stop tokens).2 (exists_pushAll_of_append taken)

theorem build_append_of_error (failed : build limit stop tokens = .error error)
    (inside : error.isUnexpectedEnd = false) (later : List Token) (stop' : Span) :
    build limit stop' (tokens ++ later) = .error error := by
  unfold build at failed ⊢
  cases taken : empty.pushAll limit tokens with
  | ok last =>
    rw [taken] at failed
    obtain ⟨expected, rfl⟩ := unexpectedEnd_of_finish failed
    cases inside
  | error fault =>
    rw [taken] at failed
    cases failed
    rw [pushAll_append_of_error taken later]
    rfl

end tokens

/-- The first tokens of a document are read, or the only error is that the input ends too soon. Any
other error is the error of everything that starts with these tokens, so that none of it is a
document. -/
theorem first_tokens_read_or_end (limit : Nat) (tokens later : List Token) (stop stop' : Span) :
    (∀ items, build limit stop' (tokens ++ later) = .ok items →
      (∃ parsed, build limit stop tokens = .ok parsed) ∨
        ∃ expected, build limit stop tokens = .error (.unexpectedEnd expected stop)) ∧
    ∀ error, build limit stop tokens = .error error →
      (∀ expected span, error ≠ .unexpectedEnd expected span) →
        build limit stop' (tokens ++ later) = .error error := by
  constructor
  · intro items read
    have whole : ReadsOrEnds stop' (build limit stop' (tokens ++ later)) := .inl ⟨items, read⟩
    exact whole.of_append stop
  · intro error failed other
    refine build_append_of_error failed ?_ later stop'
    cases error with
    | unexpectedEnd expected span => exact absurd rfl (other expected span)
    | _ => rfl

/-- The tokens of a block. Those in front of its brace end too soon, and those from the brace on are
at fault. -/
theorem first_tokens_read_or_end_block :
    let token (kind : Token.Kind) : Token := ⟨kind, "", default⟩
    let front := [token .minus, token .openCurly, token .newline]
    let later := [token .closeCurly, token .newline]
    (∃ items, build 1 default (front ++ later) = .ok items) ∧
      ((∃ parsed, build 1 default front = .ok parsed) ∨
        ∃ expected, build 1 default front = .error (.unexpectedEnd expected default)) ∧
      ∃ error, build 1 default later = .error error ∧
        (∀ expected span, error ≠ .unexpectedEnd expected span) ∧
        build 1 default (later ++ front) = .error error := by
  intro token front later
  have read : ∃ items, build 1 default (front ++ later) = .ok items := ⟨_, rfl⟩
  have failed : ∃ error, build 1 default later = .error error ∧
      ∀ expected span, error ≠ .unexpectedEnd expected span := ⟨_, rfl, nofun⟩
  obtain ⟨items, read⟩ := read
  obtain ⟨error, failed, other⟩ := failed
  have ends := (first_tokens_read_or_end 1 front later default default).1 items read
  have stays := (first_tokens_read_or_end 1 later front default default).2 error failed other
  exact ⟨⟨items, read⟩, ends, error, failed, other, stays⟩

end ConfigLang.Draft
