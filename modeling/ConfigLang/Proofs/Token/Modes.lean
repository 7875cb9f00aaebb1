import Mathlib
import ConfigLang.Proofs.Spacing.Basic
import ConfigLang.Proofs.Token.Tiling
/-! The stack of modes. `main` lies at its bottom and nowhere else, a key that spans lines may lie
on it, and one mode more on top. What keeps the stack so is a matter of the tables of forms alone:
whatever form is taken leads from one of seven stacks to one of them. -/
namespace ConfigLang

namespace Mode

/-- A mode that is popped has another one below it, so the lexer never comes to the case in which
nothing is popped. -/
theorem nestings_pop : ∀ modes ∈ nestings, ∀ rule ∈ (current modes).rules,
    rule.change = .pop → 2 ≤ modes.length := by
  decide

theorem nestings_newline : ∀ modes ∈ nestings, ∀ rule ∈ (current modes).rules,
    rule.kind = .newline → current (rule.change.apply modes) = main ∨
      current (rule.change.apply modes) = multilineKey := by
  decide

theorem nestings_bottom : ∀ modes ∈ nestings,
    modes.getLast? = some main ∧ main ∉ modes.dropLast := by
  decide

end Mode

namespace TokenStream

theorem nested_next {stream : TokenStream} (nested : stream.cursor.modes ∈ Mode.nestings) :
    stream.next.2.cursor.modes ∈ Mode.nestings := by
  obtain ⟨cursor, failed⟩ := stream
  cases failed with
  | true => exact nested
  | false =>
    cases fits : cursor.fitting? with
    | some fit =>
      obtain ⟨rule, n⟩ := fit
      rw [next_of_fits fits]
      exact Mode.nestings_step _ nested rule (Cursor.fitting?_eq_some fits).1
    | none =>
      cases rest : cursor.rest with
      | nil =>
        rw [next_of_done rest]
        exact nested
      | cons found behind =>
        rw [next_of_misfit rest fits]
        exact nested

theorem nested_after {stream : TokenStream} (nested : stream.cursor.modes ∈ Mode.nestings)
    (n : Nat) : (stream.after n).cursor.modes ∈ Mode.nestings := by
  induction n generalizing stream with
  | zero => exact nested
  | succ n ih => exact ih (nested_next nested)

theorem fits_of_next {stream : TokenStream} {token : Token}
    (given : stream.next.1 = some (.ok token)) :
    ∃ rule k, stream.cursor.fitting? = some (rule, k) ∧ token.kind = rule.kind ∧
      stream.next.2.cursor.modes = rule.change.apply stream.cursor.modes := by
  obtain ⟨cursor, failed⟩ := stream
  cases failed with
  | true => cases given
  | false =>
    cases fits : cursor.fitting? with
    | some fit =>
      obtain ⟨rule, k⟩ := fit
      rw [next_of_fits fits] at given ⊢
      cases given
      exact ⟨rule, k, rfl, rfl, rfl⟩
    | none =>
      cases rest : cursor.rest with
      | nil =>
        rw [next_of_done rest] at given
        cases given
      | cons found behind =>
        rw [next_of_misfit rest fits] at given
        cases given

theorem mode_behind_newline {stream : TokenStream} {token : Token}
    (nested : stream.cursor.modes ∈ Mode.nestings)
    (given : stream.next.1 = some (.ok token)) (ends : token.kind = .newline) :
    stream.next.2.cursor.mode = .main ∨ stream.next.2.cursor.mode = .multilineKey := by
  obtain ⟨rule, k, fits, kind, modes⟩ := fits_of_next given
  rw [Cursor.mode, modes]
  exact Mode.nestings_newline _ nested rule (Cursor.fitting?_eq_some fits).1 (kind ▸ ends)

theorem modes_of_step (cursor : Cursor) (n : Nat) (step : Token × List Mode) :
    (Scan.behind cursor).steps[n]? = some step →
      answer ⟨cursor, false⟩ n = some (.ok step.1) ∧
        step.2 = (after (n + 1) ⟨cursor, false⟩).cursor.modes := by
  fun_induction Scan.behind cursor generalizing n with
  | case1 =>
    intro noted
    cases noted
  | case2 cursor rule k fits next scan ih =>
    intro noted
    have given := next_of_fits fits
    cases n with
    | zero =>
      cases noted
      rw [answer_zero, after, given]
      exact ⟨rfl, rfl⟩
    | succ n =>
      rw [answer_succ, after, given]
      exact ih n noted

end TokenStream

/-- At every moment the stack of modes is one of seven. `main` is at its bottom and only there, a
form that pops a mode finds at least two, and behind a token that ends a line the lexer is in
`main`, or in a key that spans lines. A scan notes the same modes behind its tokens. -/
theorem modes_nest (file : FileId) (text : String) :
    let stream := TokenStream.start file text.toList
    (∀ n, let now := stream.after n
      now.cursor.modes ∈ Mode.nestings ∧
      (∃ above, now.cursor.modes = above ++ [.main] ∧ .main ∉ above) ∧
      (∀ rule k, now.cursor.fitting? = some (rule, k) → rule.change = .pop →
        2 ≤ now.cursor.modes.length) ∧
      ∀ token, now.next.1 = some (.ok token) → token.kind = .newline →
        now.next.2.cursor.mode = .main ∨ now.next.2.cursor.mode = .multilineKey) ∧
    ∀ n step, (Scan.ofText file text).steps[n]? = some step →
      stream.answer n = some (.ok step.1) ∧
        step.2 = (stream.after (n + 1)).cursor.modes := by
  intro stream
  refine ⟨fun n => ?_, TokenStream.modes_of_step _⟩
  intro now
  have start : stream.cursor.modes ∈ Mode.nestings := List.mem_cons_self
  have nested : now.cursor.modes ∈ Mode.nestings := TokenStream.nested_after start n
  refine ⟨nested, ?_, fun rule k fits => ?_, fun token =>
    TokenStream.mode_behind_newline nested⟩
  · obtain ⟨last, alone⟩ := Mode.nestings_bottom _ nested
    obtain ⟨above, split⟩ := List.getLast?_eq_some_iff.1 last
    rw [split, List.dropLast_concat] at alone
    exact ⟨above, split, alone⟩
  · exact Mode.nestings_pop _ nested rule (Cursor.fitting?_eq_some fits).1

/-- A place in a key that spans lines lies three modes deep; behind the end of the first line. -/
theorem modes_nest_inside_key :
    let stream := TokenStream.start 0 "[\n<<".toList
    ((stream.after 1).next.1.bind fun read => read.toOption.map Token.kind) = some .newline ∧
      ((stream.after 1).next.2.cursor.mode = .main ∨
        (stream.after 1).next.2.cursor.mode = .multilineKey) ∧
      (stream.after 3).cursor.modes = [.placeholder, .multilineKey, .main] ∧
      (stream.after 3).cursor.modes ∈ Mode.nestings := by
  intro stream
  have nest := (modes_nest 0 "[\n<<").1
  refine ⟨by cbv, (nest 1).2.2.2 ⟨.newline, "\n", ⟨0, ⟨⟨1, 0, 1⟩, ⟨2, 1, 0⟩⟩⟩⟩ (by cbv) (by cbv),
    by cbv, (nest 3).1⟩

end ConfigLang
