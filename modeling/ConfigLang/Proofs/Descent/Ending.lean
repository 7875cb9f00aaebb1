import ConfigLang.Proofs.Descent.Agreement
import ConfigLang.Proofs.Descent.Progress
/-! Building a tree ends, whatever the tokens are: every call has its run, which only goes forward
and opens no more blocks than may be open, and a call that gives a part of a document has taken
tokens for it. The run that starts with the first token builds what a draft builds of the tokens. -/
namespace ConfigLang.Descent

open Builder

/-- Whether what is called for takes a token; a loop may have none to take, and a string line may
consist of the piece that was read before. -/
def Call.takes : Call → Bool
  | items _ _ => false
  | commentText _ _ => false
  | line (some _) => false
  | pieces _ => false
  | lines _ => false
  | _ => true

theorem Advances.left_lt {c : Call} {place : Place} {answer : c.Answer} {rest : List Token}
    (advances : Advances place c answer rest) (takes : c.takes = true) :
    countOf rest < place.left := by
  cases c with
  | items inBlock before => cases takes
  | commentText span text => cases takes
  | pieces before => cases takes
  | lines before => cases takes
  | line first? =>
    cases first? with
    | none => exact advances
    | some first => cases takes
  | _ => exact advances

structure Orderly (limit : Nat) (c : Call) (place : Place) (visits : List Place)
    (outcome : Except Error (c.Answer × Place)) : Prop where
  /-- No place lies behind one that was visited before, and none past the end of the tokens. -/
  onwards : (place :: visits).Pairwise fun earlier later => later.rest <:+ earlier.rest
  /-- The open blocks stay counted, and no more are open than may be. -/
  counted : place.Counted limit → ∀ visit ∈ visits, visit.Counted limit
  /-- The last place lies behind all others, in as many blocks as the first one. -/
  answered : ∀ answer last, outcome = .ok (answer, last) →
    (∀ visit ∈ place :: visits, last.rest <:+ visit.rest) ∧
      last.depth = place.depth ∧ last.braces = place.braces
  /-- What is called for has taken a token. -/
  progresses : c.takes = true → ∀ answer last, outcome = .ok (answer, last) →
    last.left < place.left

theorem Orderly.of_runs {stop : Span} {limit : Nat} {c : Call} {place : Place} {visits : List Place}
    {outcome : Except Error (c.Answer × Place)}
    (run : Runs (body stop) limit (body stop c) place visits outcome) :
    Orderly limit c place visits outcome where
  onwards := List.pairwise_cons.2 ⟨run.forward.behind, run.forward.ordered⟩
  counted := run.counted
  answered answer last given := ⟨run.forward.ends answer last given, run.restores answer last given⟩
  progresses takes answer last given := by
    obtain ⟨visits', outcome', run', gives⟩ := exists_answer stop limit c place
    obtain ⟨rfl, rfl⟩ := run.unique run'
    subst given
    exact Advances.left_lt gives takes

/-- Building a tree always ends. Each call has exactly one run, and that is orderly. The run for the
items of a document gives what is built of the tokens; with the items, all tokens are taken and no
block is open. -/
theorem tree_building_ends (limit : Nat) (stop : Span) :
    (∀ c place, ∃ visits outcome, Runs (body stop) limit (body stop c) place visits outcome ∧
      (∀ visits' outcome', Runs (body stop) limit (body stop c) place visits' outcome' →
        visits' = visits ∧ outcome' = outcome) ∧
      Orderly limit c place visits outcome) ∧
    ∀ tokens, ∃ visits outcome,
      Runs (body stop) limit (body stop (.items false [])) ⟨tokens, 0, []⟩ visits outcome ∧
      outcome.map Prod.fst = Draft.build limit stop tokens ∧
      (∀ visit ∈ visits, visit.Counted limit ∧ visit.rest <:+ tokens) ∧
      ∀ items last, outcome = .ok (items, last) → last.depth = 0 ∧ last.next? = none := by
  constructor
  · intro c place
    obtain ⟨visits, outcome, run, _⟩ := exists_answer stop limit c place
    exact ⟨visits, outcome, run, fun _ _ run' => run'.unique run, .of_runs run⟩
  · intro tokens
    obtain ⟨visits, outcome, run, _⟩ := exists_answer stop limit (.items false []) ⟨tokens, 0, []⟩
    obtain ⟨builds, finished⟩ := run.builds
    have counted := run.counted ⟨rfl, Nat.zero_le limit⟩
    refine ⟨visits, outcome, run, builds,
      fun visit member => ⟨counted visit member, run.forward.behind visit member⟩, ?_⟩
    exact fun items last given => ⟨(run.restores items last given).1, finished items last given⟩

/-- An element that is a block with a string line in it. The piece of that line takes a token. -/
theorem tree_building_ends_one_block :
    let token (kind : Token.Kind) : Token := ⟨kind, "", default⟩
    let line := [token .plus, token .newline, token .closeCurly, token .newline]
    let tokens := token .minus :: token .openCurly :: token .newline :: line
    (∃ visits items last, Runs (body default) 1 (body default (.items false [])) ⟨tokens, 0, []⟩
        visits (.ok (items, last)) ∧
      (∀ visit ∈ visits, visit.depth ≤ 1) ∧ last.depth = 0 ∧ items.length = 1) ∧
      ∃ visits last, Runs (body default) 1 (body default .element) ⟨line, 1, [default]⟩ visits
        (.ok (StringElement.plus default, last)) ∧ last.left < 4 := by
  intro token line tokens
  obtain ⟨calls, builds⟩ := tree_building_ends 1 default
  constructor
  · obtain ⟨visits, outcome, run, built, counted, finished⟩ := builds tokens
    have read : ∃ items, Draft.build 1 default tokens = .ok items ∧ items.length = 1 :=
      ⟨_, rfl, rfl⟩
    obtain ⟨items, read, single⟩ := read
    rw [read] at built
    cases outcome with
    | error error => cases built
    | ok given =>
      obtain ⟨items, last⟩ := given
      cases built
      exact ⟨visits, items, last, run, fun visit member => (counted visit member).1.2,
        (finished items last rfl).1, single⟩
  · obtain ⟨visits, outcome, run, only, orderly⟩ := calls .element ⟨line, 1, [default]⟩
    obtain ⟨rfl, rfl⟩ := only _ _ (.look (.pass (.give (StringElement.plus default) _)))
    exact ⟨_, _, run, orderly.progresses rfl _ _ rfl⟩

end ConfigLang.Descent
