import ConfigLang.Proofs.Descent.Program
/-! Contracts. A contract says of every call what its outcome may be at a place. It holds of all
runs if each body keeps it, given that the calls in the body do; and if those calls come with a
smaller measure, then there is a run of every call. -/
namespace ConfigLang.Descent

variable {Call : Type} {Answer : Call → Type} {α β : Type}

/-- What is known of the outcome of each call at a place: the answer, and the tokens left behind
it, or the error. -/
abbrev Contract (Answer : Call → Type) :=
  (c : Call) → Place → Except Error (Answer c × List Token) → Prop

def leftover (outcome : Except Error (α × Place)) : Except Error (α × List Token) :=
  outcome.map fun given => (given.1, given.2.rest)

/-- The outcome of the program is as `post` says, if each of its calls is one that it may make, and
keeps the contract. -/
def Program.Meets (limit : Nat) (may : Call → Place → Prop) (contract : Contract Answer) :
    Program Answer α → Place → (Except Error (α × List Token) → Prop) → Prop
  | .give a, place, post => post (.ok (a, place.rest))
  | .refuse error, _, post => post (.error error)
  | .look next, place, post => (next place.gap place.next?).Meets limit may contract place post
  | .pass next, place, post => next.Meets limit may contract place.pass post
  | .call brace? c next, place, post =>
    (∀ brace ∈ brace?, limit ≤ place.depth → post (.error (.nestingTooDeep limit brace))) ∧
      ((brace?.isSome → place.depth < limit) →
        may c (place.enter brace?) ∧
        (∀ error, contract c (place.enter brace?) (.error error) → post (.error error)) ∧
        ∀ answer rest, contract c (place.enter brace?) (.ok (answer, rest)) → rest <:+ place.rest →
          (next answer).Meets limit may contract { place with rest } post)

section meets

variable {limit : Nat} {may : Call → Place → Prop} {contract : Contract Answer}
  {body : (c : Call) → Program Answer (Answer c)}
  {program : Program Answer α} {place : Place} {post : Except Error (α × List Token) → Prop}

theorem Program.Meets.forall {ι : Sort _} {post : ι → Except Error (α × List Token) → Prop}
    (meets : ∀ x, program.Meets limit (fun _ _ => True) contract place (post x)) :
    program.Meets limit (fun _ _ => True) contract place fun outcome => ∀ x, post x outcome := by
  induction program generalizing place with
  | give a => exact meets
  | refuse error => exact meets
  | look next ih => exact ih _ _ meets
  | pass next ih => exact ih meets
  | call brace? c next ih =>
    refine ⟨fun brace opens full x => (meets x).1 brace opens full, fun room => ⟨trivial, ?_, ?_⟩⟩
    · exact fun error failed x => ((meets x).2 room).2.1 error failed
    · exact fun answer rest given left => ih answer fun x =>
        ((meets x).2 room).2.2 answer rest given left

theorem Runs.leave_of_called {brace? : Option Span} {c : Call} {last : Place} {inside : List Place}
    {answer : Answer c}
    (called : Runs body limit (body c) (place.enter brace?) inside (.ok (answer, last))) :
    last.leave brace? = { place with rest := last.rest } ∧ last.rest <:+ place.rest := by
  obtain ⟨depth, braces⟩ := called.restores _ _ rfl
  have reached := called.forward.ends _ _ rfl _ List.mem_cons_self
  rw [Place.rest_enter] at reached
  exact ⟨Place.leave_of_enter depth braces, reached⟩

theorem Runs.meets
    (kept : ∀ c place, (body c).Meets limit may contract place (contract c place))
    {visits : List Place} {outcome : Except Error (α × Place)}
    (run : Runs body limit program place visits outcome)
    (meets : program.Meets limit may contract place post) : post (leftover outcome) := by
  induction run with
  | give => exact meets
  | refuse => exact meets
  | look run ih => exact ih meets
  | pass run ih => exact ih meets
  | call room called run inside ih =>
    obtain ⟨behind, left⟩ := called.leave_of_called
    rw [behind] at ih
    exact ih ((meets.2 room).2.2 _ _ (inside (kept _ _)) left)
  | callFails room called inside => exact (meets.2 room).2.1 _ (inside (kept _ _))
  | tooDeep full => exact meets.1 _ rfl full

theorem Program.Meets.exists_run
    (runs : ∀ c place, may c place → ∃ visits outcome,
      Runs body limit (body c) place visits outcome ∧ contract c place (leftover outcome))
    (meets : program.Meets limit may contract place post) :
    ∃ visits outcome, Runs body limit program place visits outcome ∧ post (leftover outcome) := by
  induction program generalizing place with
  | give a => exact ⟨_, _, .give a place, meets⟩
  | refuse error => exact ⟨_, _, .refuse error place, meets⟩
  | look next ih =>
    obtain ⟨visits, outcome, run, met⟩ := ih _ _ meets
    exact ⟨_, _, .look run, met⟩
  | pass next ih =>
    obtain ⟨visits, outcome, run, met⟩ := ih meets
    exact ⟨_, _, .pass run, met⟩
  | call brace? c next ih =>
    by_cases room : brace?.isSome → place.depth < limit
    · obtain ⟨allowed, failed, answered⟩ := meets.2 room
      obtain ⟨inside, outcome, called, given⟩ := runs _ _ allowed
      cases outcome with
      | error error => exact ⟨_, _, .callFails room called, failed error given⟩
      | ok outcome =>
        obtain ⟨answer, last⟩ := outcome
        obtain ⟨behind, left⟩ := called.leave_of_called
        obtain ⟨visits, outcome, run, met⟩ := ih answer (answered answer last.rest given left)
        rw [← behind] at run
        exact ⟨_, _, .call room called run, met⟩
    · obtain ⟨opens, full⟩ := Classical.not_imp.1 room
      obtain ⟨brace, rfl⟩ := Option.isSome_iff_exists.1 opens
      exact ⟨_, _, .tooDeep (Nat.not_lt.1 full), meets.1 brace rfl (Nat.not_lt.1 full)⟩

/-- If no body makes a call but of a smaller measure, there is a run of every call. -/
theorem exists_run {measure : Call → Place → Nat}
    (kept : ∀ c place, (body c).Meets limit
      (fun c' place' => measure c' place' < measure c place) contract place (contract c place))
    (c : Call) (place : Place) :
    ∃ visits outcome, Runs body limit (body c) place visits outcome ∧
      contract c place (leftover outcome) := by
  induction size : measure c place using Nat.strongRecOn generalizing c place with
  | ind n ih =>
    refine (kept c place).exists_run fun c' place' smaller => ?_
    exact ih _ (size ▸ smaller) c' place' rfl

end meets

end ConfigLang.Descent
