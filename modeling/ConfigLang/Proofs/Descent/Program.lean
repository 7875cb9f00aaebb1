import ConfigLang.Error
import ConfigLang.Token.Basic
/-! Programs that read tokens and call each other. A program looks at the next token, passes it, and
calls; a call may open a block. Programs are values, so that what a run of any of them keeps is
proved here once for all: no run moves back, and none has more blocks open than may be. -/
namespace ConfigLang.Descent

structure Place where
  /-- The tokens that are left. -/
  rest : List Token
  /-- How many blocks are open, as the program counts them. -/
  depth : Nat
  /-- The braces of the blocks that are open, innermost first. -/
  braces : List Span

namespace Place

def visible (place : Place) : List Token := place.rest.dropWhile (!·.isSignificant)

def gap (place : Place) : List Char :=
  (place.rest.takeWhile (!·.isSignificant)).flatMap (·.text.toList)

def next? (place : Place) : Option Token := place.visible.head?

/-- The place behind the next token; behind the last one there is none to pass. -/
def pass (place : Place) : Place := { place with rest := place.visible.tail }

def left (place : Place) : Nat := place.rest.countP Token.isSignificant

def enter : Option Span → Place → Place
  | none, place => place
  | some brace, place => ⟨place.rest, place.depth + 1, brace :: place.braces⟩

def leave : Option Span → Place → Place
  | none, place => place
  | some _, place => ⟨place.rest, place.depth - 1, place.braces.tail⟩

end Place

/-- A program that gives an `α`. What a call gives depends on what is called. -/
inductive Program {Call : Type} (Answer : Call → Type) (α : Type)
  | give (a : α)
  | refuse (error : Error)
  /-- Looks at the white space and the token that come next. -/
  | look (next : List Char → Option Token → Program Answer α)
  | pass (next : Program Answer α)
  /-- Calls, inside a new block if there is a brace. -/
  | call (brace? : Option Span) (call : Call) (next : Answer call → Program Answer α)

namespace Program

variable {Call : Type} {Answer : Call → Type} {α β : Type}

def bind : Program Answer α → (α → Program Answer β) → Program Answer β
  | give a, f => f a
  | refuse error, _ => refuse error
  | look next, f => look fun gap token? => (next gap token?).bind f
  | pass next, f => pass (next.bind f)
  | call brace? c next, f => call brace? c fun answer => (next answer).bind f

instance : Monad (Program Answer) where
  pure := give
  bind := bind

end Program

/-- The program runs from a place to its outcome. `visits` are the places that it comes through,
those of its calls included, in order; `limit` is how many blocks may be open. -/
inductive Runs {Call : Type} {Answer : Call → Type} (body : (c : Call) → Program Answer (Answer c))
    (limit : Nat) : {α : Type} → Program Answer α → Place → (visits : List Place) →
    Except Error (α × Place) → Prop
  | give {α : Type} (a : α) (place : Place) :
      Runs body limit (.give a) place [place] (.ok (a, place))
  | refuse {α : Type} (error : Error) (place : Place) :
      Runs body limit (α := α) (.refuse error) place [place] (.error error)
  | look {α : Type} {next : List Char → Option Token → Program Answer α} {place : Place}
      {visits : List Place} {outcome : Except Error (α × Place)}
      (run : Runs body limit (next place.gap place.next?) place visits outcome) :
      Runs body limit (.look next) place (place :: visits) outcome
  | pass {α : Type} {next : Program Answer α} {place : Place} {visits : List Place}
      {outcome : Except Error (α × Place)} (run : Runs body limit next place.pass visits outcome) :
      Runs body limit (.pass next) place (place :: visits) outcome
  | call {α : Type} {brace? : Option Span} {c : Call} {next : Answer c → Program Answer α}
      {place last : Place} {inside visits : List Place} {answer : Answer c}
      {outcome : Except Error (α × Place)} (room : brace?.isSome → place.depth < limit)
      (called : Runs body limit (body c) (place.enter brace?) inside (.ok (answer, last)))
      (run : Runs body limit (next answer) (last.leave brace?) visits outcome) :
      Runs body limit (.call brace? c next) place (place :: inside ++ visits) outcome
  | callFails {α : Type} {brace? : Option Span} {c : Call} {next : Answer c → Program Answer α}
      {place : Place} {inside : List Place} {error : Error}
      (room : brace?.isSome → place.depth < limit)
      (called : Runs body limit (body c) (place.enter brace?) inside (.error error)) :
      Runs body limit (.call brace? c next) place (place :: inside) (.error error)
  | tooDeep {α : Type} {brace : Span} {c : Call} {next : Answer c → Program Answer α}
      {place : Place} (full : limit ≤ place.depth) :
      Runs body limit (.call (some brace) c next) place [place]
        (.error (.nestingTooDeep limit brace))

/-! ### What a run keeps -/

section runs

variable {Call : Type} {Answer : Call → Type} {body : (c : Call) → Program Answer (Answer c)}
  {limit : Nat} {α : Type} {program : Program Answer α} {place last : Place} {visits : List Place}
  {outcome : Except Error (α × Place)}

theorem Place.rest_enter (brace? : Option Span) (place : Place) :
    (place.enter brace?).rest = place.rest := by
  cases brace? <;> rfl

theorem Place.rest_enter_suffix (brace? : Option Span) (place : Place) :
    (place.enter brace?).rest <:+ place.rest := by
  cases brace? <;> exact List.suffix_refl _

theorem Place.rest_leave (brace? : Option Span) (place : Place) :
    (place.leave brace?).rest = place.rest := by
  cases brace? <;> rfl

theorem Place.rest_pass_suffix (place : Place) : place.pass.rest <:+ place.rest :=
  (List.tail_suffix _).trans (List.dropWhile_suffix _)

theorem Place.leave_of_enter {brace? : Option Span} {place last : Place}
    (depth : last.depth = (place.enter brace?).depth)
    (braces : last.braces = (place.enter brace?).braces) :
    last.leave brace? = { place with rest := last.rest } := by
  cases brace? with
  | none => simp only [enter, leave] at *; rw [← depth, ← braces]
  | some brace => simp [enter, leave] at *; simp [depth, braces]

theorem Runs.restores (run : Runs body limit program place visits outcome) :
    ∀ a last, outcome = .ok (a, last) → last.depth = place.depth ∧ last.braces = place.braces := by
  induction run with
  | give =>
    rintro _ _ ⟨⟩
    exact ⟨rfl, rfl⟩
  | refuse => nofun
  | look _ ih => exact ih
  | pass _ ih => exact ih
  | call room called run inside ih =>
    intro a last given
    obtain ⟨depth, braces⟩ := inside _ _ rfl
    have kept := ih a last given
    rwa [Place.leave_of_enter depth braces] at kept
  | callFails => nofun
  | tooDeep => nofun

end runs

/-- Every place is as far on as those before it, and the last one as far on as all of them. -/
structure Forward {α : Type} (place : Place) (visits : List Place)
    (outcome : Except Error (α × Place)) : Prop where
  behind : ∀ visit ∈ visits, visit.rest <:+ place.rest
  ordered : visits.Pairwise fun earlier later => later.rest <:+ earlier.rest
  ends : ∀ a last, outcome = .ok (a, last) → ∀ visit ∈ place :: visits, last.rest <:+ visit.rest

namespace Forward

variable {α β : Type} {place next last : Place} {inside visits : List Place}
  {outcome : Except Error (α × Place)}

theorem given (a : α) (place : Place) : Forward place [place] (.ok (a, place)) where
  behind := List.forall_mem_singleton.2 (List.suffix_refl _)
  ordered := List.pairwise_singleton _ _
  ends := by
    rintro _ _ ⟨⟩ visit member
    obtain rfl : visit = place := by simpa using member
    exact List.suffix_refl _

theorem failed (error : Error) (place : Place) :
    Forward (α := α) place [place] (.error error) where
  behind := List.forall_mem_singleton.2 (List.suffix_refl _)
  ordered := List.pairwise_singleton _ _
  ends := nofun

theorem cons (onwards : next.rest <:+ place.rest) (forward : Forward next visits outcome) :
    Forward place (place :: visits) outcome where
  behind := List.forall_mem_cons.2
    ⟨List.suffix_refl _, fun visit member => (forward.behind visit member).trans onwards⟩
  ordered := List.pairwise_cons.2
    ⟨fun visit member => (forward.behind visit member).trans onwards, forward.ordered⟩
  ends a last given := by
    have later := forward.ends a last given
    have here := (later next List.mem_cons_self).trans onwards
    exact List.forall_mem_cons.2 ⟨here, List.forall_mem_cons.2
      ⟨here, fun visit member => later visit (List.mem_cons_of_mem _ member)⟩⟩

theorem append {b : β} (first : Forward place inside (.ok (b, last)))
    (second : Forward next visits outcome) (same : next.rest = last.rest) :
    Forward place (inside ++ visits) outcome where
  behind visit member := by
    have reached := first.ends b last rfl
    rcases List.mem_append.1 member with early | late
    · exact first.behind visit early
    · exact (same ▸ second.behind visit late).trans (reached place List.mem_cons_self)
  ordered := by
    refine List.pairwise_append.2 ⟨first.ordered, second.ordered, fun early mem late mem' => ?_⟩
    have reached := first.ends b last rfl early (List.mem_cons_of_mem _ mem)
    exact (same ▸ second.behind late mem').trans reached
  ends a final given visit member := by
    have later := second.ends a final given
    have atLast : final.rest <:+ last.rest := same ▸ later next List.mem_cons_self
    rcases List.mem_cons.1 member with rfl | member
    · exact atLast.trans (first.ends b last rfl _ List.mem_cons_self)
    rcases List.mem_append.1 member with early | late
    · exact atLast.trans (first.ends b last rfl _ (List.mem_cons_of_mem _ early))
    · exact later visit (List.mem_cons_of_mem _ late)

end Forward

section runs

variable {Call : Type} {Answer : Call → Type} {body : (c : Call) → Program Answer (Answer c)}
  {limit : Nat} {α : Type} {program : Program Answer α} {place last : Place} {visits : List Place}
  {outcome : Except Error (α × Place)}

theorem Runs.forward (run : Runs body limit program place visits outcome) :
    Forward place visits outcome := by
  induction run with
  | give a place => exact .given a place
  | refuse error place => exact .failed error place
  | look run ih => exact .cons (List.suffix_refl _) ih
  | pass run ih => exact .cons (Place.rest_pass_suffix _) ih
  | call room called run inside ih =>
    exact .append (.cons (Place.rest_enter_suffix _ _) inside) ih (Place.rest_leave _ _)
  | callFails room called inside =>
    exact .cons (Place.rest_enter_suffix _ _) ⟨inside.behind, inside.ordered, nofun⟩
  | tooDeep => exact .failed _ _

def Place.Counted (limit : Nat) (place : Place) : Prop :=
  place.depth = place.braces.length ∧ place.depth ≤ limit

theorem Place.Counted.enter {brace? : Option Span} (counted : place.Counted limit)
    (room : brace?.isSome → place.depth < limit) : (place.enter brace?).Counted limit := by
  cases brace? with
  | none => exact counted
  | some brace => exact ⟨congrArg (· + 1) counted.1, room rfl⟩

theorem Runs.counted (run : Runs body limit program place visits outcome)
    (counted : place.Counted limit) : ∀ visit ∈ visits, visit.Counted limit := by
  induction run with
  | give => exact List.forall_mem_singleton.2 counted
  | refuse => exact List.forall_mem_singleton.2 counted
  | look run ih => exact List.forall_mem_cons.2 ⟨counted, ih counted⟩
  | pass run ih => exact List.forall_mem_cons.2 ⟨counted, ih counted⟩
  | call room called run inside ih =>
    obtain ⟨depth, braces⟩ := called.restores _ _ rfl
    rw [Place.leave_of_enter depth braces] at ih
    exact List.forall_mem_append.2
      ⟨List.forall_mem_cons.2 ⟨counted, inside (counted.enter room)⟩, ih counted⟩
  | callFails room called inside =>
    exact List.forall_mem_cons.2 ⟨counted, inside (counted.enter room)⟩
  | tooDeep => exact List.forall_mem_singleton.2 counted

theorem Runs.unique {visits' : List Place} {outcome' : Except Error (α × Place)}
    (run : Runs body limit program place visits outcome)
    (run' : Runs body limit program place visits' outcome') :
    visits = visits' ∧ outcome = outcome' := by
  induction run generalizing visits' with
  | give => cases run'; exact ⟨rfl, rfl⟩
  | refuse => cases run'; exact ⟨rfl, rfl⟩
  | look run ih =>
    cases run' with
    | look run' =>
    obtain ⟨rfl, rfl⟩ := ih run'
    exact ⟨rfl, rfl⟩
  | pass run ih =>
    cases run' with
    | pass run' =>
    obtain ⟨rfl, rfl⟩ := ih run'
    exact ⟨rfl, rfl⟩
  | call room called run inside ih =>
    cases run' with
    | call room' called' run' =>
      obtain ⟨rfl, same⟩ := inside called'
      cases same
      obtain ⟨rfl, rfl⟩ := ih run'
      exact ⟨rfl, rfl⟩
    | callFails room' called' => cases (inside called').2
    | tooDeep full => exact absurd (room rfl) (Nat.not_lt.2 full)
  | callFails room called inside =>
    cases run' with
    | call room' called' run' => cases (inside called').2
    | callFails room' called' =>
      obtain ⟨rfl, same⟩ := inside called'
      cases same
      exact ⟨rfl, rfl⟩
    | tooDeep full => exact absurd (room rfl) (Nat.not_lt.2 full)
  | tooDeep full =>
    cases run' with
    | call room' called' run' => exact absurd (room' rfl) (Nat.not_lt.2 full)
    | callFails room' called' => exact absurd (room' rfl) (Nat.not_lt.2 full)
    | tooDeep full => exact ⟨rfl, rfl⟩

end runs

end ConfigLang.Descent
