import ConfigLang.Proofs.Descent.Rules
/-! Progress. Every part of a document takes a token, but for those that may be empty; and a part
that begins with another one is of a higher rank. So every call is answered. -/
namespace ConfigLang.Descent

def countOf (tokens : List Token) : Nat := tokens.countP Token.isSignificant

/-- What a call gives has taken a token; but a loop may have nothing to go through, and a line may
consist of what was read before. -/
def Advances (place : Place) : (c : Call) → c.Answer → List Token → Prop
  | .items _ _, _, _ => True
  | .commentText _ _, _, _ => True
  | .line (some _), _, _ => True
  | .pieces before, pieces, rest => pieces = before ∨ countOf rest < place.left
  | .lines _, _, rest =>
    place.next?.any (Draft.startsPiece ·.kind) = true → countOf rest < place.left
  | _, _, rest => countOf rest < place.left

def Gives {α : Type} (post : α → List Token → Prop) : Except Error (α × List Token) → Prop
  | .ok (a, rest) => post a rest
  | .error _ => True

def progress : Contract Call.Answer := fun c place => Gives (Advances place c)

/-- A call that is made before a token has been taken is of a lower rank. -/
def Call.rank : Call → Nat
  | items _ _ => 5
  | item => 4
  | templatePath _ => 1
  | components _ _ => 1
  | element => 1
  | pieces _ => 2
  | line _ => 3
  | lines _ => 4
  | keyLines _ _ => 4
  | lowerValue => 5
  | value _ => 6
  | _ => 0

def Call.measure (c : Call) (place : Place) : Nat := place.left * 10 + c.rank

theorem Call.rank_lt (c : Call) : c.rank < 10 := by
  cases c <;> simp [rank]

theorem Call.measure_of_taken {c c' : Call} {place place' : Place}
    (taken : place'.left < place.left) : c'.measure place' < c.measure place := by
  have := c'.rank_lt
  simp only [measure]
  omega

theorem Call.measure_of_rank {c c' : Call} {place place' : Place}
    (onwards : place'.left ≤ place.left) (lower : c'.rank < c.rank) :
    c'.measure place' < c.measure place := by
  simp only [measure]
  omega

theorem Place.countOf_visible (place : Place) : countOf place.visible = place.left := by
  have blank : countOf (place.rest.takeWhile (!·.isSignificant)) = 0 :=
    List.countP_eq_zero.2 fun token member => by
      simpa using List.all_eq_true.1 List.all_takeWhile token member
  have whole : place.rest.takeWhile (!·.isSignificant) ++ place.visible = place.rest :=
    List.takeWhile_append_dropWhile
  rw [left, ← whole, List.countP_append, ← countOf, blank, Nat.zero_add, countOf]

theorem Place.left_pass {place : Place} {token : Token} (next : place.next? = some token) :
    place.pass.left < place.left := by
  obtain ⟨behind, starts⟩ := List.head?_eq_some_iff.1 next
  have significant : token.isSignificant = true := by
    have first := List.head?_dropWhile_not (!·.isSignificant) place.rest
    rw [← visible, ← next?, next] at first
    simpa using first
  rw [← place.countOf_visible, left, pass, starts, List.tail_cons, countOf,
    List.countP_cons_of_pos significant]
  exact Nat.lt_succ_self _

theorem Place.left_pass_of_any {place : Place} {p : Token → Bool}
    (seen : place.next?.any p = true) : place.pass.left < place.left := by
  obtain ⟨token, next, _⟩ := (Option.any_eq_true _ _).1 seen
  exact left_pass next

theorem countOf_le {place : Place} {rest : List Token} (behind : rest <:+ place.rest) :
    countOf rest ≤ place.left :=
  behind.sublist.countP_le

open Builder

section steps

variable {α β : Type} {limit : Nat} {stop : Span} {n : Nat} {place : Place}
  {post : α → List Token → Prop}

abbrev Steps (limit n : Nat) (program : Builder α) (place : Place)
    (post : α → List Token → Prop) : Prop :=
  program.Meets limit (fun c place => c.measure place < n) progress place (Gives post)

theorem steps_expect {kind : Token.Kind} {expected : String} {f : Token → Builder α}
    (taken : place.pass.left < place.left → ∀ token, Steps limit n (f token) place.pass post) :
    Steps limit n (expect stop kind expected >>= f) place post :=
  meets_expect (fun token next _ => taken (Place.left_pass next) token) fun _ => trivial

theorem steps_lineEnd {expected : String} {f : Unit → Builder α}
    (ended : ∀ place' : Place, place'.left ≤ place.left → Steps limit n (f ()) place' post) :
    Steps limit n (lineEnd stop expected >>= f) place post :=
  meets_lineEnd (fun _ => ended place (Nat.le_refl _))
    (fun _ next _ => ended place.pass (Nat.le_of_lt (Place.left_pass next))) fun _ _ _ => trivial

theorem steps_ask_bind {c : Call} {f : c.Answer → Builder α} (smaller : c.measure place < n)
    (answered : ∀ answer place', Advances place c answer place'.rest → place'.left ≤ place.left →
      Steps limit n (f answer) place' post) :
    Steps limit n (ask c >>= f) place post :=
  meets_ask_bind smaller (fun _ _ => trivial) fun answer rest given behind =>
    answered answer { place with rest } given (countOf_le behind)

theorem steps_ask {c : Call} {post : c.Answer → List Token → Prop} (smaller : c.measure place < n)
    (answered : ∀ answer rest, Advances place c answer rest → countOf rest ≤ place.left →
      post answer rest) :
    Steps limit n (ask c) place post :=
  meets_ask smaller (fun _ _ => trivial) fun answer rest given behind =>
    answered answer rest given (countOf_le behind)

theorem steps_unexpected {expected : String} :
    Steps limit n (unexpected stop expected) place post :=
  meets_unexpected.2 trivial

end steps

section kept

variable (stop : Span) (limit : Nat)

abbrev Keeps (c : Call) : Prop :=
  ∀ place, Steps limit (c.measure place) (body stop c) place (Advances place c)

variable {stop limit}

theorem keeps_items (inBlock : Bool) (before : List Item) :
    Keeps stop limit (.items inBlock before) := by
  intro place
  simp only [body, meets_peek]
  cases next : place.next? with
  | none => cases inBlock <;> simp [Gives, Advances]
  | some token =>
    by_cases closes : token.kind = .closeCurly
    · cases inBlock <;> simp [closes, Gives, Advances]
    · simp only [if_neg closes]
      refine steps_ask_bind (Call.measure_of_rank (Nat.le_refl _) (by simp [Call.rank]))
        fun item place' taken _ => ?_
      exact steps_ask (Call.measure_of_taken taken) fun _ _ _ _ => trivial

theorem keeps_item : Keeps stop limit .item := by
  intro place
  simp only [body, meets_peek]
  cases next : place.next? with
  | none => exact steps_unexpected
  | some token =>
    have passed := Place.left_pass next
    dsimp only
    cases token.kind
    case newline => exact passed
    case hash =>
      exact steps_ask_bind (Call.measure_of_rank (Nat.le_refl _) (by simp [Call.rank]))
        fun _ _ taken _ => taken
    case directive =>
      exact steps_ask (Call.measure_of_rank (Nat.le_refl _) (by simp [Call.rank]))
        fun _ _ taken _ => taken
    case openSquare =>
      exact steps_ask (Call.measure_of_rank (Nat.le_refl _) (by simp [Call.rank]))
        fun _ _ taken _ => taken
    case minus =>
      refine steps_ask_bind (Call.measure_of_taken passed) fun _ _ _ onwards => ?_
      exact Nat.lt_of_le_of_lt onwards passed
    case openAngled =>
      refine steps_ask_bind (Call.measure_of_rank (Nat.le_refl _) (by simp [Call.rank]))
        fun reference place' taken _ => ?_
      cases reference with
      | placeholder path =>
        exact steps_ask_bind (Call.measure_of_taken taken) fun _ _ _ onwards =>
          Nat.lt_of_le_of_lt onwards taken
      | spread path =>
        simp only [meets_peek]
        cases next' : place'.next? with
        | none => exact taken
        | some token' =>
          by_cases ends : token'.kind = .newline
          · simp only [if_pos ends]
            exact Nat.lt_trans (Place.left_pass next') taken
          · simp only [if_neg ends]
            exact trivial
    case stringLiteral =>
      exact steps_ask_bind (Call.measure_of_rank (Nat.le_refl _) (by simp [Call.rank]))
        fun _ _ taken _ => taken
    case plus =>
      exact steps_ask_bind (Call.measure_of_rank (Nat.le_refl _) (by simp [Call.rank]))
        fun _ _ taken _ => taken
    all_goals exact steps_unexpected

theorem keeps_comment : Keeps stop limit .comment := by
  intro place
  refine steps_expect fun passed hash => steps_ask (Call.measure_of_taken passed) ?_
  exact fun _ _ _ onwards => Nat.lt_of_le_of_lt onwards passed

theorem keeps_commentText (span : Span) (text : List Char) :
    Keeps stop limit (.commentText span text) := by
  intro place
  change Steps _ _ (commentRest stop span (text ++ place.gap) place.next?) place _
  cases next : place.next? with
  | none => exact trivial
  | some token =>
    have passed := Place.left_pass next
    rw [commentRest]
    by_cases inside : token.kind = .line ∨ token.kind = .openCurly
    · simp only [if_pos inside]
      exact steps_ask (Call.measure_of_taken passed) fun _ _ _ _ => trivial
    · simp only [if_neg inside]
      exact steps_lineEnd fun _ _ => trivial

theorem keeps_directive : Keeps stop limit .directive := by
  intro place
  refine steps_expect fun passed directive => ?_
  by_cases isFrom : directive.text = "@from"
  · simp only [if_pos isFrom]
    refine steps_ask_bind (Call.measure_of_taken passed) fun inherit place' _ onwards => ?_
    refine steps_lineEnd fun place'' onwards' => ?_
    exact Nat.lt_of_le_of_lt (Nat.le_trans onwards' onwards) passed
  by_cases isTemplate : directive.text = "@template"
  · simp only [if_neg isFrom, if_pos isTemplate, meets_sees]
    split
    · exact steps_ask (Call.measure_of_taken passed) fun _ _ _ onwards =>
        Nat.lt_of_le_of_lt onwards passed
    · exact steps_unexpected
  · simp only [if_neg isFrom, if_neg isTemplate]
    exact trivial

theorem keeps_templatePath (inherit : Draft.OpenInherit) :
    Keeps stop limit (.templatePath inherit) := by
  intro place
  refine steps_ask_bind (Call.measure_of_rank (Nat.le_refl _) (by simp [Call.rank]))
    fun name place' taken _ => ?_
  simp only [meets_sees]
  split
  · next dot =>
    have passed := Nat.lt_trans (Place.left_pass_of_any dot) taken
    exact steps_ask (Call.measure_of_taken passed) fun _ _ _ onwards =>
      Nat.lt_of_le_of_lt onwards passed
  · exact taken

theorem keeps_component (expected : String) : Keeps stop limit (.component expected) := by
  intro place
  simp only [body, meets_peek]
  cases next : place.next? with
  | none => exact steps_unexpected
  | some token =>
    have passed := Place.left_pass next
    dsimp only
    cases token.kind
    case identifier => exact passed
    case stringLiteral => exact meets_ofExcept (fun _ _ => trivial) fun _ _ => passed
    all_goals exact steps_unexpected

theorem keeps_reference : Keeps stop limit .reference := by
  intro place
  refine steps_expect fun passed brackets => steps_ask (Call.measure_of_taken passed) ?_
  exact fun _ _ _ onwards => Nat.lt_of_le_of_lt onwards passed

theorem keeps_components (brackets : Span) (before : List String) :
    Keeps stop limit (.components brackets before) := by
  intro place
  simp only [body, meets_sees]
  split
  · next star =>
    have passed := Place.left_pass_of_any star
    refine meets_advance.2 (steps_expect fun passed' close => ?_)
    exact Nat.lt_trans passed' passed
  · refine steps_ask_bind (Call.measure_of_rank (Nat.le_refl _) (by simp [Call.rank]))
      fun name place' taken _ => ?_
    simp only [meets_peek]
    cases next : place'.next? with
    | none => exact steps_unexpected
    | some token =>
      have passed := Nat.lt_trans (Place.left_pass next) taken
      dsimp only
      cases token.kind
      case dot =>
        exact steps_ask (Call.measure_of_taken passed) fun _ _ _ onwards =>
          Nat.lt_of_le_of_lt onwards passed
      case closeAngled => exact passed
      all_goals exact steps_unexpected

theorem keeps_element : Keeps stop limit .element := by
  intro place
  simp only [body, meets_peek]
  cases next : place.next? with
  | none => exact steps_unexpected
  | some token =>
    have passed := Place.left_pass next
    dsimp only
    cases token.kind
    case stringLiteral => exact meets_ofExcept (fun _ _ => trivial) fun _ _ => passed
    case plus => exact passed
    case openAngled =>
      refine steps_ask_bind (Call.measure_of_rank (Nat.le_refl _) (by simp [Call.rank]))
        fun reference place' taken _ => ?_
      cases reference with
      | placeholder path => exact taken
      | spread path => exact trivial
    all_goals exact steps_unexpected

theorem keeps_line (first? : Option StringElement) : Keeps stop limit (.line first?) := by
  intro place
  refine steps_ask_bind (Call.measure_of_rank (Nat.le_refl _) (by simp [Call.rank]))
    fun pieces place' taken _ => ?_
  by_cases empty : pieces.isEmpty
  · simp only [if_pos empty]
    exact steps_unexpected
  · simp only [if_neg empty]
    refine steps_lineEnd fun place'' onwards => ?_
    cases first? with
    | some first => exact trivial
    | none =>
      rcases taken with rfl | taken
      · exact absurd rfl empty
      · exact Nat.lt_of_le_of_lt onwards taken

theorem keeps_pieces (before : List StringElement) : Keeps stop limit (.pieces before) := by
  intro place
  simp only [body, meets_seesPiece]
  split
  · refine steps_ask_bind (Call.measure_of_rank (Nat.le_refl _) (by simp [Call.rank]))
      fun element place' taken _ => ?_
    exact steps_ask (Call.measure_of_taken taken) fun _ _ _ onwards =>
      .inr (Nat.lt_of_le_of_lt onwards taken)
  · exact .inl rfl

theorem keeps_tagged (mark? : Option Span) : Keeps stop limit (.tagged mark?) := by
  intro place
  refine steps_expect fun passed bracket => ?_
  refine steps_ask_bind (Call.measure_of_taken passed) fun key place' _ onwards => ?_
  have taken := Nat.lt_of_le_of_lt onwards passed
  refine steps_ask_bind (Call.measure_of_taken taken) fun value place'' _ onwards' => ?_
  exact Nat.lt_of_le_of_lt onwards' taken

theorem keeps_key (bracket : Span) : Keeps stop limit (.key bracket) := by
  intro place
  simp only [body, meets_peek]
  cases next : place.next? with
  | none => exact steps_unexpected
  | some token =>
    have passed := Place.left_pass next
    dsimp only
    cases token.kind
    case keyText =>
      refine meets_advance.2 (steps_expect fun passed' close => ?_)
      exact Nat.lt_trans passed' passed
    case closeSquare => exact passed
    case newline =>
      refine meets_advance.2 (steps_ask (Call.measure_of_taken passed) fun _ _ _ onwards => ?_)
      exact Nat.lt_of_le_of_lt onwards passed
    all_goals exact steps_unexpected

theorem keeps_keyLine {bracket : Span} {before : List KeyLine} {place : Place} :
    Steps limit (Call.measure (.keyLines bracket before) place)
      (do
        let line ← ask (.line none)
        ask (.keyLines bracket (.strings line :: before))) place
      (Advances place (.keyLines bracket before)) := by
  refine steps_ask_bind (Call.measure_of_rank (Nat.le_refl _) (by simp [Call.rank]))
    fun line place' taken _ => ?_
  exact steps_ask (Call.measure_of_taken taken) fun _ _ _ onwards =>
    Nat.lt_of_le_of_lt onwards taken

theorem keeps_keyLines (bracket : Span) (before : List KeyLine) :
    Keeps stop limit (.keyLines bracket before) := by
  intro place
  simp only [body, meets_peek]
  cases next : place.next? with
  | none => exact steps_unexpected
  | some token =>
    have passed := Place.left_pass next
    dsimp only
    cases token.kind
    case closeSquare => exact passed
    case newline =>
      refine meets_advance.2 (steps_ask (Call.measure_of_taken passed) fun _ _ _ onwards => ?_)
      exact Nat.lt_of_le_of_lt onwards passed
    case hash =>
      refine steps_ask_bind (Call.measure_of_rank (Nat.le_refl _) (by simp [Call.rank]))
        fun comment place' taken _ => ?_
      exact steps_ask (Call.measure_of_taken taken) fun _ _ _ onwards =>
        Nat.lt_of_le_of_lt onwards taken
    case stringLiteral => exact keeps_keyLine
    case openAngled => exact keeps_keyLine
    case plus => exact keeps_keyLine
    all_goals exact steps_unexpected

theorem keeps_value (afterMultilineKey : Bool) : Keeps stop limit (.value afterMultilineKey) := by
  intro place
  have below : Steps limit (Call.measure (.value afterMultilineKey) place)
      (if afterMultilineKey then ask .lowerValue else unexpected stop "a value") place
      (Advances place (.value afterMultilineKey)) := by
    cases afterMultilineKey with
    | false => exact steps_unexpected
    | true =>
      exact steps_ask (Call.measure_of_rank (Nat.le_refl _) (by simp [Call.rank]))
        fun _ _ taken _ => taken
  simp only [body, meets_peek]
  cases next : place.next? with
  | none => exact steps_unexpected
  | some token =>
    have passed := Place.left_pass next
    dsimp only
    cases token.kind
    case line =>
      refine meets_advance.2 (steps_lineEnd fun place' onwards => ?_)
      exact Nat.lt_of_le_of_lt onwards passed
    case openCurly =>
      exact steps_ask (Call.measure_of_rank (Nat.le_refl _) (by simp [Call.rank]))
        fun _ _ taken _ => taken
    case newline =>
      refine meets_advance.2 (steps_ask (Call.measure_of_taken passed) fun _ _ _ onwards => ?_)
      exact Nat.lt_of_le_of_lt onwards passed
    all_goals exact below

theorem keeps_lowerValue : Keeps stop limit .lowerValue := by
  intro place
  simp only [body, meets_sees]
  split
  · exact steps_ask (Call.measure_of_rank (Nat.le_refl _) (by simp [Call.rank]))
      fun _ _ taken _ => taken
  · simp only [meets_seesPiece]
    split
    · next piece =>
      exact steps_ask_bind (Call.measure_of_rank (Nat.le_refl _) (by simp [Call.rank]))
        fun lines place' taken _ => taken piece
    · exact steps_unexpected

theorem keeps_lines (before : List StringLine) : Keeps stop limit (.lines before) := by
  intro place
  simp only [body, meets_seesPiece]
  split
  · refine steps_ask_bind (Call.measure_of_rank (Nat.le_refl _) (by simp [Call.rank]))
      fun line place' taken _ => ?_
    exact steps_ask (Call.measure_of_taken taken) fun _ _ _ onwards _ =>
      Nat.lt_of_le_of_lt onwards taken
  · next none => exact fun some => absurd some none

theorem keeps_block : Keeps stop limit .block := by
  intro place
  refine steps_expect fun passed brace => ?_
  have opened : (place.pass.enter (some brace.span)).left < place.left := passed
  refine ⟨fun _ _ _ => trivial, fun _ => ⟨Call.measure_of_taken opened, fun _ _ => trivial, ?_⟩⟩
  exact fun _ _ taken _ => Nat.lt_trans taken opened

theorem keeps_blockItems (brace : Span) : Keeps stop limit (.blockItems brace) := by
  intro place
  refine steps_expect fun passed _ => ?_
  refine steps_ask_bind (Call.measure_of_taken passed) fun items place' _ onwards => ?_
  refine steps_expect fun passed' close => steps_lineEnd fun place'' onwards' => ?_
  show place''.left < place.left
  omega

theorem keeps (c : Call) : Keeps stop limit c := by
  cases c with
  | items inBlock before => exact keeps_items inBlock before
  | item => exact keeps_item
  | comment => exact keeps_comment
  | commentText span text => exact keeps_commentText span text
  | directive => exact keeps_directive
  | templatePath inherit => exact keeps_templatePath inherit
  | component expected => exact keeps_component expected
  | reference => exact keeps_reference
  | components brackets before => exact keeps_components brackets before
  | element => exact keeps_element
  | line first? => exact keeps_line first?
  | pieces before => exact keeps_pieces before
  | tagged mark? => exact keeps_tagged mark?
  | key bracket => exact keeps_key bracket
  | keyLines bracket before => exact keeps_keyLines bracket before
  | value afterMultilineKey => exact keeps_value afterMultilineKey
  | lowerValue => exact keeps_lowerValue
  | lines before => exact keeps_lines before
  | block => exact keeps_block
  | blockItems brace => exact keeps_blockItems brace

end kept

theorem exists_answer (stop : Span) (limit : Nat) (c : Call) (place : Place) :
    ∃ visits outcome, Runs (body stop) limit (body stop c) place visits outcome ∧
      Gives (Advances place c) (leftover outcome) :=
  exists_run keeps c place

end ConfigLang.Descent
