import ConfigLang.Proofs.Descent.Builder
import ConfigLang.Proofs.Descent.Contract
/-! What the steps of the tree builder come to: one rule for each, in which the rest of the program
is a parameter. -/
namespace ConfigLang.Descent

def Place.refusal (stop : Span) (expected : String) (place : Place) : Error :=
  match place.next? with
  | some token => Draft.unexpected token expected
  | none => .unexpectedEnd expected stop

namespace Builder

variable {α β : Type} {limit : Nat} {may : Call → Place → Prop} {contract : Contract Call.Answer}
  {place : Place} {post : Except Error (α × List Token) → Prop} {f : β → Builder α}
  {stop : Span}

@[simp] theorem meets_pure {a : α} :
    (pure a : Builder α).Meets limit may contract place post ↔ post (.ok (a, place.rest)) :=
  Iff.rfl

@[simp] theorem meets_peek {f : Option Token → Builder α} :
    (peek >>= f).Meets limit may contract place post ↔
      (f place.next?).Meets limit may contract place post :=
  Iff.rfl

@[simp] theorem meets_sees {kind : Token.Kind} {f : Bool → Builder α} :
    (sees kind >>= f).Meets limit may contract place post ↔
      (f (place.next?.any (·.kind = kind))).Meets limit may contract place post :=
  Iff.rfl

@[simp] theorem meets_seesPiece {f : Bool → Builder α} :
    (seesPiece >>= f).Meets limit may contract place post ↔
      (f (place.next?.any (Draft.startsPiece ·.kind))).Meets limit may contract place post :=
  Iff.rfl

@[simp] theorem meets_advance {f : Unit → Builder α} :
    (advance >>= f).Meets limit may contract place post ↔
      (f ()).Meets limit may contract place.pass post :=
  Iff.rfl

theorem meets_ask_bind {c : Call} {f : c.Answer → Builder α} (allowed : may c place)
    (failed : ∀ error, contract c place (.error error) → post (.error error))
    (answered : ∀ answer rest, contract c place (.ok (answer, rest)) → rest <:+ place.rest →
      (f answer).Meets limit may contract { place with rest } post) :
    (ask c >>= f).Meets limit may contract place post :=
  ⟨nofun, fun _ => ⟨allowed, failed, answered⟩⟩

theorem meets_ask {c : Call} {post : Except Error (c.Answer × List Token) → Prop}
    (allowed : may c place)
    (failed : ∀ error, contract c place (.error error) → post (.error error))
    (answered : ∀ answer rest, contract c place (.ok (answer, rest)) → rest <:+ place.rest →
      post (.ok (answer, rest))) :
    (ask c).Meets limit may contract place post :=
  meets_ask_bind (f := pure) allowed failed answered

theorem meets_ofExcept {read : Except Error β}
    (failed : ∀ error, read = .error error → post (.error error))
    (given : ∀ b, read = .ok b → (f b).Meets limit may contract place post) :
    (ofExcept read >>= f).Meets limit may contract place post := by
  cases read with
  | error error => exact failed error rfl
  | ok b => exact given b rfl

@[simp] theorem meets_unexpected_bind {expected : String} :
    (unexpected stop expected >>= f).Meets limit may contract place post ↔
      post (.error (place.refusal stop expected)) := by
  change ((match place.next? with
    | some token => .refuse (Draft.unexpected token expected)
    | none => .refuse (.unexpectedEnd expected stop) : Builder β) >>= f).Meets _ _ _ _ _ ↔ _
  rw [Place.refusal]
  cases place.next? <;> rfl

@[simp] theorem meets_unexpected {expected : String} :
    (unexpected stop expected).Meets limit may contract place post ↔
      post (.error (place.refusal stop expected)) := by
  change (match place.next? with
    | some token => .refuse (Draft.unexpected token expected)
    | none => .refuse (.unexpectedEnd expected stop) : Builder α).Meets _ _ _ _ _ ↔ _
  rw [Place.refusal]
  cases place.next? <;> rfl

theorem meets_expect {kind : Token.Kind} {expected : String} {f : Token → Builder α}
    (taken : ∀ token, place.next? = some token → token.kind = kind →
      (f token).Meets limit may contract place.pass post)
    (refused : (∀ token, place.next? = some token → token.kind ≠ kind) →
      post (.error (place.refusal stop expected))) :
    (expect stop kind expected >>= f).Meets limit may contract place post := by
  change ((match place.next? with
    | some token => if token.kind = kind then advance >>= fun _ => pure token
      else unexpected stop expected
    | none => unexpected stop expected : Builder Token) >>= f).Meets _ _ _ _ _
  cases next : place.next? with
  | none => exact meets_unexpected_bind.2 (refused (by simp [next]))
  | some token =>
    by_cases same : token.kind = kind
    · simp only [if_pos same]
      exact taken token next same
    · simp only [if_neg same]
      exact meets_unexpected_bind.2 (refused (by simpa [next] using same))

theorem meets_lineEnd {expected : String} {f : Unit → Builder α}
    (ended : place.next? = none → (f ()).Meets limit may contract place post)
    (taken : ∀ token, place.next? = some token → token.kind = .newline →
      (f ()).Meets limit may contract place.pass post)
    (refused : ∀ token, place.next? = some token → token.kind ≠ .newline →
      post (.error (place.refusal stop expected))) :
    (lineEnd stop expected >>= f).Meets limit may contract place post := by
  change ((match place.next? with
    | some token => if token.kind = .newline then advance else unexpected stop expected
    | none => pure () : Builder Unit) >>= f).Meets _ _ _ _ _
  cases next : place.next? with
  | none => exact ended next
  | some token =>
    by_cases same : token.kind = .newline
    · simp only [if_pos same]
      exact taken token next same
    · simp only [if_neg same]
      exact meets_unexpected_bind.2 (refused token next same)

end Builder

end ConfigLang.Descent
