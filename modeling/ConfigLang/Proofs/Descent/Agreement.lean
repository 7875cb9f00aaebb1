import ConfigLang.Proofs.Descent.Following
/-! The programs build what the drafts build: each body follows the drafts of its call. So a run
that starts with the first token gives the items of the document, or its error. -/
namespace ConfigLang.Descent

open Draft Builder

section called

variable (stop : Span) (limit : Nat)

abbrev Honours (c : Call) : Prop :=
  ∀ place, (body stop c).Meets limit (fun _ _ => True) (following limit stop) place
    (following limit stop c place)

variable {stop limit}

theorem honours_items (inBlock : Bool) (before : List Item) :
    Honours stop limit (.items inBlock before) := by
  intro place
  refine .forall fun blocks => .forall fun depth => .forall fun inside => ?_
  simp only [body, meets_peek]
  cases next : place.next? with
  | none =>
    cases blocks with
    | nil =>
      subst inside
      refine ⟨congrArg (·.map (·.kind)) next, ?_⟩
      simp only [List.reverse_reverse]
      rfl
    | cons block blocks =>
      subst inside
      exact agrees_unexpected (outcome_ended next rfl)
  | some token =>
    obtain ⟨kind, text, span⟩ := token
    by_cases closes : kind = .closeCurly
    · subst closes
      cases blocks with
      | nil =>
        subst inside
        exact agrees_unexpected (outcome_refused next rfl)
      | cons block blocks =>
        subst inside
        refine ⟨congrArg (·.map (·.kind)) next, ?_⟩
        simp only [List.reverse_reverse]
        rfl
    · simp only [if_neg closes]
      refine agrees_ask_bind
        (fun _ given => given ⟨blocks, before, .item⟩ rfl depth ⟨_, next, closes⟩)
        fun item rest _ => ?_
      exact agrees_ask fun _ given => given blocks depth inside

theorem honours_item : Honours stop limit .item := by
  intro place
  refine .forall fun draft => .forall fun awaiting => .forall fun depth => .forall fun starts => ?_
  obtain ⟨⟨kind, text, span⟩, next, other⟩ := starts
  obtain ⟨blocks, items, _⟩ := draft
  subst awaiting
  simp only [body, meets_peek, next]
  cases kind
  case whitespace => exact absurd rfl (Place.kind_ne next)
  case closeCurly => exact absurd rfl other
  case newline =>
    rw [outcome_of_push ⟨blocks, .blank span :: items, .item⟩ next rfl]
    exact ⟨trivial, rfl⟩
  case hash =>
    refine agrees_ask_bind (fun _ given => given ⟨blocks, items, .item⟩ none rfl ⟨_, _, next⟩)
      fun comment rest _ => ⟨trivial, rfl⟩
  case directive => exact agrees_ask fun _ given => given _ rfl depth ⟨_, _, next⟩
  case openSquare => exact agrees_ask fun _ given => given _ rfl depth ⟨_, _, next⟩
  case minus =>
    rw [outcome_of_push ⟨blocks, items, .value (.untagged span) false⟩ next rfl]
    exact agrees_ask_bind (fun _ given => given ⟨blocks, items, .item⟩ (.untagged span) depth)
      fun value rest _ => ⟨trivial, rfl⟩
  case openAngled =>
    refine agrees_bind (fun _ given => given _ .item [] (addsPieces_item rfl) ⟨_, _, next⟩)
      fun reference rest _ => ?_
    -- A placeholder is the first piece of a line; a spread stands alone on its line.
    cases reference with
    | placeholder path =>
      refine agrees_ask_bind (fun _ given => given _ .item
        (addsPieces_stringPiece ⟨blocks, items, .item⟩ .item [.placeholder path])
        (.inr ⟨List.cons_ne_nil _ _, rfl⟩) (fun _ => rfl)) fun line rest _ => ⟨trivial, rfl⟩
    | spread path =>
      change Agrees limit stop _ _
        (Draft.outcome limit stop ⟨blocks, items, .spreadEnd path⟩ rest) _ _
      simp only [meets_peek]
      cases ends : Place.next? { place with rest } with
      | none => exact ⟨trivial, outcome_of_endLine? ends rfl rfl⟩
      | some token =>
        by_cases newline : token.kind = .newline
        · simp only [if_pos newline]
          exact ⟨trivial, outcome_of_push _ ends (push_newline rfl newline)⟩
        · simp only [if_neg newline]
          exact outcome_of_refused ends (push_inside (Place.kind_ne ends) (.inl newline))
  case stringLiteral =>
    exact agrees_ask_bind (fun _ given => given _ .item (addsPieces_item rfl)
      (.inl (by rw [next]; rfl)) (by rintro ⟨_, _, starts⟩; cases next.symm.trans starts))
      fun line rest _ => ⟨trivial, rfl⟩
  case plus =>
    exact agrees_ask_bind (fun _ given => given _ .item (addsPieces_item rfl)
      (.inl (by rw [next]; rfl)) (by rintro ⟨_, _, starts⟩; cases next.symm.trans starts))
      fun line rest _ => ⟨trivial, rfl⟩
  all_goals exact agrees_unexpected (outcome_refused next rfl)

theorem honours_comment : Honours stop limit .comment := by
  intro place
  refine .forall fun draft => .forall fun key? => .forall fun awaiting => .forall fun starts => ?_
  obtain ⟨text, span, next⟩ := starts
  obtain ⟨blocks, items, _⟩ := draft
  subst awaiting
  have begun : Draft.outcome limit stop ⟨blocks, items, .inside key?⟩ place.rest = _ :=
    outcome_of_push ⟨blocks, items, .commentEnd ⟨key?, span, []⟩⟩ next
      (by cases key? <;> rfl)
  refine agrees_expect_seen next ?_
  rw [begun]
  exact agrees_ask fun _ given => given ⟨blocks, items, .item⟩ key?

theorem honours_commentText (span : Span) (text : List Char) :
    Honours stop limit (.commentText span text) := by
  intro place
  refine .forall fun draft => .forall fun key? => ?_
  change Agrees limit stop (commentRest stop span (text ++ place.gap) place.next?) place _ _ _
  cases next : place.next? with
  | none =>
    refine ⟨trivial, outcome_of_endLine? next ?_ ?_⟩
    · cases key? <;> rfl
    · cases key? <;> rfl
  | some token =>
    rw [commentRest]
    by_cases inside : token.kind = .line ∨ token.kind = .openCurly
    · simp only [if_pos inside]
      rw [outcome_of_push (draft.await (.commentEnd ⟨key?, span.through token.span,
        text ++ place.gap ++ token.text.toList⟩)) next]
      · exact agrees_ask fun _ given => given draft key?
      · obtain ⟨kind, text, span⟩ := token
        rcases inside with rfl | rfl <;> rfl
    · simp only [if_neg inside]
      refine agrees_lineEnd (draft.addComment _ key?) (by cases key? <;> rfl)
        (by cases key? <;> rfl) (fun token starts other => ?_) (fun _ => trivial) rfl
      cases next.symm.trans starts
      obtain ⟨kind, text, span⟩ := token
      cases kind
      case whitespace => exact absurd rfl (Place.kind_ne next)
      case newline => exact absurd rfl other
      case line => exact absurd (.inl rfl) inside
      case openCurly => exact absurd (.inr rfl) inside
      all_goals rfl

theorem honours_directive : Honours stop limit .directive := by
  intro place
  refine .forall fun draft => .forall fun awaiting => .forall fun depth => .forall fun starts => ?_
  obtain ⟨text, span, next⟩ := starts
  obtain ⟨blocks, items, _⟩ := draft
  subst awaiting
  refine agrees_expect_seen next ?_
  by_cases isFrom : text = "@from"
  · simp only [if_pos isFrom]
    have begun : Draft.outcome limit stop ⟨blocks, items, .item⟩ place.rest = _ :=
      outcome_of_push ⟨blocks, items, .templateName ⟨span, [], none⟩⟩ next (if_pos isFrom)
    rw [begun]
    refine agrees_ask_bind (fun _ given => given ⟨blocks, items, .item⟩) fun inherit rest ends => ?_
    refine agrees_lineEnd _ rfl rfl (fun token starts other => ?_) (fun _ => trivial) rfl
    rw [show nextOf rest = some token from starts] at ends
    exact (push_inside (Place.kind_ne starts) (.inl other)).trans (if_neg (of_decide_eq_false ends))
  by_cases isTemplate : text = "@template"
  · simp only [if_neg isFrom, if_pos isTemplate, meets_sees]
    have begun : Draft.outcome limit stop ⟨blocks, items, .item⟩ place.rest = _ :=
      outcome_of_push ⟨blocks, items, .templateKey span⟩ next
        ((if_neg isFrom).trans (if_pos isTemplate))
    rw [begun]
    split
    · next bracket =>
      exact agrees_ask fun _ given => given _ rfl depth (Place.sees_of_any bracket)
    · next none =>
      refine agrees_unexpected (outcome_refusal (fun _ => rfl) rfl fun token starts => ?_)
      rw [starts] at none
      exact (push_inside (Place.kind_ne starts) (.inr rfl)).trans
        (if_neg fun bracket => none (decide_eq_true bracket))
  · simp only [if_neg isFrom, if_neg isTemplate]
    exact outcome_of_refused next ((if_neg isFrom).trans (if_neg isTemplate))

theorem honours_templatePath (inherit : OpenInherit) :
    Honours stop limit (.templatePath inherit) := by
  intro place
  refine .forall fun draft => ?_
  refine agrees_ask_bind (leads_component
    (fun named => draft.await (.inheritEnd (inherit.extend named))) (fun _ => rfl) rfl ?_)
    fun named rest _ => ?_
  · exact fun token starts => push_inside (Place.kind_ne starts) (.inr rfl)
  · simp only [meets_sees]
    split
    · next dot =>
      obtain ⟨text, span', starts⟩ := Place.sees_of_any dot
      rw [outcome_of_push (draft.await (.templateName _)) starts rfl]
      exact agrees_ask fun _ given => given draft
    · next none => exact ⟨Bool.eq_false_of_not_eq_true none, rfl⟩

theorem honours_component (expected : String) : Honours stop limit (.component expected) := by
  intro place
  change Program.Meets _ _ _ _ place fun outcome => outcome = place.component stop expected
  simp only [body, meets_peek, Place.component]
  cases next : place.next? with
  | none => exact meets_unexpected.2 rfl
  | some token =>
    have refused : place.refusal stop expected = unexpected token expected := by
      rw [Place.refusal, next]
    obtain ⟨kind, text, span⟩ := token
    cases kind
    case identifier => rfl
    case stringLiteral =>
      refine meets_advance.2 (meets_ofExcept (fun error failed => ?_) fun name read => ?_)
      · simp [componentText?, failed, Except.bind, Except.map]
      · simp [componentText?, read, Except.bind, Except.map]
    all_goals exact meets_unexpected.2 (congrArg Except.error refused)

theorem honours_reference : Honours stop limit .reference := by
  intro place
  refine .forall fun draft => .forall fun linePlace => .forall fun elements => .forall fun adds =>
    .forall fun starts => ?_
  obtain ⟨text, span, next⟩ := starts
  refine agrees_expect_seen next ?_
  rw [outcome_of_push _ next (by rw [adds.gap, adds.reference])]
  exact agrees_ask fun _ given => given draft linePlace elements

theorem honours_components (brackets : Span) (before : List String) :
    Honours stop limit (.components brackets before) := by
  intro place
  refine .forall fun draft => .forall fun linePlace => .forall fun elements => ?_
  simp only [body, meets_sees]
  split
  · next star =>
    obtain ⟨text, span, starts⟩ := Place.sees_of_any star
    refine meets_advance.2 ?_
    rw [outcome_of_push (draft.await (.spreadClose ⟨linePlace, elements, brackets, before⟩)) starts
      rfl]
    refine agrees_expect (fun _ => rfl) (fun text span next => ?_) rfl fun token visible other => ?_
    · refine ⟨trivial, ?_⟩
      rw [outcome_some next]
      cases linePlace <;> cases elements <;> rfl
    · exact (push_inside visible (.inr rfl)).trans (if_neg other)
  · next none =>
    refine agrees_ask_bind (leads_component (fun named => draft.await
      (.separator ⟨linePlace, elements, brackets, named.1 :: before⟩)) (fun _ => rfl) rfl ?_)
      fun named rest _ => ?_
    · intro token starts
      rw [starts] at none
      exact (push_inside (Place.kind_ne starts) (.inr rfl)).trans
        (if_neg fun star => none (decide_eq_true star))
    obtain ⟨name, span⟩ := named
    simp only [meets_peek]
    cases next : Place.next? { place with rest } with
    | none => exact agrees_unexpected (outcome_ended next rfl)
    | some token =>
      obtain ⟨kind, text, span⟩ := token
      cases kind
      case whitespace => exact absurd rfl (Place.kind_ne next)
      case dot =>
        refine meets_advance.2 ?_
        rw [outcome_of_push (draft.await
          (.component ⟨linePlace, elements, brackets, name :: before⟩)) next rfl]
        exact agrees_ask fun _ given => given draft linePlace elements
      case closeAngled =>
        exact ⟨trivial, outcome_of_push _ next rfl⟩
      all_goals exact agrees_unexpected (outcome_refused next rfl)

theorem honours_element : Honours stop limit .element := by
  intro place
  refine .forall fun draft => .forall fun linePlace => .forall fun elements => .forall fun adds =>
    .forall fun piece => .forall fun alone => ?_
  simp only [body, meets_peek]
  cases next : place.next? with
  | none =>
    rw [next] at piece
    cases piece
  | some token =>
    rw [next] at piece
    obtain ⟨kind, text, span⟩ := token
    cases kind
    case stringLiteral =>
      refine meets_advance.2 (meets_ofExcept (fun error failed => ?_) fun name read => ?_)
      · exact outcome_of_refused next (by rw [adds.gap, adds.literal, failed]; rfl)
      · exact ⟨trivial, outcome_of_push _ next (by rw [adds.gap, adds.literal, read]; rfl)⟩
    case plus => exact ⟨trivial, outcome_of_push _ next (by rw [adds.gap, adds.plus])⟩
    case openAngled =>
      refine agrees_bind (fun _ given => given draft linePlace elements adds ⟨_, _, next⟩)
        fun reference rest _ => ?_
      cases reference with
      | placeholder path => exact ⟨trivial, rfl⟩
      | spread path =>
        rw [addReference, alone ⟨_, _, next⟩]
        rfl
    all_goals cases piece

theorem honours_pieces (before : List StringElement) : Honours stop limit (.pieces before) := by
  intro place
  refine .forall fun draft => .forall fun linePlace => .forall fun adds => .forall fun begun =>
    .forall fun alone => ?_
  simp only [body, meets_seesPiece]
  split
  · next piece =>
    refine agrees_ask_bind (fun _ given => given draft linePlace before adds piece alone)
      fun element rest _ => ?_
    refine agrees_ask fun _ given => given _ linePlace
      (addsPieces_stringPiece draft linePlace (element :: before))
      (.inr ⟨List.cons_ne_nil _ _, rfl⟩) fun _ => ?_
    cases linePlace <;> rfl
  · next none =>
    obtain ⟨some, awaiting⟩ := begun.resolve_left none
    refine ⟨⟨some, Bool.eq_false_of_not_eq_true none⟩, ?_⟩
    obtain ⟨blocks, items, _⟩ := draft
    subst awaiting
    rfl

theorem honours_line (first? : Option StringElement) : Honours stop limit (.line first?) := by
  intro place
  refine .forall fun draft => .forall fun linePlace => .forall fun adds => .forall fun begun =>
    .forall fun alone => ?_
  refine agrees_ask_bind (fun _ given => given draft linePlace adds begun alone)
    fun pieces rest stopped => ?_
  -- The pieces end in front of a token that is none, so that it ends the line or is refused.
  obtain ⟨nonempty, ends⟩ := stopped
  cases pieces with
  | nil => exact absurd rfl nonempty
  | cons piece pieces =>
    refine agrees_lineEnd (draft.addLine (stringLine (piece :: pieces)) linePlace)
      (by cases linePlace <;> rfl) (by cases linePlace <;> rfl) (fun token starts other => ?_)
      (fun _ => trivial) rfl
    rw [show nextOf rest = some token from starts] at ends
    obtain ⟨kind, text, span⟩ := token
    cases kind
    case whitespace => exact absurd rfl (Place.kind_ne starts)
    case newline => exact absurd rfl other
    all_goals first | rfl | cases ends

theorem honours_tagged (mark? : Option Span) : Honours stop limit (.tagged mark?) := by
  intro place
  refine .forall fun draft => .forall fun awaiting => .forall fun depth => .forall fun starts => ?_
  obtain ⟨text, span, next⟩ := starts
  obtain ⟨blocks, items, _⟩ := draft
  subst awaiting
  have begun : Draft.outcome limit stop ⟨blocks, items, .tag mark?⟩ place.rest = _ :=
    outcome_of_push ⟨blocks, items, .key span mark?⟩ next (by cases mark? <;> rfl)
  refine agrees_expect_seen next ?_
  rw [begun]
  refine agrees_ask_bind (fun _ given => given ⟨blocks, items, .item⟩ mark?) fun key rest _ => ?_
  exact agrees_ask_bind (fun _ given => given ⟨blocks, items, .item⟩ _ depth)
    fun value rest _ => ⟨trivial, rfl⟩

theorem honours_key (bracket : Span) : Honours stop limit (.key bracket) := by
  intro place
  refine .forall fun draft => .forall fun mark? => ?_
  simp only [body, meets_peek]
  cases next : place.next? with
  | none => exact agrees_unexpected (outcome_ended next rfl)
  | some token =>
    obtain ⟨kind, text, span⟩ := token
    cases kind
    case whitespace => exact absurd rfl (Place.kind_ne next)
    case keyText =>
      refine meets_advance.2 ?_
      rw [outcome_of_push (draft.await (.keyEnd text bracket mark?)) next rfl]
      refine agrees_expect (fun _ => rfl) (fun text span starts => ?_) rfl
        fun token visible other => ?_
      · exact ⟨trivial, outcome_of_push _ starts rfl⟩
      · exact (push_inside visible (.inr rfl)).trans (if_neg other)
    case closeSquare => exact ⟨trivial, outcome_of_push _ next rfl⟩
    case newline =>
      refine meets_advance.2 ?_
      rw [outcome_of_push (draft.await (.keyLine ⟨bracket, mark?, []⟩)) next rfl]
      exact agrees_ask fun _ given => given draft mark?
    all_goals exact agrees_unexpected (outcome_refused next rfl)

theorem agrees_keyLine (draft : Draft) (bracket : Span) (mark? : Option Span)
    (before : List KeyLine) {place : Place} (piece : seesPiece place.next? = true) :
    Agrees limit stop
      (do
        let line ← ask (.line none)
        ask (.keyLines bracket (.strings line :: before))) place
      ((draft.await (.keyLine ⟨bracket, mark?, before⟩)).outcome limit stop place.rest)
      (fun _ _ => True)
      (fun key => .ok (draft.await (.value (.tagged key mark? (mark?.getD bracket))
        (Grammar.isMultiline key)))) := by
  refine agrees_ask_bind (fun _ given => given _ _ (addsPieces_keyLine draft _) (.inl piece)
    (fun _ => rfl)) fun line rest _ => ?_
  exact agrees_ask fun _ given => given draft mark?

theorem honours_keyLines (bracket : Span) (before : List KeyLine) :
    Honours stop limit (.keyLines bracket before) := by
  intro place
  refine .forall fun draft => .forall fun mark? => ?_
  simp only [body, meets_peek]
  cases next : place.next? with
  | none => exact agrees_unexpected (outcome_ended next rfl)
  | some token =>
    obtain ⟨kind, text, span⟩ := token
    cases kind
    case whitespace => exact absurd rfl (Place.kind_ne next)
    case closeSquare => exact ⟨trivial, outcome_of_push _ next rfl⟩
    case newline =>
      refine meets_advance.2 ?_
      rw [outcome_of_push (draft.await (.keyLine ⟨bracket, mark?, before⟩)) next rfl]
      exact agrees_ask fun _ given => given draft mark?
    case hash =>
      refine agrees_ask_bind (fun _ given => given (draft.await (.keyLine ⟨bracket, mark?, before⟩))
        (some ⟨bracket, mark?, before⟩) rfl ⟨_, _, next⟩) fun comment rest _ => ?_
      exact agrees_ask fun _ given => given draft mark?
    case stringLiteral => exact agrees_keyLine draft bracket mark? before (by rw [next]; rfl)
    case openAngled => exact agrees_keyLine draft bracket mark? before (by rw [next]; rfl)
    case plus => exact agrees_keyLine draft bracket mark? before (by rw [next]; rfl)
    all_goals exact agrees_unexpected (outcome_refused next rfl)

theorem honours_value (afterMultilineKey : Bool) :
    Honours stop limit (.value afterMultilineKey) := by
  intro place
  refine .forall fun draft => .forall fun entry => .forall fun depth => ?_
  simp only [body, meets_peek]
  cases next : place.next? with
  | none => exact agrees_unexpected (outcome_ended next rfl)
  | some token =>
    obtain ⟨kind, text, span⟩ := token
    cases kind
    case whitespace => exact absurd rfl (Place.kind_ne next)
    case line =>
      refine meets_advance.2 ?_
      rw [outcome_of_push (draft.await (.valueEnd entry
        (.text (String.ofList (Text.trim text.toList)) span))) next rfl]
      exact agrees_lineEnd _ rfl rfl
        (fun token starts other => push_inside (Place.kind_ne starts) (.inl other))
        (fun _ => trivial) rfl
    case openCurly =>
      exact agrees_ask fun _ given => given _ entry (opensBlock_value draft entry _) depth
        ⟨_, _, next⟩
    case newline =>
      refine meets_advance.2 ?_
      rw [outcome_of_push (draft.await (.valueBelow entry)) next rfl]
      exact agrees_ask fun _ given => given draft entry depth
    -- Any other token starts a value only behind a key that spans lines, as it would below the key.
    all_goals
      cases afterMultilineKey with
      | false => exact agrees_unexpected (outcome_refused next rfl)
      | true =>
        rw [outcome_value draft entry next (by simp)]
        exact agrees_ask fun _ given => given draft entry depth

theorem honours_lowerValue : Honours stop limit .lowerValue := by
  intro place
  refine .forall fun draft => .forall fun entry => .forall fun depth => ?_
  simp only [body, meets_sees]
  split
  · next brace =>
    exact agrees_ask fun _ given => given _ entry (opensBlock_valueBelow draft entry) depth
      (Place.sees_of_any brace)
  · next none =>
    simp only [meets_seesPiece]
    split
    · next piece =>
      refine agrees_ask_bind (fun _ given => given _ entry (addsPieces_valueBelow draft entry)
        (.inl piece)) fun lines rest stopped => ⟨trivial, ?_⟩
      exact outcome_stringLine { place with rest } draft entry lines stopped.2
    · next noPiece =>
      refine agrees_unexpected (outcome_refusal (fun _ => rfl) rfl fun token starts => ?_)
      rw [starts] at none noPiece
      obtain ⟨kind, text, span⟩ := token
      cases kind
      case whitespace => exact absurd rfl (Place.kind_ne starts)
      case openCurly => exact absurd rfl none
      all_goals first | rfl | exact absurd rfl noPiece

theorem honours_lines (before : List StringLine) : Honours stop limit (.lines before) := by
  intro place
  refine .forall fun draft => .forall fun entry => .forall fun adds => .forall fun begun => ?_
  simp only [body, meets_seesPiece]
  split
  · next piece =>
    refine agrees_ask_bind (fun _ given => given draft _ adds (.inl piece) (fun _ => rfl))
      fun line rest _ => ?_
    exact agrees_ask fun _ given => given _ entry
      (addsPieces_stringLine draft entry (line :: before)) (.inr ⟨List.cons_ne_nil _ _, rfl⟩)
  · next none =>
    obtain ⟨some, awaiting⟩ := begun.resolve_left none
    refine ⟨⟨some, Bool.eq_false_of_not_eq_true none⟩, ?_⟩
    obtain ⟨blocks, items, _⟩ := draft
    subst awaiting
    rfl

theorem honours_block : Honours stop limit .block := by
  intro place
  refine .forall fun draft => .forall fun entry => .forall fun opens => .forall fun depth =>
    .forall fun starts => ?_
  obtain ⟨text, span, next⟩ := starts
  refine agrees_expect_seen next ⟨fun _ brace full => ?_, fun room => ⟨trivial, ?_⟩⟩
  · cases brace
    refine outcome_of_refused next ?_
    rw [opens.gap, opens.brace, openBlock, if_pos (depth ▸ full)]
  · have below : ¬ limit ≤ draft.blocks.length := Nat.not_le.2 (depth ▸ room rfl)
    have begun : draft.outcome limit stop place.rest = _ :=
      outcome_of_push ⟨⟨entry, span, draft.items⟩ :: draft.blocks, [], .blockStart⟩ next
        (by rw [opens.gap, opens.brace, openBlock, if_neg below])
    rw [begun]
    exact ⟨fun _ given => given draft entry (congrArg (· + 1) depth),
      fun _ _ given _ => given draft entry (congrArg (· + 1) depth)⟩

theorem honours_blockItems (brace : Span) : Honours stop limit (.blockItems brace) := by
  intro place
  refine .forall fun draft => .forall fun entry => .forall fun depth => ?_
  refine agrees_expect (fun _ => rfl) (fun _ _ next => ?_) rfl fun token visible other => ?_
  · rw [outcome_of_push ⟨⟨entry, brace, draft.items⟩ :: draft.blocks, [], .item⟩ next rfl]
    refine agrees_ask_bind (fun _ given => given (⟨entry, brace, draft.items⟩ :: draft.blocks)
      depth rfl) fun items rest stopped => ?_
    obtain ⟨⟨_, text, span⟩, starts, rfl⟩ := Option.map_eq_some_iff.1 stopped
    have starts : Place.next? { place.pass with rest } = _ := starts
    refine agrees_expect_seen starts ?_
    have closed : Draft.outcome limit stop
        ⟨⟨entry, brace, draft.items⟩ :: draft.blocks, items.reverse, .item⟩ rest = _ :=
      outcome_of_push (draft.await (.valueEnd entry
        (.block items.reverse.reverse (brace.through span)))) starts rfl
    rw [closed, List.reverse_reverse]
    exact agrees_lineEnd _ rfl rfl
      (fun token starts other => push_inside (Place.kind_ne starts) (.inl other))
      (fun _ => trivial) rfl
  · exact (push_inside visible (.inl other)).trans (if_neg other)

theorem honours (c : Call) : Honours stop limit c := by
  cases c with
  | items inBlock before => exact honours_items inBlock before
  | item => exact honours_item
  | comment => exact honours_comment
  | commentText span text => exact honours_commentText span text
  | directive => exact honours_directive
  | templatePath inherit => exact honours_templatePath inherit
  | component expected => exact honours_component expected
  | reference => exact honours_reference
  | components brackets before => exact honours_components brackets before
  | element => exact honours_element
  | line first? => exact honours_line first?
  | pieces before => exact honours_pieces before
  | tagged mark? => exact honours_tagged mark?
  | key bracket => exact honours_key bracket
  | keyLines bracket before => exact honours_keyLines bracket before
  | value afterMultilineKey => exact honours_value afterMultilineKey
  | lowerValue => exact honours_lowerValue
  | lines before => exact honours_lines before
  | block => exact honours_block
  | blockItems brace => exact honours_blockItems brace

end called

theorem Runs.follows {stop : Span} {limit : Nat} {c : Call} {place : Place} {visits : List Place}
    {outcome : Except Error (c.Answer × Place)}
    (run : Runs (body stop) limit (body stop c) place visits outcome) :
    following limit stop c place (leftover outcome) :=
  run.meets honours (honours c place)

theorem Runs.builds {stop : Span} {limit : Nat} {tokens : List Token} {visits : List Place}
    {outcome : Except Error (List Item × Place)}
    (run : Runs (body stop) limit (body stop (.items false [])) ⟨tokens, 0, []⟩ visits outcome) :
    outcome.map Prod.fst = build limit stop tokens ∧
      ∀ items last, outcome = .ok (items, last) → last.next? = none := by
  have leads := run.follows [] rfl rfl
  cases outcome with
  | error error => exact ⟨leads.symm, nofun⟩
  | ok given =>
    obtain ⟨items, last⟩ := given
    obtain ⟨stopped, same⟩ := leads
    have finished : last.next? = none := Option.map_eq_none_iff.1 stopped
    refine ⟨Eq.symm (same.trans ((outcome_none finished).trans ?_)), ?_⟩
    · exact congrArg Except.ok (List.reverse_reverse items)
    · rintro _ _ ⟨⟩
      exact finished

end ConfigLang.Descent
