import ConfigLang.Proofs.Reading.Run
import ConfigLang.Proofs.Token.Ahead
/-! Texts that differ in spacing alone: in the blanks at the starts of their lines, and in how the
lines end. No form but that of newlines crosses the end of a line, so up to there the same tokens
are cut off both texts. There is one exception, a key that ends in a backslash: a carriage return
behind it is taken for a part of the key. -/
namespace ConfigLang

def Text.unindent (line : List Char) : List Char := line.dropWhile Pattern.isBlank

/-- The second text is the first with other blanks at the start of each line but the first one. If
`returns` holds, then it also has a carriage return in front of each newline, where the first
text has none at all. -/
inductive Respaced (returns : Bool) : List Char → List Char → Prop
  | done : Respaced returns [] []
  | char {c : Char} {a b : List Char} (inLine : c ≠ '\n') (plain : returns = true → c ≠ '\r')
      (others : Respaced returns a b) : Respaced returns (c :: a) (c :: b)
  | newline {a b : List Char} (alone : returns = false)
      (others : Respaced returns (Text.unindent a) (Text.unindent b)) :
      Respaced returns ('\n' :: a) ('\n' :: b)
  | carriage {a b : List Char} (behind : returns = true)
      (others : Respaced returns (Text.unindent a) (Text.unindent b)) :
      Respaced returns ('\n' :: a) ('\r' :: '\n' :: b)

theorem Pattern.newline_misfit_of_other {c : Char} (inLine : c ≠ '\n') (plain : c ≠ '\r')
    (rest : List Char) : Pattern.newline.length (c :: rest) = 0 := by
  simp [length, inLine, plain]

theorem Pattern.newline_misfit_of_return {c : Char} (inLine : c ≠ '\n') (rest : List Char) :
    Pattern.newline.length ('\r' :: c :: rest) = 0 := by
  simp [length, inLine]

namespace Respaced

variable {returns : Bool} {a b text : List Char}

theorem eq_nil_iff (respaced : Respaced returns a b) : a = [] ↔ b = [] := by
  cases respaced with
  | done => rfl
  | _ => exact iff_of_false nofun nofun

theorem split_left (inLine : '\n' ∉ text) (respaced : Respaced returns (text ++ a) b) :
    ∃ b', b = text ++ b' ∧ Respaced returns a b' := by
  induction text generalizing b with
  | nil => exact ⟨b, rfl, respaced⟩
  | cons c text ih =>
    have others : '\n' ∉ text := fun member => inLine (List.mem_cons_of_mem c member)
    cases respaced with
    | char _ _ behind =>
      obtain ⟨b', rfl, left⟩ := ih others behind
      exact ⟨b', rfl, left⟩
    | newline | carriage => exact absurd List.mem_cons_self inLine

theorem split_right (inLine : '\n' ∉ text) (ends : returns = true → text.getLast? ≠ some '\r')
    (respaced : Respaced returns a (text ++ b)) :
    ∃ a', a = text ++ a' ∧ Respaced returns a' b := by
  induction text generalizing a with
  | nil => exact ⟨a, rfl, respaced⟩
  | cons c text ih =>
    have others : '\n' ∉ text := fun member => inLine (List.mem_cons_of_mem c member)
    have ends' (behind : returns = true) : text.getLast? ≠ some '\r' := by
      intro last
      apply ends behind
      simp [List.getLast?_cons, last]
    generalize whole : text ++ b = rest at respaced
    rw [List.cons_append, whole] at respaced
    cases respaced with
    | char _ _ behind =>
      subst whole
      obtain ⟨a', rfl, left⟩ := ih others ends' behind
      exact ⟨a', rfl, left⟩
    | newline => exact absurd List.mem_cons_self inLine
    | carriage behind =>
      cases text with
      | nil => exact absurd rfl (ends behind)
      | cons d text =>
        cases whole
        exact absurd List.mem_cons_self others

theorem split_carriage (inLine : '\n' ∉ text) (respaced : Respaced true a (text ++ '\r' :: b)) :
    ∃ a', a = text ++ '\n' :: a' ∧ ∃ b', b = '\n' :: b' := by
  induction text generalizing a with
  | nil =>
    cases respaced with
    | char _ plain => exact absurd rfl (plain rfl)
    | @carriage a' b' => exact ⟨a', rfl, b', rfl⟩
  | cons c text ih =>
    have others : '\n' ∉ text := fun member => inLine (List.mem_cons_of_mem c member)
    generalize whole : text ++ '\r' :: b = rest at respaced
    rw [List.cons_append, whole] at respaced
    cases respaced with
    | char _ _ behind =>
      subst whole
      obtain ⟨a', rfl, left⟩ := ih others behind
      exact ⟨a', rfl, left⟩
    | newline => exact absurd List.mem_cons_self inLine
    | carriage =>
      cases text with
      | nil => cases whole
      | cons d text =>
        cases whole
        exact absurd List.mem_cons_self others

theorem newline_cases (respaced : Respaced returns a b) :
    (∃ ending ending' a' b', Pattern.newline.Matches ending ∧ Pattern.newline.Matches ending' ∧
      a = ending ++ a' ∧ b = ending' ++ b' ∧
      Respaced returns (Text.unindent a') (Text.unindent b')) ∨
    Pattern.newline.length a = 0 ∧ Pattern.newline.length b = 0 := by
  cases respaced with
  | done => exact .inr ⟨rfl, rfl⟩
  | newline _ others => exact .inl ⟨['\n'], ['\n'], _, _, .inl rfl, .inl rfl, rfl, rfl, others⟩
  | carriage _ others =>
    exact .inl ⟨['\n'], ['\r', '\n'], _, _, .inl rfl, .inr rfl, rfl, rfl, others⟩
  | @char c a b inLine plain others =>
    by_cases isReturn : c = '\r'
    · subst isReturn
      cases others with
      | done => exact .inr ⟨rfl, rfl⟩
      | newline _ others =>
        exact .inl ⟨['\r', '\n'], ['\r', '\n'], _, _, .inr rfl, .inr rfl, rfl, rfl, others⟩
      | carriage behind => exact absurd rfl (plain behind)
      | char inLine =>
        have misfit := Pattern.newline_misfit_of_return inLine
        exact .inr ⟨misfit _, misfit _⟩
    · have misfit := Pattern.newline_misfit_of_other inLine isReturn
      exact .inr ⟨misfit _, misfit _⟩

end Respaced

namespace Pattern

def isInLine : Pattern → Bool
  | newline => false
  | exactly word => !word.contains '\n'
  | _ => true

theorem not_mem_of_escaped {plain : Char → Bool} (newline : plain '\n' = false) {text : List Char}
    (escaped : Escaped plain text) : '\n' ∉ text := by
  induction escaped with
  | nil => exact List.not_mem_nil
  | plain isPlain others ih =>
    rintro (_ | ⟨_, member⟩)
    · rw [newline] at isPlain
      cases isPlain
    · exact ih member
  | escape inLine others ih =>
    rintro (_ | ⟨_, _ | ⟨_, member⟩⟩)
    · exact inLine rfl
    · exact ih member

theorem not_mem_of_matches {pattern : Pattern} {text : List Char} (matched : pattern.Matches text)
    (inLine : pattern.isInLine = true) : '\n' ∉ text := by
  intro member
  cases pattern with
  | newline => cases inLine
  | blanks => exact absurd (matched.2 _ member) (by decide)
  | exactly word =>
    obtain ⟨_, rfl⟩ := matched
    simp [isInLine, member] at inLine
  | keyText => exact not_mem_of_escaped rfl matched.2 member
  | directive =>
    obtain ⟨name, rfl, _, all⟩ := matched
    rcases List.mem_cons.1 member with first | inside
    · cases first
    · exact absurd (all _ inside) (by decide)
  | stringLiteral =>
    obtain ⟨body, rfl, escaped⟩ := matched
    have outside := not_mem_of_escaped rfl escaped
    simp [outside] at member
  | identifier =>
    obtain ⟨c, rest, rfl, starts, all⟩ := matched
    rcases List.mem_cons.1 member with rfl | inside
    · cases starts
    · exact absurd (all _ inside) (by decide)
  | freeText =>
    obtain ⟨c, rest, rfl, starts, all⟩ := matched
    rcases List.mem_cons.1 member with rfl | inside
    · cases starts
    · exact absurd (all _ inside) (by decide)

theorem split_of_fits {pattern : Pattern} {cs : List Char} (fits : pattern.length cs ≠ 0) :
    ∃ front behind, cs = front ++ behind ∧ front.length = pattern.length cs ∧
      pattern.Matches front :=
  ⟨cs.take (pattern.length cs), cs.drop (pattern.length cs), (List.take_append_drop _ _).symm,
    List.length_take_of_le (pattern.length_le cs), pattern.matches_take_length cs fits⟩

end Pattern

namespace Respaced

variable {returns : Bool} {a b : List Char} {pattern : Pattern}

theorem length_le (respaced : Respaced returns a b) (inLine : pattern.isInLine = true) :
    pattern.length a ≤ pattern.length b := by
  by_cases fits : pattern.length a = 0
  · omega
  · obtain ⟨front, a', rfl, length, matched⟩ := Pattern.split_of_fits fits
    obtain ⟨b', rfl, _⟩ := respaced.split_left (Pattern.not_mem_of_matches matched inLine)
    have bound := Pattern.length_of_matches matched b'
    omega

theorem length_eq (respaced : Respaced returns a b) (inLine : pattern.isInLine = true)
    (ends : returns = true → pattern.endsInText = true) : pattern.length a = pattern.length b := by
  refine Nat.le_antisymm (respaced.length_le inLine) ?_
  by_cases fits : pattern.length b = 0
  · omega
  · obtain ⟨front, b', rfl, length, matched⟩ := Pattern.split_of_fits fits
    have last (behind : returns = true) : front.getLast? ≠ some '\r' := by
      obtain ⟨start, c, rfl, text⟩ := Pattern.concat_of_matches matched (ends behind)
      rintro same
      simp only [List.getLast?_concat, Option.some.injEq] at same
      subst same
      cases text
    obtain ⟨a', rfl, _⟩ := respaced.split_right (Pattern.not_mem_of_matches matched inLine) last
    have bound := Pattern.length_of_matches matched a'
    omega

end Respaced

section keys

theorem Pattern.backslash_of_escaped {text : List Char}
    (escaped : Escaped isKeyChar (text ++ ['\r'])) :
    ∃ front, text = front ++ ['\\'] ∧ Escaped isKeyChar front := by
  generalize whole : text ++ ['\r'] = key at escaped
  induction escaped generalizing text with
  | nil => simp at whole
  | @plain c rest isPlain others ih =>
    cases text with
    | nil =>
      cases whole
      cases isPlain
    | cons first text =>
      cases whole
      obtain ⟨front, rfl, escaped⟩ := ih rfl
      exact ⟨c :: front, rfl, .plain isPlain escaped⟩
  | @escape c rest inLine others ih =>
    cases text with
    | nil => cases whole
    | cons first text =>
      cases text with
      | nil =>
        cases whole
        exact ⟨[], rfl, .nil⟩
      | cons second text =>
        cases whole
        obtain ⟨front, rfl, escaped⟩ := ih rfl
        exact ⟨'\\' :: c :: front, rfl, .escape inLine escaped⟩

variable {a b : List Char}

/-- Both texts have the same text of a key, unless a backslash stands in front of the end of the line.
There it takes the carriage return, if there is one. -/
theorem Respaced.key_cases (respaced : Respaced true a b) :
    Pattern.keyText.length a = Pattern.keyText.length b ∨
    ∃ front a' b', a = front ++ '\\' :: '\n' :: a' ∧ b = front ++ '\\' :: '\r' :: '\n' :: b' ∧
      Pattern.keyText.length a = front.length ∧
      Pattern.keyText.length b = front.length + 2 := by
  have inLine : Pattern.keyText.isInLine = true := rfl
  have shorter := respaced.length_le inLine
  by_cases fits : Pattern.keyText.length b = 0
  · omega
  obtain ⟨text, b', rfl, length, matched⟩ := Pattern.split_of_fits fits
  have crosses := Pattern.not_mem_of_matches matched inLine
  by_cases last : text.getLast? = some '\r'
  · obtain ⟨before, rfl⟩ := List.getLast?_eq_some_iff.1 last
    obtain ⟨front, rfl, escaped⟩ := Pattern.backslash_of_escaped matched.2
    have crosses' : '\n' ∉ front ++ ['\\'] := fun member => crosses (List.mem_append_left _ member)
    rw [List.append_assoc] at respaced
    obtain ⟨a', rfl, b', rfl⟩ := respaced.split_carriage crosses'
    -- A backslash at the end of a line ends the text of a key.
    have key : Pattern.keyLength (front ++ '\\' :: '\n' :: a') = front.length :=
      Pattern.keyLength_append escaped _
    refine .inr ⟨front, a', b', by simp, by simp, ?_, ?_⟩
    · simpa [Pattern.length] using key
    · simpa using length.symm
  · obtain ⟨a', rfl, _⟩ := respaced.split_right crosses fun _ => last
    have bound := Pattern.length_of_matches matched a'
    omega

end keys

theorem Mode.isInLine_of_rule : ∀ (mode : Mode), ∀ rule ∈ mode.rules,
    rule.pattern = .newline ∨ rule.pattern.isInLine = true := by
  intro mode
  cases mode <;> decide

theorem Mode.endsInText_of_rule : ∀ (mode : Mode), ∀ rule ∈ mode.rules,
    rule.pattern = .newline ∨ rule.pattern = .keyText ∨ rule.pattern.endsInText = true := by
  intro mode
  cases mode <;> decide

theorem Mode.eq_key_of_rule : ∀ (mode : Mode), ∀ rule ∈ mode.rules,
    rule.pattern = .keyText → mode = .key := by
  intro mode
  cases mode <;> decide

theorem Cursor.fitting?_congr {cursor cursor' : Cursor} (mode : cursor.mode = cursor'.mode)
    (same : ∀ rule ∈ cursor.mode.rules,
      rule.pattern.length cursor.rest = rule.pattern.length cursor'.rest) :
    cursor.fitting? = cursor'.fitting? := by
  unfold fitting?
  rw [← mode]
  generalize cursor.mode.rules = rules at same
  induction rules with
  | nil => rfl
  | cons rule rules ih =>
    obtain ⟨first, others⟩ := List.forall_mem_cons.1 same
    rw [List.findSome?_cons, List.findSome?_cons, first, ih others]

theorem Respaced.fitting?_eq {returns : Bool} {cursor cursor' : Cursor}
    (respaced : Respaced returns cursor.rest cursor'.rest) (modes : cursor.modes = cursor'.modes)
    (inLine : Pattern.newline.length cursor.rest = 0)
    (inLine' : Pattern.newline.length cursor'.rest = 0)
    (keys : cursor.mode = .key → returns = true →
      Pattern.keyText.length cursor.rest = Pattern.keyText.length cursor'.rest) :
    cursor.fitting? = cursor'.fitting? := by
  refine Cursor.fitting?_congr (congrArg Mode.current modes) fun rule known => ?_
  obtain newline | crosses := Mode.isInLine_of_rule _ rule known
  · rw [newline, inLine, inLine']
  by_cases key : rule.pattern = .keyText
  · rw [key]
    cases behind : returns with
    | true => exact keys (Mode.eq_key_of_rule _ rule known key) behind
    | false =>
      subst behind
      exact respaced.length_eq rfl nofun
  · refine respaced.length_eq crosses fun _ => ?_
    obtain newline | keyText | ends := Mode.endsInText_of_rule _ rule known
    · rw [newline] at crosses
      cases crosses
    · exact absurd keyText key
    · exact ends

/-- The form of newlines in a mode. Between angle brackets there is none. -/
def Mode.newline? (mode : Mode) : Option Rule := mode.rules.find? (·.pattern = .newline)

theorem Mode.kind_of_newline? {mode : Mode} {rule : Rule} (found : mode.newline? = some rule) :
    rule.kind = .newline := by
  cases mode <;> cases found <;> rfl

/-- The stacks of modes that come up, each with its top first. -/
def Mode.nestings : List (List Mode) :=
  [[main], [key, main], [multilineKey, main], [line, main], [placeholder, main],
    [line, multilineKey, main], [placeholder, multilineKey, main]]

theorem Mode.nestings_step : ∀ modes ∈ nestings, ∀ rule ∈ (current modes).rules,
    rule.change.apply modes ∈ nestings := by
  decide

def Mode.startsLine (mode : Mode) : Bool := mode = main || mode = multilineKey

theorem Mode.startsLine_of_newline? : ∀ modes ∈ nestings, ∀ rule ∈ (current modes).newline?,
    rule ∈ (current modes).rules ∧ (current (rule.change.apply modes)).startsLine = true := by
  decide

theorem Cursor.fitting?_ending {cursor : Cursor} {ending rest : List Char}
    (ends : Pattern.newline.Matches ending) (starts : cursor.rest = ending ++ rest) :
    cursor.fitting? = cursor.mode.newline?.map fun rule => (rule, ending.length) := by
  unfold fitting?
  rw [starts]
  rcases ends with rfl | rfl
  · cases cursor.mode <;> rfl
  · cases cursor.mode <;> rfl

end ConfigLang
