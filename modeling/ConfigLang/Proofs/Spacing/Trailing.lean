import ConfigLang.Proofs.Spacing.Basic
/-! Texts that differ in the blanks at the ends of their lines. Most forms end in a character that
is no blank, so they take the same from both texts. Blanks and free text take the blanks in as
well, and then the line ends behind them in both texts. -/
namespace ConfigLang

/-- The second text is the first with blanks put in where an ending stands, or the text ends. They
are only put in at places of the first text that are free. -/
inductive Trailed (ending : Pattern) (free : Position → Prop) :
    Position → List Char → List Char → Prop
  | done {position : Position} {blanks : List Char}
      (blank : ∀ c ∈ blanks, Pattern.isBlank c = true) (room : blanks ≠ [] → free position) :
      Trailed ending free position [] blanks
  | char {position : Position} {c : Char} {a b : List Char}
      (inLine : ending.length (c :: a) = 0) (others : Trailed ending free (position.step c) a b) :
      Trailed ending free position (c :: a) (c :: b)
  | line {position : Position} {blanks last a b : List Char}
      (blank : ∀ c ∈ blanks, Pattern.isBlank c = true) (room : blanks ≠ [] → free position)
      (ends : ending.Matches last) (others : Trailed ending free (position.advance last) a b) :
      Trailed ending free position (last ++ a) (blanks ++ (last ++ b))

namespace Text

def LineEnds (text : List Char) : Prop := text = [] ∨ Pattern.newline.length text ≠ 0

theorem lineEnds_of_matches {last : List Char} (ends : Pattern.newline.Matches last)
    (rest : List Char) : LineEnds (last ++ rest) := by
  have bound := Pattern.length_of_matches ends rest
  have positive := List.length_pos_iff.2 (Pattern.ne_nil_of_matches ends)
  exact .inr (by omega)

theorem LineEnds.run_eq_zero {text : List Char} (ends : LineEnds text) :
    Pattern.run Pattern.isBlank text = 0 := by
  rcases ends with rfl | fits
  · rfl
  · obtain ⟨last, rest, rfl, _, rfl | rfl⟩ := Pattern.split_of_fits fits <;> rfl

theorem LineEnds.head_ne {text : List Char} (ends : LineEnds text) :
    text.head? ≠ some ']' := by
  rcases ends with rfl | fits
  · exact nofun
  · obtain ⟨last, rest, rfl, _, rfl | rfl⟩ := Pattern.split_of_fits fits <;> simp

end Text

namespace Pattern

/-- Whether the texts of the form end in the middle of a line and in no blank. -/
def isTight : Pattern → Bool
  | exactly word => !word.contains '\n' && word.getLast?.all fun c => !isLineEnd c && !isBlank c
  | directive => true
  | stringLiteral => true
  | identifier => true
  | _ => false

def isLoose : Pattern → Bool
  | blanks => true
  | freeText => true
  | _ => false

theorem isInLine_of_isTight {pattern : Pattern} (tight : pattern.isTight = true) :
    pattern.isInLine = true := by
  cases pattern with
  | exactly word => exact (Bool.and_eq_true_iff.1 tight).1
  | newline => cases tight
  | _ => rfl

def isVisible (c : Char) : Bool := !isLineEnd c && !isBlank c

theorem isVisible_of_holds {p : Char → Bool} {c : Char} (blank : p ' ' = false ∧ p '\t' = false)
    (lineEnd : p '\r' = false ∧ p '\n' = false) (holds : p c = true) : isVisible c = true := by
  cases visible : isVisible c with
  | true => rfl
  | false =>
    simp only [isVisible, Bool.and_eq_false_iff, Bool.not_eq_false', isLineEnd, isBlank,
      Bool.or_eq_true, beq_iff_eq] at visible
    rcases visible with (rfl | rfl) | rfl | rfl <;> simp_all

theorem concat_of_tight {pattern : Pattern} {text : List Char} (matched : pattern.Matches text)
    (tight : pattern.isTight = true) : ∃ front c, text = front ++ [c] ∧ isVisible c = true := by
  cases pattern with
  | blanks | newline | keyText | freeText => cases tight
  | exactly word =>
    obtain ⟨nonempty, rfl⟩ := matched
    obtain rfl | ⟨front, c, rfl⟩ := text.eq_nil_or_concat'
    · exact absurd rfl nonempty
    · exact ⟨front, c, rfl, by simpa [isTight, isVisible] using (Bool.and_eq_true_iff.1 tight).2⟩
  | directive =>
    obtain ⟨name, rfl, _, all⟩ := matched
    refine concat_of_all (List.cons_ne_nil _ _)
      (List.forall_mem_cons.2 ⟨rfl, fun c member => ?_⟩)
    exact isVisible_of_holds (by decide) (by decide) (all c member)
  | stringLiteral =>
    obtain ⟨body, rfl, _⟩ := matched
    exact ⟨'"' :: body, '"', rfl, rfl⟩
  | identifier =>
    obtain ⟨c, rest, rfl, starts, all⟩ := matched
    refine concat_of_all (List.cons_ne_nil _ _)
      (List.forall_mem_cons.2 ⟨?_, fun d member => ?_⟩)
    · exact isVisible_of_holds (by decide) (by decide) starts
    · exact isVisible_of_holds (by decide) (by decide) (all d member)

end Pattern

namespace Trailed

variable {free : Position → Prop} {position : Position} {a b text : List Char}
  {ending pattern : Pattern}

theorem prepend (text : List Char) (inLine : ∀ c ∈ text, ∀ rest, ending.length (c :: rest) = 0)
    (others : Trailed ending free (position.advance text) a b) :
    Trailed ending free position (text ++ a) (text ++ b) := by
  induction text generalizing position with
  | nil => exact others
  | cons c text ih =>
    obtain ⟨first, inLine'⟩ := List.forall_mem_cons.1 inLine
    exact .char (first _) (ih inLine' others)

theorem prependLine (text blanks last : List Char)
    (inLine : ∀ c ∈ text, ∀ rest, ending.length (c :: rest) = 0)
    (blank : ∀ c ∈ blanks, Pattern.isBlank c = true)
    (room : blanks ≠ [] → free (position.advance text)) (ends : ending.Matches last)
    (others : Trailed ending free (position.advance (text ++ last)) a b) :
    Trailed ending free position (text ++ (last ++ a)) (text ++ (blanks ++ (last ++ b))) := by
  rw [Position.advance_append] at others
  exact prepend text inLine (.line blank room ends others)

theorem split_left (inLine : '\n' ∉ text)
    (apart : text.getLast? = some '\r' → a.head? ≠ some '\n')
    (trailed : Trailed .newline free position (text ++ a) b) :
    ∃ b', b = text ++ b' ∧ Trailed .newline free (position.advance text) a b' := by
  induction text generalizing position b with
  | nil => exact ⟨b, rfl, trailed⟩
  | cons c text ih =>
    have others : '\n' ∉ text := fun member => inLine (List.mem_cons_of_mem c member)
    have apart' : text.getLast? = some '\r' → a.head? ≠ some '\n' := fun last =>
      apart (by simp [List.getLast?_cons, last])
    generalize whole : c :: text ++ a = left at trailed
    cases trailed with
    | done => cases whole
    | char _ behind =>
      cases whole
      obtain ⟨b', rfl, left⟩ := ih others apart' behind
      exact ⟨b', rfl, left⟩
    | line _ _ ends =>
      rcases ends with rfl | rfl
      · cases whole
        exact absurd List.mem_cons_self inLine
      · cases text with
        | nil =>
          cases whole
          exact absurd rfl (apart rfl)
        | cons d text =>
          cases whole
          exact absurd List.mem_cons_self others

theorem line_ne_visible {c : Char} {blanks last : List Char} (inLine : '\n' ∉ text)
    (visible : Pattern.isVisible c = true) (blank : ∀ c ∈ blanks, Pattern.isBlank c = true)
    (ends : Pattern.newline.Matches last) : blanks ++ (last ++ b) ≠ text ++ c :: a := by
  intro same
  simp only [Pattern.isVisible, Bool.and_eq_true, Bool.not_eq_true'] at visible
  obtain ⟨inText, notBlank⟩ := visible
  rcases List.append_eq_append_iff.1 same with ⟨more, rfl, rest⟩ | ⟨more, rfl, rest⟩
  · rcases ends with rfl | rfl <;> rcases more with _ | ⟨d, _ | ⟨e, more⟩⟩ <;> cases rest
    · cases inText
    · simp at inLine
    · simp at inLine
    · cases inText
    · cases inText
    · simp at inLine
  · cases more with
    | nil => rcases ends with rfl | rfl <;> cases rest <;> cases inText
    | cons d more =>
      cases rest
      have blank := blank c (by simp)
      rw [notBlank] at blank
      cases blank

theorem split_right {c : Char} (inLine : '\n' ∉ text) (visible : Pattern.isVisible c = true)
    (trailed : Trailed .newline free position a (text ++ c :: b)) :
    ∃ a', a = text ++ c :: a' := by
  induction text generalizing position a with
  | nil =>
    generalize whole : [] ++ c :: b = right at trailed
    cases trailed with
    | done blank =>
      subst whole
      simp [Pattern.isVisible, blank c List.mem_cons_self] at visible
    | @char _ _ a _ inLine others =>
      cases whole
      exact ⟨a, rfl⟩
    | line blank _ ends => exact absurd whole.symm (line_ne_visible inLine visible blank ends)
  | cons d text ih =>
    generalize whole : d :: text ++ c :: b = right at trailed
    cases trailed with
    | done blank =>
      subst whole
      simp [Pattern.isVisible, blank c (by simp)] at visible
    | char _ others =>
      cases whole
      obtain ⟨a', rfl⟩ := ih (fun member => inLine (List.mem_cons_of_mem d member)) others
      exact ⟨a', rfl⟩
    | line blank _ ends => exact absurd whole.symm (line_ne_visible inLine visible blank ends)

theorem split_of_tight (trailed : Trailed .newline free position a b)
    (tight : pattern.isTight = true) (fits : pattern.length a ≠ 0) :
    ∃ front a' b', a = front ++ a' ∧ b = front ++ b' ∧ front.length = pattern.length a ∧
      pattern.Matches front ∧ Trailed .newline free (position.advance front) a' b' := by
  have crosses := Pattern.isInLine_of_isTight tight
  obtain ⟨front, a', rfl, length, matched⟩ := Pattern.split_of_fits fits
  obtain ⟨start, c, rfl, visible⟩ := Pattern.concat_of_tight matched tight
  have apart : (start ++ [c]).getLast? = some '\r' → a'.head? ≠ some '\n' := by
    intro last
    rw [List.getLast?_concat, Option.some.injEq] at last
    subst last
    cases visible
  obtain ⟨b', rfl, others⟩ := trailed.split_left (Pattern.not_mem_of_matches matched crosses) apart
  exact ⟨_, a', b', rfl, rfl, length, matched, others⟩

theorem length_eq (trailed : Trailed .newline free position a b) (tight : pattern.isTight = true) :
    pattern.length a = pattern.length b := by
  have crosses := Pattern.isInLine_of_isTight tight
  refine Nat.le_antisymm ?_ ?_
  · by_cases fits : pattern.length a = 0
    · omega
    obtain ⟨front, a', b', _, rfl, length, matched, _⟩ := trailed.split_of_tight tight fits
    have bound := Pattern.length_of_matches matched b'
    omega
  · by_cases fits : pattern.length b = 0
    · omega
    obtain ⟨front, b', rfl, length, matched⟩ := Pattern.split_of_fits fits
    obtain ⟨start, c, rfl, visible⟩ := Pattern.concat_of_tight matched tight
    have inLine := Pattern.not_mem_of_matches matched crosses
    rw [List.append_assoc] at trailed
    obtain ⟨a', rfl⟩ :=
      trailed.split_right (fun member => inLine (List.mem_append_left _ member)) visible
    have bound := Pattern.length_of_matches matched a'
    rw [List.append_assoc] at bound
    simp only [List.singleton_append] at bound
    omega

theorem lineEnd_of_blank {c : Char} (blank : Pattern.isBlank c = true) :
    Pattern.isLineEnd c = false := by
  simp only [Pattern.isBlank, Bool.or_eq_true, beq_iff_eq] at blank
  rcases blank with rfl | rfl <;> rfl

/-- From the starts of the texts `n` characters of the one and `m` of the other are taken: the same
ones, and blanks behind them in the second text, if the line ends there in both. -/
structure Parts (free : Position → Prop) (position : Position) (a b : List Char) (n m : Nat)
    (front blanks a' b' : List Char) : Prop where
  left : a = front ++ a'
  right : b = front ++ (blanks ++ b')
  taken : front.length = n
  taken' : (front ++ blanks).length = m
  blank : ∀ c ∈ blanks, Pattern.isBlank c = true
  ends : blanks ≠ [] → Text.LineEnds a' ∧ Text.LineEnds b'
  others : Trailed .newline free (position.advance front) a' b'

namespace Parts

variable {front blanks a' b' : List Char} {n m : Nat}

theorem take_left (parts : Parts free position a b n m front blanks a' b') : a.take n = front := by
  rw [parts.left, ← parts.taken, List.take_left]

theorem drop_left (parts : Parts free position a b n m front blanks a' b') : a.drop n = a' := by
  rw [parts.left, ← parts.taken, List.drop_left]

theorem take_right (parts : Parts free position a b n m front blanks a' b') :
    b.take m = front ++ blanks := by
  rw [parts.right, ← parts.taken', ← List.append_assoc, List.take_left]

theorem drop_right (parts : Parts free position a b n m front blanks a' b') : b.drop m = b' := by
  rw [parts.right, ← parts.taken', ← List.append_assoc, List.drop_left]

end Parts

theorem parts_of_run {p : Char → Bool} (blanks : ∀ c, Pattern.isBlank c = true → p c = true)
    (lineEnd : ∀ c, Pattern.isLineEnd c = true → p c = false)
    (trailed : Trailed .newline free position a b) :
    ∃ front blanks a' b',
      Parts free position a b (Pattern.run p a) (Pattern.run p b) front blanks a' b' := by
  have stops (c : Char) (rest : List Char) (other : p c = false) :
      Pattern.run p (c :: rest) = 0 := by simp [Pattern.run, other]
  have goesOn (c : Char) (rest : List Char) (holds : p c = true) :
      Pattern.run p (c :: rest) = Pattern.run p rest + 1 := by simp [Pattern.run, holds]
  have passes {text : List Char} (all : ∀ c ∈ text, Pattern.isBlank c = true)
      (rest : List Char) : Pattern.run p (text ++ rest) = text.length + Pattern.run p rest := by
    rw [Pattern.run, List.takeWhile_append_of_pos fun c member => blanks c (all c member),
      List.length_append]
    rfl
  induction trailed with
  | @done position added blank room =>
    refine ⟨[], added, [], [], rfl, by simp, rfl, ?_, blank, fun _ => ⟨.inl rfl, .inl rfl⟩, ?_⟩
    · have whole := passes blank []
      rw [List.append_nil] at whole
      rw [whole]
      rfl
    · exact .done (List.forall_mem_nil _) fun added => absurd rfl added
  | @char position c a b inLine others ih =>
    cases holds : p c with
    | true =>
      obtain ⟨front, added, a', b', parts⟩ := ih
      refine ⟨c :: front, added, a', b', by rw [parts.left]; rfl, by rw [parts.right]; rfl, ?_, ?_,
        parts.blank, parts.ends, parts.others⟩
      · rw [goesOn c a holds, ← parts.taken]
        rfl
      · rw [goesOn c b holds, ← parts.taken']
        rfl
    | false =>
      exact ⟨[], [], c :: a, c :: b, rfl, rfl, (stops c a holds).symm, (stops c b holds).symm,
        List.forall_mem_nil _, fun added => absurd rfl added, .char inLine others⟩
  | @line position added last a b blank room ends others =>
    have stop (rest : List Char) : Pattern.run p (last ++ rest) = 0 := by
      rcases ends with rfl | rfl
      · exact stops _ _ (lineEnd _ rfl)
      · exact stops _ _ (lineEnd _ rfl)
    refine ⟨[], added, last ++ a, last ++ b, rfl, rfl, (stop a).symm, ?_, blank,
      fun _ => ⟨Text.lineEnds_of_matches ends a, Text.lineEnds_of_matches ends b⟩, ?_⟩
    · rw [passes blank, stop]
      rfl
    · exact .line (List.forall_mem_nil _) (fun added => absurd rfl added) ends others

theorem parts_of_tight (trailed : Trailed .newline free position a b)
    (tight : pattern.isTight = true) (fits : pattern.length a ≠ 0) :
    ∃ front a' b',
      Parts free position a b (pattern.length a) (pattern.length b) front [] a' b' := by
  have same := trailed.length_eq tight
  obtain ⟨front, a', b', left, right, length, _, others⟩ := trailed.split_of_tight tight fits
  refine ⟨front, a', b', left, right, length, ?_, List.forall_mem_nil _,
    fun added => absurd rfl added, others⟩
  rw [← same, List.append_nil, length]

theorem run_of_isLoose (loose : pattern.isLoose = true) :
    ∃ p : Char → Bool, (∀ c, Pattern.isBlank c = true → p c = true) ∧
      (∀ c, Pattern.isLineEnd c = true → p c = false) ∧
      ∀ c rest rest', pattern.length (c :: rest) ≠ 0 →
        pattern.length (c :: rest') = Pattern.run p (c :: rest') := by
  cases pattern with
  | blanks =>
    refine ⟨Pattern.isBlank, fun _ blank => blank, fun c ends => ?_, fun _ _ _ _ => rfl⟩
    cases blank : Pattern.isBlank c with
    | false => rfl
    | true =>
      rw [lineEnd_of_blank blank] at ends
      cases ends
  | freeText =>
    refine ⟨fun c => !Pattern.isLineEnd c, fun c blank => ?_, fun c ends => ?_, ?_⟩
    · simp [lineEnd_of_blank blank]
    · simp [ends]
    · intro c rest rest' fits
      have starts : Pattern.startsFreeText c = true := by
        by_contra other
        simp [Pattern.length, other] at fits
      have inLine : Pattern.isLineEnd c = false := by
        simp only [Pattern.startsFreeText, Bool.and_eq_true, Bool.not_eq_true'] at starts
        exact starts.2
      simp [Pattern.length, starts, Pattern.run, inLine]
  | newline | exactly | directive | stringLiteral | identifier | keyText => cases loose

theorem parts_of_loose (trailed : Trailed .newline free position a b)
    (loose : pattern.isLoose = true) (fits : pattern.length a ≠ 0) :
    ∃ front blanks a' b',
      Parts free position a b (pattern.length a) (pattern.length b) front blanks a' b' := by
  obtain ⟨p, blanks, lineEnd, runs⟩ := run_of_isLoose loose
  obtain ⟨front, added, a', b', parts⟩ := trailed.parts_of_run blanks lineEnd
  cases a with
  | nil => exact absurd (Nat.eq_zero_of_le_zero (pattern.length_le [])) fits
  | cons c a =>
    have here := runs c a a fits
    have taken := parts.taken
    rw [← here] at taken
    cases front with
    | nil => exact absurd taken.symm fits
    | cons d front =>
      obtain ⟨rfl, _⟩ := List.cons.inj parts.left
      have there := runs c a (front ++ (added ++ b')) fits
      have right : b = c :: (front ++ (added ++ b')) := parts.right
      rw [← right] at there
      rw [← here, ← there] at parts
      exact ⟨_, added, a', b', parts⟩

theorem length_eq_zero_iff {c : Char} (known : pattern.isTight = true ∨ pattern.isLoose = true)
    (trailed : Trailed .newline free position (c :: a) (c :: b)) :
    pattern.length (c :: a) = 0 ↔ pattern.length (c :: b) = 0 := by
  rcases known with tight | loose
  · rw [trailed.length_eq tight]
  · cases pattern with
    | blanks =>
      cases blank : Pattern.isBlank c <;> simp [Pattern.length, Pattern.run, blank]
    | freeText =>
      cases starts : Pattern.startsFreeText c <;> simp [Pattern.length, starts]
    | newline | exactly | directive | stringLiteral | identifier | keyText => cases loose

theorem parts_of_keyText {front rest : List Char} (trailed : Trailed .newline free position a b)
    (closed : a = front ++ ']' :: rest) (key : Pattern.keyText.length a = front.length) :
    ∃ b', Parts free position a b (Pattern.keyText.length a) (Pattern.keyText.length b) front []
      (']' :: rest) b' := by
  have escaped : Pattern.Escaped Pattern.isKeyChar front := by
    have taken := Pattern.escaped_take_keyLength a
    have length : Pattern.keyLength a = front.length := key
    rwa [length, closed, List.take_left] at taken
  subst closed
  have inLine : '\n' ∉ front := Pattern.not_mem_of_escaped rfl escaped
  obtain ⟨b', rfl, others⟩ := trailed.split_left inLine fun _ => by simp
  have bracket : Trailed .newline free _ ([']'] ++ rest) b' := others
  obtain ⟨b'', rfl, _⟩ := bracket.split_left (by simp) (by simp)
  refine ⟨_, rfl, rfl, key.symm, ?_, List.forall_mem_nil _, fun added => absurd rfl added, others⟩
  exact (List.append_nil front).symm ▸ (Pattern.keyLength_append escaped (']' :: b'')).symm

theorem newline_misfit {c : Char} (inLine : Pattern.newline.length (c :: a) = 0)
    (others : Trailed .newline free position a b) : Pattern.newline.length (c :: b) = 0 := by
  by_cases newline : c = '\n'
  · subst newline
    cases inLine
  by_cases carriage : c = '\r'
  · subst carriage
    have visible {d : Char} (blank : Pattern.isBlank d = true) : d ≠ '\n' := by
      rintro rfl
      cases blank
    cases others with
    | done blank =>
      cases b with
      | nil => rfl
      | cons d b => exact Pattern.newline_misfit_of_return (visible (blank d List.mem_cons_self)) b
    | @char _ d a b =>
      by_cases next : d = '\n'
      · subst next
        cases inLine
      · exact Pattern.newline_misfit_of_return next b
    | @line _ blanks last a b blank _ ends =>
      cases blanks with
      | nil =>
        rcases ends with rfl | rfl
        · cases inLine
        · exact Pattern.newline_misfit_of_return (by decide) _
      | cons d blanks =>
        exact Pattern.newline_misfit_of_return (visible (blank d List.mem_cons_self)) _
  · exact Pattern.newline_misfit_of_other newline carriage b

theorem line_cases (trailed : Trailed .newline free position a b) :
    (∃ c a' b', a = c :: a' ∧ b = c :: b' ∧ Pattern.newline.length a = 0 ∧
      Pattern.newline.length b = 0) ∨
    ∃ blanks b', b = blanks ++ b' ∧ (∀ c ∈ blanks, Pattern.isBlank c = true) ∧
      (blanks ≠ [] → free position) ∧ (a = [] ∧ b' = [] ∨
        ∃ last a'' b'', Pattern.newline.Matches last ∧ a = last ++ a'' ∧ b' = last ++ b'' ∧
          Trailed .newline free (position.advance last) a'' b'') := by
  cases trailed with
  | done blank room => exact .inr ⟨b, [], by simp, blank, room, .inl ⟨rfl, rfl⟩⟩
  | line blank room ends others =>
    exact .inr ⟨_, _, rfl, blank, room, .inr ⟨_, _, _, ends, rfl, rfl, others⟩⟩
  | @char _ c a b inLine others =>
    exact .inl ⟨c, a, b, rfl, rfl, inLine, others.newline_misfit inLine⟩

end Trailed

theorem Mode.tight_or_loose : ∀ (mode : Mode), ∀ rule ∈ mode.rules, rule.pattern = .newline ∨
    rule.pattern = .keyText ∨ rule.pattern.isTight = true ∨ rule.pattern.isLoose = true := by
  intro mode
  cases mode <;> decide

theorem Cursor.fitting?_of_iff {cursor cursor' : Cursor} {rule : Rule} {n : Nat}
    (mode : cursor.mode = cursor'.mode)
    (same : ∀ rule ∈ cursor.mode.rules,
      rule.pattern.length cursor.rest = 0 ↔ rule.pattern.length cursor'.rest = 0)
    (fits : cursor.fitting? = some (rule, n)) :
    cursor'.fitting? = some (rule, rule.pattern.length cursor'.rest) := by
  unfold fitting? at fits ⊢
  rw [← mode]
  generalize cursor.mode.rules = rules at same fits
  induction rules with
  | nil => cases fits
  | cons first rules ih =>
    obtain ⟨here, others⟩ := List.forall_mem_cons.1 same
    rw [List.findSome?_cons] at fits ⊢
    cases left : first.pattern.length cursor.rest with
    | zero =>
      rw [here.1 left]
      rw [left] at fits
      exact ih others fits
    | succ m =>
      rw [left] at fits
      cases fits
      cases right : rule.pattern.length cursor'.rest with
      | zero =>
        rw [here.2 right] at left
        cases left
      | succ k => rfl

/-- In the middle of a line the same form fits both texts, and takes the same from both, but for
blanks at the end of the line. The text of a key is closed, or no key is read. -/
theorem Trailed.fits_in_line {free : Position → Prop} {cursor cursor' : Cursor} {rule : Rule}
    {n : Nat} (trailed : Trailed .newline free cursor.position cursor.rest cursor'.rest)
    (modes : cursor.modes = cursor'.modes) {c : Char} {a b : List Char}
    (left : cursor.rest = c :: a) (right : cursor'.rest = c :: b)
    (inLine : Pattern.newline.length cursor.rest = 0)
    (inLine' : Pattern.newline.length cursor'.rest = 0)
    (closed : rule.pattern = .keyText → ∃ front rest, cursor.rest = front ++ ']' :: rest ∧
      Pattern.keyText.length cursor.rest = front.length)
    (fits : cursor.fitting? = some (rule, n)) :
    ∃ m front blanks a' b', cursor'.fitting? = some (rule, m) ∧
      Parts free cursor.position cursor.rest cursor'.rest n m front blanks a' b' ∧
      (blanks ≠ [] → rule.pattern.isLoose = true) := by
  obtain ⟨known, length, pos⟩ := Cursor.fitting?_eq_some fits
  have positive : rule.pattern.length cursor.rest ≠ 0 := by omega
  have keys : cursor.mode = .key →
      (Pattern.keyText.length cursor.rest = 0 ↔ Pattern.keyText.length cursor'.rest = 0) := by
    intro mode
    rw [mode] at known
    simp only [Mode.rules, List.mem_cons, List.not_mem_nil, or_false] at known
    rcases known with rfl | rfl | rfl
    · obtain ⟨front, rest, whole, _, _, rfl⟩ := Pattern.split_of_fits positive
      obtain rfl : c = ']' := (List.cons.inj (left.symm.trans whole)).1
      rw [left, right]
      exact iff_of_true rfl rfl
    · exact absurd inLine positive
    · obtain ⟨front, rest, closed, key⟩ := closed rfl
      obtain ⟨b', parts⟩ := trailed.parts_of_keyText closed key
      have taken := parts.taken
      have taken' := parts.taken'
      rw [List.append_nil] at taken'
      rw [← taken, ← taken']
  have same : ∀ rule ∈ cursor.mode.rules,
      rule.pattern.length cursor.rest = 0 ↔ rule.pattern.length cursor'.rest = 0 := by
    intro other member
    rcases Mode.tight_or_loose _ other member with newline | keyText | ends
    · rw [newline]
      exact iff_of_true inLine inLine'
    · rw [keyText]
      exact keys (Mode.eq_key_of_rule _ other member keyText)
    · rw [left, right] at trailed ⊢
      exact trailed.length_eq_zero_iff ends
  have fits' := Cursor.fitting?_of_iff (congrArg Mode.current modes) same fits
  refine ⟨rule.pattern.length cursor'.rest, ?_⟩
  rw [← length]
  rcases Mode.tight_or_loose _ rule known with newline | keyText | tight | loose
  · rw [newline] at positive
    exact absurd inLine positive
  · obtain ⟨front, rest, closed, key⟩ := closed keyText
    obtain ⟨b', parts⟩ := trailed.parts_of_keyText closed key
    exact ⟨front, [], _, b', fits', keyText ▸ parts, fun added => absurd rfl added⟩
  · obtain ⟨front, a', b', parts⟩ := trailed.parts_of_tight tight positive
    exact ⟨front, [], a', b', fits', parts, fun added => absurd rfl added⟩
  · obtain ⟨front, blanks, a', b', parts⟩ := trailed.parts_of_loose loose positive
    exact ⟨front, blanks, a', b', fits', parts, fun _ => loose⟩

end ConfigLang
