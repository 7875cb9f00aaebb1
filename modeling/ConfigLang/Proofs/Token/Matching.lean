import Mathlib.Data.List.TakeWhile
import ConfigLang.Token.Pattern
/-! What the forms of tokens are, said without reading: the texts that each of them matches. A
form takes the longest stretch at the start of a text that it matches, and nothing if it
matches none. -/
namespace ConfigLang.Pattern

/-- Characters that are plain, each by itself, and backslashes that take the next character of
the line with them. -/
inductive Escaped (plain : Char → Bool) : List Char → Prop
  | nil : Escaped plain []
  | plain {c : Char} {rest : List Char} (isPlain : plain c = true) (others : Escaped plain rest) :
      Escaped plain (c :: rest)
  | escape {c : Char} {rest : List Char} (inLine : c ≠ '\n') (others : Escaped plain rest) :
      Escaped plain ('\\' :: c :: rest)

def isLiteralChar (c : Char) : Bool := c != '"' && c != '\\' && c != '\n'

def isKeyChar (c : Char) : Bool := !isLineEnd c && c != ']' && c != '\\'

/-- The texts of a form. None of them is empty. -/
def Matches : Pattern → List Char → Prop
  | blanks, text => text ≠ [] ∧ ∀ c ∈ text, isBlank c = true
  | newline, text => text = ['\n'] ∨ text = ['\r', '\n']
  | exactly word, text => text ≠ [] ∧ text = word
  | directive, text => ∃ name, text = '@' :: name ∧ name ≠ [] ∧ ∀ c ∈ name, isDirectiveChar c = true
  | stringLiteral, text => ∃ body, text = '"' :: (body ++ ['"']) ∧ Escaped isLiteralChar body
  | identifier, text =>
    ∃ c rest, text = c :: rest ∧ isLetterOrDigit c = true ∧ ∀ d ∈ rest, isIdentifierChar d = true
  | keyText, text => text ≠ [] ∧ Escaped isKeyChar text
  | freeText, text =>
    ∃ c rest, text = c :: rest ∧ startsFreeText c = true ∧ ∀ d ∈ rest, isLineEnd d = false

theorem ne_nil_of_matches {pattern : Pattern} {text : List Char} (matched : pattern.Matches text) :
    text ≠ [] := by
  cases pattern with
  | blanks | exactly | keyText => exact matched.1
  | newline =>
    intro empty
    subst empty
    simp [Matches] at matched
  | directive =>
    obtain ⟨name, rfl, _⟩ := matched
    exact List.cons_ne_nil _ _
  | stringLiteral =>
    obtain ⟨body, rfl, _⟩ := matched
    exact List.cons_ne_nil _ _
  | identifier | freeText =>
    obtain ⟨c, rest, rfl, _⟩ := matched
    exact List.cons_ne_nil _ _

section run

variable {p : Char → Bool}

theorem take_run (p : Char → Bool) (cs : List Char) : cs.take (run p cs) = cs.takeWhile p :=
  (List.prefix_iff_eq_take.1 (List.takeWhile_prefix p)).symm

theorem drop_run (p : Char → Bool) (cs : List Char) : cs.drop (run p cs) = cs.dropWhile p := by
  have whole : (cs.takeWhile p ++ cs.dropWhile p).drop (run p cs) = cs.dropWhile p := List.drop_left
  rwa [List.takeWhile_append_dropWhile] at whole

theorem all_take_run (p : Char → Bool) (cs : List Char) :
    ∀ c ∈ cs.take (run p cs), p c = true := by
  rw [take_run]
  exact List.all_eq_true.1 List.all_takeWhile

theorem take_run_ne_nil {cs : List Char} (taken : run p cs ≠ 0) : cs.take (run p cs) ≠ [] := by
  intro empty
  rw [take_run] at empty
  apply taken
  rw [run, empty]
  rfl

theorem le_run {front : List Char} (all : ∀ c ∈ front, p c = true) (behind : List Char) :
    front.length ≤ run p (front ++ behind) := by
  rw [run, List.takeWhile_append_of_pos all, List.length_append]
  exact Nat.le_add_right _ _

end run

theorem Escaped.append {p : Char → Bool} {xs ys : List Char} (front : Escaped p xs)
    (back : Escaped p ys) : Escaped p (xs ++ ys) := by
  induction front with
  | nil => exact back
  | plain isPlain others ih => exact .plain isPlain ih
  | escape inLine others ih => exact .escape inLine ih

section literals

theorem literalTail?_plain {c : Char} (quote : c ≠ '"') (backslash : c ≠ '\\')
    (newline : c ≠ '\n') (rest : List Char) :
    literalTail? (c :: rest) = (literalTail? rest).map (· + 1) := by
  rw [literalTail?]
  · rw [if_neg quote, if_neg newline]
  · rintro rfl
    exact absurd rfl backslash
  · rintro _ _ rfl
    exact absurd rfl backslash

theorem literalTail?_escape {c : Char} (newline : c ≠ '\n') (rest : List Char) :
    literalTail? ('\\' :: c :: rest) = (literalTail? rest).map (· + 2) := by
  rw [literalTail?, if_neg newline]

theorem isLiteralChar_iff {c : Char} : isLiteralChar c = true ↔ c ≠ '"' ∧ c ≠ '\\' ∧ c ≠ '\n' := by
  simp [isLiteralChar, and_assoc]

theorem literalTail?_of_escaped {body : List Char} (escaped : Escaped isLiteralChar body)
    (behind : List Char) : literalTail? (body ++ '"' :: behind) = some (body.length + 1) := by
  induction escaped with
  | nil => rfl
  | plain isPlain others ih =>
    obtain ⟨quote, backslash, newline⟩ := isLiteralChar_iff.1 isPlain
    rw [List.cons_append, literalTail?_plain quote backslash newline, ih]
    rfl
  | escape inLine others ih =>
    rw [List.cons_append, List.cons_append, literalTail?_escape inLine, ih]
    rfl

theorem escaped_of_literalTail? {cs : List Char} {n : Nat} (read : literalTail? cs = some n) :
    ∃ body, cs.take n = body ++ ['"'] ∧ Escaped isLiteralChar body := by
  fun_induction literalTail? cs generalizing n with
  | case1 | case2 | case3 | case6 => cases read
  | case4 c rest inLine ih =>
    obtain ⟨m, found, rfl⟩ := Option.map_eq_some_iff.1 read
    obtain ⟨body, split, escaped⟩ := ih found
    refine ⟨'\\' :: c :: body, ?_, .escape inLine escaped⟩
    rw [List.take_succ_cons, List.take_succ_cons, split]
    rfl
  | case5 =>
    cases read
    exact ⟨[], rfl, .nil⟩
  | case7 c rest lone pair quote newline ih =>
    obtain ⟨m, found, rfl⟩ := Option.map_eq_some_iff.1 read
    obtain ⟨body, split, escaped⟩ := ih found
    have backslash : c ≠ '\\' := by
      intro same
      cases rest with
      | nil => exact lone same rfl
      | cons d rest => exact pair d rest same rfl
    refine ⟨c :: body, ?_, .plain (isLiteralChar_iff.2 ⟨quote, backslash, newline⟩) escaped⟩
    rw [List.take_succ_cons, split]
    rfl

end literals

section keys

theorem isKeyChar_iff {c : Char} :
    isKeyChar c = true ↔ isLineEnd c = false ∧ c ≠ ']' ∧ c ≠ '\\' := by
  simp [isKeyChar, and_assoc]

theorem keyLength_plain {c : Char} (isPlain : isKeyChar c = true) (rest : List Char) :
    keyLength (c :: rest) = keyLength rest + 1 := by
  obtain ⟨lineEnd, bracket, backslash⟩ := isKeyChar_iff.1 isPlain
  rw [keyLength]
  · simp [lineEnd, bracket]
  · rintro rfl
    exact absurd rfl backslash
  · rintro _ _ rfl
    exact absurd rfl backslash

theorem keyLength_append {text : List Char} (escaped : Escaped isKeyChar text)
    (behind : List Char) : keyLength (text ++ behind) = text.length + keyLength behind := by
  induction escaped with
  | nil => exact (Nat.zero_add _).symm
  | plain isPlain others ih =>
    rw [List.cons_append, keyLength_plain isPlain, ih, List.length_cons]
    exact Nat.add_right_comm _ _ _
  | escape inLine others ih =>
    rw [List.cons_append, List.cons_append, keyLength, if_neg inLine, ih]
    exact Nat.add_right_comm _ _ 2

theorem escaped_take_keyLength (cs : List Char) : Escaped isKeyChar (cs.take (keyLength cs)) := by
  fun_induction keyLength cs with
  | case1 | case2 | case3 | case5 => exact .nil
  | case4 c rest inLine ih =>
    rw [List.take_succ_cons, List.take_succ_cons]
    exact .escape inLine ih
  | case6 c rest lone pair ends ih =>
    have backslash : c ≠ '\\' := by
      intro same
      cases rest with
      | nil => exact lone same rfl
      | cons d rest => exact pair d rest same rfl
    rw [List.take_succ_cons]
    exact .plain (isKeyChar_iff.2 (by simpa [backslash] using ends)) ih

end keys

theorem matches_take_length (pattern : Pattern) (cs : List Char) :
    pattern.length cs ≠ 0 → pattern.Matches (cs.take (pattern.length cs)) := by
  fun_cases length pattern cs with
  | case1 cs => exact fun fits => ⟨take_run_ne_nil fits, all_take_run _ _⟩
  | case2 => exact fun _ => .inl rfl
  | case3 => exact fun _ => .inr rfl
  | case5 cs word isPrefix =>
    intro fits
    rw [← List.prefix_iff_eq_take.1 (List.isPrefixOf_iff_prefix.1 isPrefix)]
    exact ⟨List.ne_nil_of_length_pos (Nat.pos_of_ne_zero fits), rfl⟩
  | case8 cs name taken =>
    intro _
    rw [List.take_succ_cons]
    exact ⟨_, rfl, take_run_ne_nil taken, all_take_run _ _⟩
  | case11 cs n read =>
    intro _
    obtain ⟨body, split, escaped⟩ := escaped_of_literalTail? read
    rw [List.take_succ_cons, split]
    exact ⟨body, rfl, escaped⟩
  | case13 c cs starts =>
    intro _
    rw [List.take_succ_cons]
    exact ⟨c, _, rfl, starts, all_take_run _ _⟩
  | case16 cs =>
    intro fits
    have bound := keyLength_le cs
    refine ⟨List.ne_nil_of_length_pos ?_, escaped_take_keyLength cs⟩
    rw [List.length_take]
    omega
  | case17 c cs starts =>
    intro _
    rw [List.take_succ_cons]
    have inLine := all_take_run (!isLineEnd ·) cs
    exact ⟨c, _, rfl, starts, fun d member => by simpa using inLine d member⟩
  | case4 | case6 | case7 | case9 | case10 | case12 | case14 | case15 | case18 | case19 =>
    exact fun fits => absurd rfl fits

theorem length_of_matches {pattern : Pattern} {front : List Char} (matched : pattern.Matches front)
    (behind : List Char) : front.length ≤ pattern.length (front ++ behind) := by
  cases pattern with
  | blanks => exact le_run matched.2 behind
  | keyText => exact Nat.le.intro (keyLength_append matched.2 behind).symm
  | newline =>
    rcases matched with rfl | rfl
    · exact Nat.le_refl _
    · exact Nat.le_refl _
  | exactly word =>
    obtain ⟨_, rfl⟩ := matched
    have isPrefix : front.isPrefixOf (front ++ behind) = true :=
      List.isPrefixOf_iff_prefix.2 (List.prefix_append front behind)
    rw [length, if_pos isPrefix]
  | directive =>
    obtain ⟨name, rfl, nonempty, all⟩ := matched
    have bound := le_run all behind
    have positive := List.length_pos_iff.2 nonempty
    simp only [List.cons_append, length, List.length_cons]
    split <;> omega
  | stringLiteral =>
    obtain ⟨body, rfl, escaped⟩ := matched
    have read := literalTail?_of_escaped escaped behind
    have whole : '"' :: (body ++ ['"']) ++ behind = '"' :: (body ++ '"' :: behind) := by simp
    rw [whole, length, read]
    simp
  | identifier =>
    obtain ⟨c, rest, rfl, starts, all⟩ := matched
    rw [List.cons_append, length, if_pos starts]
    exact Nat.succ_le_succ (le_run all behind)
  | freeText =>
    obtain ⟨c, rest, rfl, starts, all⟩ := matched
    rw [List.cons_append, length, if_pos starts]
    exact Nat.succ_le_succ (le_run (fun d member => by simpa using all d member) behind)

theorem not_matches_of_length {pattern : Pattern} {cs front : List Char}
    (misfit : pattern.length cs = 0) (isPrefix : front <+: cs) : ¬ pattern.Matches front := by
  intro matched
  obtain ⟨behind, rfl⟩ := isPrefix
  have bound := length_of_matches matched behind
  rw [misfit] at bound
  exact ne_nil_of_matches matched (List.eq_nil_of_length_eq_zero (Nat.eq_zero_of_le_zero bound))

end ConfigLang.Pattern
