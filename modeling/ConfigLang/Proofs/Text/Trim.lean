import Mathlib.Data.List.TakeWhile
import ConfigLang.Text.Blank
/-! Trimming takes blanks off the ends of a text, and nothing else: a text without blanks at its
ends stays, and blanks that are added there go. -/
namespace ConfigLang.Text

theorem trimLeft_eq_self {text : List Char} (first : ∀ c ∈ text.head?, isBlank c = false) :
    trimLeft text = text := by
  cases text with
  | nil => rfl
  | cons c rest => exact List.dropWhile_cons_of_neg (by simpa using first c rfl)

theorem trim_eq_self {text : List Char} (first : ∀ c ∈ text.head?, isBlank c = false)
    (last : ∀ c ∈ text.getLast?, isBlank c = false) : trim text = text := by
  rw [trim, trimLeft_eq_self first, trimRight, ← trimLeft,
    trimLeft_eq_self (by rwa [List.head?_reverse]), List.reverse_reverse]

theorem trimRight_append_blank {xs ys : List Char} (blank : ∀ c ∈ ys, isBlank c = true) :
    trimRight (xs ++ ys) = trimRight xs := by
  unfold trimRight
  rw [List.reverse_append, List.dropWhile_append_of_pos]
  exact fun c member => blank c (List.mem_reverse.1 member)

theorem trim_append_blank {xs ys : List Char} (blank : ∀ c ∈ ys, isBlank c = true) :
    trim (xs ++ ys) = trim xs := by
  unfold trim trimLeft
  rw [List.dropWhile_append]
  split
  · next empty =>
    have none : ys.dropWhile isBlank = [] := List.dropWhile_eq_nil_iff.2 blank
    rw [none, List.isEmpty_iff.1 empty]
  · exact trimRight_append_blank blank

theorem trim_blank_append {xs ys : List Char} (blank : ∀ c ∈ xs, isBlank c = true) :
    trim (xs ++ ys) = trim ys := by
  rw [trim, trimLeft, List.dropWhile_append_of_pos blank]
  rfl

theorem exists_trimLeft (text : List Char) :
    ∃ blanks, text = blanks ++ trimLeft text ∧ ∀ c ∈ blanks, isBlank c = true :=
  ⟨text.takeWhile isBlank, List.takeWhile_append_dropWhile.symm, fun _ => List.mem_takeWhile_imp⟩

theorem exists_trimRight (text : List Char) :
    ∃ blanks, text = trimRight text ++ blanks ∧ ∀ c ∈ blanks, isBlank c = true := by
  obtain ⟨blanks, split, blank⟩ := exists_trimLeft text.reverse
  refine ⟨blanks.reverse, ?_, fun c member => blank c (List.mem_reverse.1 member)⟩
  rw [trimRight, ← List.reverse_append, ← trimLeft, ← split, List.reverse_reverse]

theorem trim_trimRight (text : List Char) : trim (trimRight text) = trim text := by
  obtain ⟨blanks, split, blank⟩ := exists_trimRight text
  calc trim (trimRight text)
      = trim (trimRight text ++ blanks) := (trim_append_blank blank).symm
    _ = trim text := by rw [← split]

theorem head?_trimLeft (text : List Char) : ∀ c ∈ (trimLeft text).head?, isBlank c = false := by
  intro c found
  have stops := List.head?_dropWhile_not isBlank text
  rw [trimLeft, Option.mem_def] at found
  rwa [found] at stops

theorem head?_trimRight {c : Char} (visible : isBlank c = false) (rest : List Char) :
    (trimRight (c :: rest)).head? = some c := by
  rw [trimRight, List.reverse_cons, List.dropWhile_append]
  split <;> simp [visible]

theorem getLast?_trimRight (text : List Char) :
    ∀ c ∈ (trimRight text).getLast?, isBlank c = false := by
  rw [trimRight, List.getLast?_reverse]
  exact head?_trimLeft text.reverse

theorem exists_trim (text : List Char) : ∃ front back, text = front ++ (trim text ++ back) ∧
    (∀ c ∈ front, isBlank c = true) ∧ ∀ c ∈ back, isBlank c = true := by
  obtain ⟨front, left, frontBlank⟩ := exists_trimLeft text
  obtain ⟨back, right, backBlank⟩ := exists_trimRight (trimLeft text)
  exact ⟨front, back, left.trans (congrArg _ right), frontBlank, backBlank⟩

theorem head?_trim (text : List Char) : ∀ c ∈ (trim text).head?, isBlank c = false := by
  intro c found
  obtain ⟨back, right, _⟩ := exists_trimRight (trimLeft text)
  refine head?_trimLeft text c ?_
  rw [trim, Option.mem_def] at found
  rw [right, List.head?_append, found]
  rfl

end ConfigLang.Text
