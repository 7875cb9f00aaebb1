import ConfigLang.Proofs.Grammar.Basic
import ConfigLang.Proofs.Json.Reading
import ConfigLang.Proofs.Syntax.Step
import ConfigLang.Proofs.Text.Trim
/-! The leaves of a tree are what the grammar says. A text has one trimmed form, a key one form
without its backslashes and a literal at most one text; each of them is what the reader makes of
it. -/
namespace ConfigLang

theorem Draft.unescape_plain {c : Char} (plain : c ≠ '\\') (rest : List Char) :
    unescape (c :: rest) = c :: unescape rest := by
  rw [unescape]
  · rintro rfl
    exact absurd rfl plain
  · rintro _ _ rfl
    exact absurd rfl plain

namespace Grammar

theorem trims_iff {whole text : List Char} : Trims whole text ↔ Text.trim whole = text := by
  constructor
  · rintro ⟨⟨front, back, rfl, frontBlank, backBlank⟩, first, last⟩
    rw [Text.trim_blank_append frontBlank, Text.trim_append_blank backBlank,
      Text.trim_eq_self first last]
  · rintro rfl
    exact ⟨Text.exists_trim whole, Text.head?_trim whole, Text.getLast?_trimRight _⟩

theorem unescapes_unescape (cs : List Char) : Unescapes cs (Draft.unescape cs) := by
  fun_induction Draft.unescape cs with
  | case1 => exact .nil
  | case2 => exact .last
  | case3 c rest ih => exact .escaped ih
  | case4 c rest notLast notEscaped ih =>
    refine .plain ?_ ih
    rintro rfl
    cases rest with
    | nil => exact notLast rfl rfl
    | cons c rest => exact notEscaped c rest rfl rfl

theorem unescapes_iff {cs text : List Char} : Unescapes cs text ↔ Draft.unescape cs = text := by
  constructor
  · intro unescapes
    induction unescapes with
    | nil | last => rfl
    | escaped _ ih => rw [Draft.unescape, ih]
    | plain other _ ih => rw [Draft.unescape_plain other, ih]
  · rintro rfl
    exact unescapes_unescape cs

theorem decodes_iff {token : Token} {text : String} :
    Decodes token text ↔ Draft.literalText token = .ok text := by
  rw [Decodes, ← Json.readLiteral_eq_ok, Draft.literalText, except_mapError_eq_ok]

theorem isComponent_iff {token : Token} {name : String} :
    IsComponent token name ↔ Draft.Names token name := by
  constructor
  · rintro (kind | ⟨kind, decodes⟩)
    · exact .identifier kind
    · exact .literal kind (decodes_iff.1 decodes)
  · rintro (kind | ⟨kind, decoded⟩)
    · exact .identifier kind
    · exact .literal kind (decodes_iff.2 decoded)

end Grammar

end ConfigLang
