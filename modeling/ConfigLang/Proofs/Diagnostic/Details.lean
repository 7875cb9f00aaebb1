import Mathlib.Data.List.Basic
import ConfigLang.Diagnostic.Text
import ConfigLang.Proofs.Text.Trim
/-! The details of a diagnostic in its text. Without a source each of them has a line of its own.
Where the source at fault is cited, those that point nowhere have one, and those that point into its
file are drawn beside the source. What is left are details that point into another file, and all that
point anywhere if the file is empty, as nothing is drawn then. -/
namespace ConfigLang

namespace Text

def HasLine (text line : List Char) : Prop :=
  ∃ front back, text = front ++ (line ++ '\n' :: back) ∧
    (front = [] ∨ front.getLast? = some '\n')

theorem hasLine_of_mem {lines : List String} {line : String} (member : line ∈ lines) :
    HasLine (lines.flatMap fun line => line.toList ++ ['\n']) line.toList := by
  obtain ⟨before, after, rfl⟩ := List.append_of_mem member
  refine ⟨before.flatMap fun line => line.toList ++ ['\n'],
    after.flatMap fun line => line.toList ++ ['\n'], by simp, ?_⟩
  obtain rfl | ⟨before, last, rfl⟩ := before.eq_nil_or_concat'
  · exact .inl rfl
  · exact .inr (by simp)

theorem toList_intercalate_newline {lines : List String} (nonempty : lines ≠ []) :
    ("\n".intercalate lines ++ "\n").toList =
      lines.flatMap fun line => line.toList ++ ['\n'] := by
  induction lines with
  | nil => exact absurd rfl nonempty
  | cons line lines ih =>
    cases lines with
    | nil => simp
    | cons next lines =>
      have others := ih (List.cons_ne_nil next lines)
      rw [List.flatMap_cons, ← others, String.intercalate_cons_cons]
      simp

end Text

namespace Detail

variable {a b : Detail}

theorem head?_line (detail : Detail) :
    detail.line.toList.head? = some '✖' ∨ detail.line.toList.head? = some 'ℹ' := by
  obtain ⟨kind, content, span⟩ := detail
  cases kind with
  | error => exact .inl (by simp [line, Kind.bullet])
  | info => exact .inr (by simp [line, Kind.bullet])

theorem line_ne {c : Char} {text : String} (first : text.toList.head? = some c) (cross : c ≠ '✖')
    (sign : c ≠ 'ℹ') (detail : Detail) : detail.line ≠ text := by
  intro same
  rcases detail.head?_line with head | head
  · rw [same, first] at head
    exact cross (Option.some.inj head)
  · rw [same, first] at head
    exact sign (Option.some.inj head)

theorem line_inj : a.line = b.line ↔ a.kind = b.kind ∧ a.content = b.content := by
  obtain ⟨kind, content, span⟩ := a
  obtain ⟨kind', content', span'⟩ := b
  cases kind <;> cases kind' <;> simp [line, Kind.bullet, ← String.toList_inj]

end Detail

namespace Diagnostic

/-- The text cites the source at fault: the diagnostic has a place, and the text of the file that it
is in can be had. -/
def Cites (disk : FileTree) (sources : Option Sources) (d : Diagnostic) (place : Span)
    (content : String) : Prop :=
  ∃ known file, sources = some known ∧ d.span = some place ∧
    known.get? place.file = some file ∧ file.read? disk = some content

/-- The detail is a label in the box that shows the source. -/
def Draws (disk : FileTree) (sources : Option Sources) (d : Diagnostic) (detail : Detail) : Prop :=
  ∃ known, sources = some known ∧ d.showsDetail disk known detail = true

def Appears (disk : FileTree) (sources : Option Sources) (d : Diagnostic) (detail : Detail) : Prop :=
  d.Draws disk sources detail ∨ detail.line ∈ d.lines disk sources

/-- The source at fault is cited and the detail points somewhere, but into another file, or there is
nothing to draw it beside. Nor is there a detail without a place that says the same. -/
def PassesOver (disk : FileTree) (sources : Option Sources) (d : Diagnostic) (detail : Detail) :
    Prop :=
  (⟨detail.kind, detail.content, none⟩ : Detail) ∉ d.details ∧
    ∃ place content span, d.Cites disk sources place content ∧ detail.span = some span ∧
      (span.file ≠ place.file ∨ content = "")

section details

variable {disk : FileTree} {sources : Option Sources} {d : Diagnostic} {place : Span}
  {content : String} {detail : Detail}

theorem source?_eq_some_iff {known : Sources} {file : SourceFile} :
    source? disk known d = some (place, file, content) ↔
      d.span = some place ∧ known.get? place.file = some file ∧ file.read? disk = some content := by
  simp [source?, Option.bind_eq_some_iff]

theorem cites_iff : d.Cites disk sources place content ↔
    ∃ file, sources.bind (source? disk · d) = some (place, file, content) := by
  simp only [Cites, Option.bind_eq_some_iff, source?_eq_some_iff]
  constructor
  · rintro ⟨known, file, given, found⟩
    exact ⟨file, known, given, found⟩
  · rintro ⟨file, known, given, found⟩
    exact ⟨known, file, given, found⟩

theorem Cites.unique {place' : Span} {content' : String} (cites : d.Cites disk sources place content)
    (cites' : d.Cites disk sources place' content') : place = place' ∧ content = content' := by
  obtain ⟨file, found⟩ := cites_iff.1 cites
  obtain ⟨file', found'⟩ := cites_iff.1 cites'
  rw [found] at found'
  cases found'
  exact ⟨rfl, rfl⟩

theorem draws_iff : d.Draws disk sources detail ↔
    ∃ place content span, d.Cites disk sources place content ∧ content ≠ "" ∧
      detail.span = some span ∧ span.file = place.file := by
  constructor
  · rintro ⟨known, rfl, shown⟩
    obtain ⟨drawn, inside⟩ := Bool.and_eq_true_iff.1 shown
    cases found : source? disk known d with
    | none => simp [showsSource, found] at drawn
    | some source =>
      obtain ⟨place, file, content⟩ := source
      obtain ⟨here, _⟩ := source?_eq_some_iff.1 found
      cases there : detail.span with
      | none => simp [there] at inside
      | some span =>
        refine ⟨place, content, span, cites_iff.2 ⟨file, found⟩, ?_, rfl, ?_⟩
        · simpa [showsSource, found] using drawn
        · simpa [here, there] using inside
  · rintro ⟨place, content, span, ⟨known, file, rfl, here, held, read⟩, nonempty, there, inside⟩
    have found := source?_eq_some_iff.2 ⟨here, held, read⟩
    exact ⟨known, rfl, by simp [showsDetail, showsSource, found, here, there, inside, nonempty]⟩

section lines

theorem line_not_mem_sourceLines (place : Span) (file : SourceFile) (content : String)
    (d : Diagnostic) (detail : Detail) : detail.line ∉ d.sourceLines place file content := by
  have heading : ("Error: " ++ d.heading).toList.head? = some 'E' := by simp
  have trimmed : (String.ofList (Text.trimRight ("Error: " ++ d.heading).toList)).toList.head? =
      some 'E' := by
    rw [String.toList_ofList, String.toList_append]
    exact Text.head?_trimRight (by decide) _
  have reference : (reference file.path
      (placeOfOffset content place.range.start.offset)).toList.head? = some '[' := by
    simp [reference]
  unfold sourceLines
  split
  · simpa using Detail.line_ne trimmed (by decide) (by decide) detail
  · simpa using ⟨Detail.line_ne heading (by decide) (by decide) detail,
      Detail.line_ne reference (by decide) (by decide) detail⟩

theorem line_not_mem_hints (hints : List String) (detail : Detail) :
    detail.line ∉ hints.map ("? " ++ ·) := by
  intro member
  obtain ⟨hint, _, same⟩ := List.mem_map.1 member
  have question : ("? " ++ hint).toList.head? = some '?' := by simp
  exact Detail.line_ne question (by decide) (by decide) detail same.symm

theorem line_mem_of_uncited (uncited : ∀ place content, ¬ d.Cites disk sources place content)
    (member : detail ∈ d.details) : detail.line ∈ d.lines disk sources := by
  have nothing : sources.bind (source? disk · d) = none := by
    rw [Option.eq_none_iff_forall_ne_some]
    rintro ⟨place, file, content⟩ found
    exact uncited place content (cites_iff.2 ⟨file, found⟩)
  have listed : detail.line ∈ d.details.map Detail.line := List.mem_map_of_mem member
  simp only [lines, nothing]
  exact List.mem_append_left _ (List.mem_append_right _ listed)

theorem line_mem_iff_of_cites (cites : d.Cites disk sources place content) :
    detail.line ∈ d.lines disk sources ↔
      (⟨detail.kind, detail.content, none⟩ : Detail) ∈ d.details := by
  obtain ⟨file, found⟩ := cites_iff.1 cites
  have outside := line_not_mem_sourceLines place file content d detail
  have outside' := line_not_mem_hints d.hints detail
  simp only [lines, found, List.mem_append, outside, outside', false_or, or_false]
  constructor
  · intro listed
    obtain ⟨⟨kind, text, span⟩, kept, same⟩ := List.mem_map.1 listed
    obtain ⟨member, nowhere⟩ := List.mem_filter.1 kept
    obtain ⟨rfl, rfl⟩ := Detail.line_inj.1 same
    cases Option.isNone_iff_eq_none.1 nowhere
    exact member
  · intro member
    exact List.mem_map.2 ⟨_, List.mem_filter.2 ⟨member, rfl⟩, rfl⟩

theorem lines_ne_nil (disk : FileTree) (sources : Option Sources) (d : Diagnostic) :
    d.lines disk sources ≠ [] := by
  unfold lines
  dsimp only
  split
  · unfold sourceLines
    dsimp only
    split <;> simp
  · simp [plainLines]

end lines

/-- No detail is lost but for one reason. Each is drawn as a label or has a line of its own, which is
then a line of the text, if and only if it is not passed over: where the source at fault is cited,
the text leaves out details that point into another file, and those that point into an empty one. -/
theorem detail_appears_iff (disk : FileTree) (sources : Option Sources) (d : Diagnostic) :
    ∀ detail ∈ d.details,
      (d.Appears disk sources detail ↔ ¬ d.PassesOver disk sources detail) ∧
      (detail.line ∈ d.lines disk sources →
        Text.HasLine (d.toText disk sources).toList detail.line.toList) := by
  intro detail member
  constructor
  · by_cases cited : ∃ place content, d.Cites disk sources place content
    · obtain ⟨place, content, cites⟩ := cited
      rw [Appears, line_mem_iff_of_cites cites]
      constructor
      · rintro (drawn | twin) ⟨absent, _, _, _, cites', there, lost⟩
        · obtain ⟨_, _, _, cites'', nonempty, there', inside⟩ := draws_iff.1 drawn
          obtain ⟨rfl, rfl⟩ := cites'.unique cites''
          rw [there] at there'
          cases there'
          exact lost.elim (· inside) nonempty
        · exact absent twin
      · intro kept
        by_cases twin : (⟨detail.kind, detail.content, none⟩ : Detail) ∈ d.details
        · exact .inr twin
        cases there : detail.span with
        | none =>
          obtain ⟨kind, text, span⟩ := detail
          cases there
          exact absurd member twin
        | some span =>
          have lost (reason : span.file ≠ place.file ∨ content = "") : False :=
            kept ⟨twin, place, content, span, cites, there, reason⟩
          refine .inl (draws_iff.2 ⟨place, content, span, cites, fun empty => lost (.inr empty),
            there, ?_⟩)
          by_contra other
          exact lost (.inl other)
    · have uncited : ∀ place content, ¬ d.Cites disk sources place content :=
        fun place content cites => cited ⟨place, content, cites⟩
      refine iff_of_true (.inr (line_mem_of_uncited uncited member)) ?_
      rintro ⟨_, place, content, _, cites, _⟩
      exact uncited place content cites
  · intro listed
    rw [toText, Text.toList_intercalate_newline (lines_ne_nil disk sources d)]
    exact Text.hasLine_of_mem listed

theorem detail_appears_iff_other_file :
    let sources : Sources := ⟨[⟨"site", some "- a\n"⟩, ⟨"base", some "[k] b\n"⟩]⟩
    let place : Span := ⟨0, ⟨⟨0, 0, 0⟩, ⟨3, 0, 3⟩⟩⟩
    let here : Detail := ⟨.error, "Cannot be merged", some place⟩
    let nowhere : Detail := ⟨.info, "Lists and maps differ", none⟩
    let elsewhere : Detail := ⟨.info, "The map is here", some ⟨1, ⟨⟨0, 0, 0⟩, ⟨5, 0, 5⟩⟩⟩⟩
    let d : Diagnostic := ⟨none, "Incompatible merge", none, [here, nowhere, elsewhere], [], some place⟩
    elsewhere ∈ d.details ∧ d.PassesOver .empty (some sources) elsewhere ∧
      ¬ d.Appears .empty (some sources) elsewhere ∧
      d.Appears .empty (some sources) here ∧ d.Appears .empty (some sources) nowhere := by
  intro sources place here nowhere elsewhere d
  have cites : d.Cites .empty (some sources) place "- a\n" := ⟨sources, _, rfl, rfl, rfl, rfl⟩
  have appears := detail_appears_iff .empty (some sources) d
  have member : elsewhere ∈ d.details := by simp [d]
  have lost : d.PassesOver .empty (some sources) elsewhere :=
    ⟨by decide, place, _, _, cites, rfl, .inl (by decide)⟩
  refine ⟨member, lost, fun shown => (appears elsewhere member).1.1 shown lost, ?_, ?_⟩
  · refine (appears here (by simp [d])).1.2 ?_
    rintro ⟨_, _, _, _, cites', there, reason⟩
    obtain ⟨rfl, rfl⟩ := cites.unique cites'
    cases there
    exact reason.elim (· rfl) (by decide)
  · refine (appears nowhere (by simp [d])).1.2 ?_
    rintro ⟨twin, _⟩
    exact twin (by simp [d, nowhere])

end details

end Diagnostic

end ConfigLang
