import ConfigLang.Diagnostic.Json
import ConfigLang.Proofs.Source.Json
/-! Diagnostics and source files are read back from the texts that they are stored as. A field that
is left out reads as one that holds nothing; a problem that is not known is stored as null. -/
namespace ConfigLang

open Json.Form (Reads Fills reads_field reads_natural reads_record reads_list reads_text reads_some
  reads_choice reads_ofOption readForm_of_reads)

variable {depth : Nat}

theorem Json.entry?_map {α : Type} (name : String) (print : α → Json) (a? : Option α) :
    entry? name (a?.map print) = (a?.map fun a => (name, print a)).toList := by
  cases a? <;> rfl

theorem Detail.Kind.reads_toJson (kind : Kind) : Reads form depth kind.toJson kind := by
  cases kind with
  | error => exact reads_choice rfl
  | info => exact reads_choice rfl

theorem Detail.reads_toJson {detail : Detail} (counted : ∀ span ∈ detail.span, span.IsCounted) :
    Reads form (depth + 4) detail.toJson detail := by
  obtain ⟨kind, content, span⟩ := detail
  rw [toJson, Json.entry?_map]
  refine reads_record ⟨some kind, some content, span.map some⟩
    (.next rfl rfl (reads_field kind.reads_toJson)
      (.next rfl rfl (reads_field (reads_text content))
        (.ofOption (Partial.mk (some kind) (some content)) rfl rfl fun span present =>
          reads_field (reads_some rfl (Span.reads_toJson (counted span present))))))
    ?_
  cases span <;> rfl

namespace Diagnostic

def spans (d : Diagnostic) : List Span := d.span.toList ++ d.details.filterMap Detail.span

theorem reads_toJson {d : Diagnostic} (counted : ∀ span ∈ d.spans, span.IsCounted) :
    Reads form (depth + 6) d.toJson d := by
  obtain ⟨code, title, problem, details, hints, span⟩ := d
  have own : ∀ s ∈ span, s.IsCounted := fun s present =>
    counted s (List.mem_append_left _ (Option.mem_toList.2 present))
  have inDetails : ∀ detail ∈ details, ∀ s ∈ detail.span, s.IsCounted :=
    fun detail member s present =>
      counted s (List.mem_append_right _ (List.mem_filterMap.2 ⟨detail, member, present⟩))
  have codeRead (text : String) : Reads (.optional .text) (depth + 5) (.string text) (some text) :=
    reads_some rfl (reads_text text)
  have problemRead : Reads (.optional .text) (depth + 5) (.ofOption .string problem) problem :=
    reads_ofOption (fun text _ => reads_text text) fun _ _ => rfl
  have detailsRead : Reads (.list Detail.form) (depth + 5) (.array (details.map Detail.toJson))
      details :=
    reads_list (fun detail member => Detail.reads_toJson (inDetails detail member)) fun _ _ => rfl
  have hintsRead : Reads (.list .text) (depth + 5) (.array (hints.map .string)) hints :=
    reads_list (fun text _ => reads_text text) fun _ _ => rfl
  have spanRead : ∀ s ∈ span, Reads (.optional Span.form) (depth + 5) s.toJson (some s) :=
    fun s present => reads_some rfl (Span.reads_toJson (own s present))
  rw [toJson, Json.entry?_map, Json.entry?_map]
  refine reads_record
    ⟨code.map some, some title, some problem, some details, some hints, span.map some⟩
    (((Fills.ofOption (Partial.mk · none none none none none) rfl rfl fun text _ =>
      reads_field (codeRead text)).append
    (.next rfl rfl (reads_field (reads_text title))
      (.next rfl rfl (reads_field problemRead)
        (.next rfl rfl (reads_field detailsRead)
          (.next rfl rfl (reads_field hintsRead) (.done _)))))).append
    (.ofOption (Partial.mk (code.map some) (some title) (some problem) (some details) (some hints))
      rfl rfl fun s present => reads_field (spanRead s present))) ?_
  cases code <;> cases span <;> rfl

end Diagnostic

namespace Sources

def ofAdds (adds : List (String × Option String)) : Sources :=
  adds.foldl (fun sources file => (sources.add file.1 file.2).2) empty

theorem files_foldl_add (sources : Sources) (adds : List (String × Option String)) :
    (adds.foldl (fun sources file => (sources.add file.1 file.2).2) sources).files =
      sources.files ++ adds.map fun file => ⟨file.1, file.2⟩ := by
  induction adds generalizing sources with
  | nil => exact (List.append_nil _).symm
  | cons file adds ih =>
    rw [List.foldl_cons, ih, add, List.map_cons, List.append_assoc, List.singleton_append]

theorem files_ofAdds (adds : List (String × Option String)) :
    (ofAdds adds).files = adds.map fun file => ⟨file.1, file.2⟩ :=
  files_foldl_add empty adds

theorem get?_number {adds : List (String × Option String)} {n : Nat} {file : String × Option String}
    (added : adds[n]? = some file) :
    (ofAdds adds).get? ((ofAdds (adds.take n)).add file.1 file.2).1 = some ⟨file.1, file.2⟩ := by
  have before : n ≤ adds.length := by
    have := (List.getElem?_eq_some_iff.1 added).1
    omega
  have number : ((ofAdds (adds.take n)).add file.1 file.2).1 = n := by
    simp [add, files_ofAdds, before]
  rw [number, get?, files_ofAdds, List.getElem?_map, added]
  rfl

end Sources

/-- What is stored is read back: a diagnostic, whatever it holds, and the files that have been
registered. Under the number that it got, a file has its path, and its text if it has one; asked
for any file, or for the text under a span, the loaded files answer as the stored ones. -/
theorem stored_reads_back (d : Diagnostic) (counted : ∀ span ∈ d.spans, span.IsCounted)
    (adds : List (String × Option String)) :
    let sources := Sources.ofAdds adds
    Json.readForm Diagnostic.form d.toJson.compact = .ok d ∧
      ∃ loaded, Json.readForm Sources.form sources.toJson.compact = .ok loaded ∧
        (∀ n path content, adds[n]? = some (path, content) →
          loaded.get? ((Sources.ofAdds (adds.take n)).add path content).1 = some ⟨path, content⟩) ∧
        (∀ id, loaded.get? id = sources.get? id) ∧
        ∀ span, loaded.slice? span = sources.slice? span := by
  intro sources
  have diagnostic : Reads Diagnostic.form Json.maxNesting d.toJson d :=
    Diagnostic.reads_toJson counted
  have files : Reads Sources.form Json.maxNesting sources.toJson sources := Sources.reads_toJson _
  exact ⟨readForm_of_reads diagnostic, sources, readForm_of_reads files,
    fun _ _ _ => Sources.get?_number, fun _ => rfl, fun _ => rfl⟩

theorem stored_reads_back_half_filled :
    let span : Span := ⟨1, ⟨3, 0, 3⟩, ⟨18, 1, 5⟩⟩
    let d : Diagnostic :=
      ⟨none, "a \"b\"", none, [⟨.error, "c\n", some span⟩, ⟨.info, "\\", none⟩], [""], some span⟩
    let sources := Sources.ofAdds [("a", some "b"), ("c", none)]
    (∀ span ∈ d.spans, span.IsCounted) ∧
      Json.readForm Diagnostic.form d.toJson.compact = .ok d ∧
      ∃ loaded, Json.readForm Sources.form sources.toJson.compact = .ok loaded ∧
        ∀ id, loaded.get? id = sources.get? id := by
  intro span d sources
  have counted : ∀ span ∈ d.spans, span.IsCounted := by decide
  obtain ⟨diagnostic, loaded, files, _, same, _⟩ :=
    stored_reads_back d counted [("a", some "b"), ("c", none)]
  exact ⟨counted, diagnostic, loaded, files, same⟩

end ConfigLang
