import Polyglot.Proofs.Json.FieldOrder
import Polyglot.Report.Page

/-!
# JSON forms that come back

Catalogs, reports on languages and summaries of scans are written as JSON and read again. A report
leaves out an empty list of aliases and a description that is not there, and its reader takes what
is missing as such; a catalog writes all of its fields, though its reader would do without most of
them. What is read is what was written, in whatever order the fields of the objects are kept in
between.

- `Catalog.readsAs`, `LanguageReport.readsAs`, `DetectionSummary.readsAs`: the forms one by one,
  each record from the forms of its fields in the order of writing.
- `VersionReport.field?_toJson`: what is left out.
- `toJson_decodes`: all of them.
-/

namespace Polyglot

open Json Json.Value

/-! ## Catalogs -/

theorem Strategy.readsAs (s : Strategy) :
    ReadsAs (Strategy.reader Json.format) (.text s.text) s := by
  refine ReadsAs.choice ?_
  cases s <;> decide

theorem VersionEntry.readsAs (e : VersionEntry) :
    ReadsAs (VersionEntry.reader Json.format) e.toJson e := by
  refine ReadsAs.record ?_ (by simp) rfl ?_
  · simp only [List.pairwise_cons, List.forall_mem_cons, List.not_mem_nil, false_imp_iff,
      implies_true, List.Pairwise.nil, and_true]
    and_intros <;> exact apart_of_put fun _ _ _ => rfl
  · exact .cons rfl (.text _) <| .cons rfl (.texts _) <| .cons rfl (.boolean _) <|
      .cons rfl (.textOrNull _) .nil

theorem LanguageEntry.readsAs (e : LanguageEntry) :
    ReadsAs (LanguageEntry.reader Json.format) e.toJson e := by
  refine ReadsAs.record ?_ (by simp) rfl ?_
  · simp only [List.pairwise_cons, List.forall_mem_cons, List.not_mem_nil, false_imp_iff,
      implies_true, List.Pairwise.nil, and_true]
    and_intros <;> exact apart_of_put fun _ _ _ => rfl
  · exact .cons rfl (.text _) <| .cons rfl (.textOrNull _) <| .cons rfl (.text _) <|
      .cons rfl (.texts _) <| .cons rfl e.strategy.readsAs <|
      .cons rfl (.list fun v _ => v.readsAs) .nil

theorem Catalog.readsAs (c : Catalog) : ReadsAs Catalog.ofJson c.toJson c := by
  refine ReadsAs.record (List.pairwise_singleton _ _) (by simp) rfl ?_
  exact .cons rfl (.list fun e _ => e.readsAs) .nil

/-! ## Reports -/

/-- What a version has none of is left out. -/
theorem VersionReport.field?_toJson (v : VersionReport) :
    v.toJson.field? "aliases" = (if v.aliases = [] then none else some (.ofTexts v.aliases)) ∧
      v.toJson.field? "description" = v.description?.map .text := by
  obtain ⟨version, name, aliases, isDefault, description?⟩ := v
  cases aliases <;> cases description? <;> exact ⟨rfl, rfl⟩

theorem VersionReport.readsAs (v : VersionReport) :
    ReadsAs (VersionReport.reader Json.format) v.toJson v := by
  obtain ⟨version, name, aliases, isDefault, description?⟩ := v
  refine ReadsAs.record ?apart ?nodup ?missing ?fields
  case apart =>
    simp only [List.pairwise_cons, List.forall_mem_cons, List.not_mem_nil, false_imp_iff,
      implies_true, List.Pairwise.nil, and_true]
    and_intros <;> exact apart_of_put fun _ _ _ => rfl
  case nodup => cases aliases <;> cases description? <;> simp
  case missing => cases aliases <;> cases description? <;> rfl
  case fields =>
    refine .cons rfl (.text _) <| .cons rfl (.text _) ?_
    -- a field that is left out stays as it was at the start
    cases aliases <;> cases description?
    · exact .cons rfl (.boolean _) .nil
    · exact .cons rfl (.boolean _) <| .cons rfl (.textOrNull (some _)) .nil
    · exact .cons rfl (.texts _) <| .cons rfl (.boolean _) .nil
    · exact .cons rfl (.texts _) <| .cons rfl (.boolean _) <|
        .cons rfl (.textOrNull (some _)) .nil

theorem LanguageReport.readsAs (l : LanguageReport) :
    ReadsAs LanguageReport.ofJson l.toJson l := by
  refine ReadsAs.record ?_ (by simp) rfl ?_
  · simp only [List.pairwise_cons, List.forall_mem_cons, List.not_mem_nil, false_imp_iff,
      implies_true, List.Pairwise.nil, and_true]
    and_intros <;> exact apart_of_put fun _ _ _ => rfl
  · exact .cons rfl (.text _) <| .cons rfl (.text _) <| .cons rfl (.text _) <|
      .cons rfl (.texts _) <| .cons rfl (.text _) <| .cons rfl (.text _) <|
      .cons rfl (.list fun v _ => v.readsAs) .nil

theorem LanguageReport.list_readsAs (ls : List LanguageReport) :
    ReadsAs LanguageReport.listOfJson (LanguageReport.listToJson ls) ls :=
  .list fun l _ => l.readsAs

theorem DetectionSummary.readsAs (s : DetectionSummary) :
    ReadsAs DetectionSummary.ofJson s.toJson s := by
  refine ReadsAs.record ?_ (by simp) rfl ?_
  · simp only [List.pairwise_cons, List.forall_mem_cons, List.not_mem_nil, false_imp_iff,
      implies_true, List.Pairwise.nil, and_true]
    and_intros <;> exact apart_of_put fun _ _ _ => rfl
  · exact .cons rfl (.ofNat _) <| .cons rfl (.map s.ascending fun _ _ => .ofNat _) <|
      .cons rfl (.ofNat _) .nil

/-! ## All forms -/

/-- Every catalog, every list of reports and every summary is read again as it was
written, and also when the fields of its objects were put in another order before, such
as the ascending one. This goes for the page on all languages of a registry. In a report on a
version empty aliases and a description that is not there are left out. -/
theorem toJson_decodes :
    (∀ c : Catalog, Catalog.ofJson c.toJson = .ok c ∧ ReadsAs Catalog.ofJson c.toJson c) ∧
    (∀ ls : List LanguageReport,
      LanguageReport.listOfJson (LanguageReport.listToJson ls) = .ok ls ∧
        ReadsAs LanguageReport.listOfJson (LanguageReport.listToJson ls) ls) ∧
    (∀ (r : Registry VersionNote) (color : Bool), ∃ v,
      Page.languages .json color r = Page.jsonPage v ∧
        ReadsAs LanguageReport.listOfJson v (LanguageReport.ofRegistry r)) ∧
    (∀ v : VersionReport,
      v.toJson.field? "aliases" = (if v.aliases = [] then none else some (.ofTexts v.aliases)) ∧
        v.toJson.field? "description" = v.description?.map .text) ∧
    (∀ s : DetectionSummary,
      DetectionSummary.ofJson s.toJson = .ok s ∧ ReadsAs DetectionSummary.ofJson s.toJson s) ∧
    Arranges putFields := by
  refine ⟨fun c => ⟨c.readsAs.as_written, c.readsAs⟩, fun ls => ?_, fun r color => ?_,
    VersionReport.field?_toJson, fun s => ⟨s.readsAs.as_written, s.readsAs⟩, arranges_putFields⟩
  · have hlist := LanguageReport.list_readsAs ls
    exact ⟨hlist.as_written, hlist⟩
  · exact ⟨_, rfl, LanguageReport.list_readsAs _⟩

end Polyglot
