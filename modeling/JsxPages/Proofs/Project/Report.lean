import JsxPages.Project.Build
import Mathlib.Data.List.Pairwise
/-!
# What a build reports

Each page is reported once: in the manifest if it was built (`builtPages_map`), else among the
failures (`failedPages_map`). The manifest is in the order of the routes, pages with one route in
their own (`pairwise_sortByRoute`, `filter_sortByRoute`).
-/

namespace JsxPages.Project

/-! ### Built and failed pages -/

/-- What the manifest says of a page. -/
def Source.entry (source : Source) : Entry :=
  { route := source.route
    component := source.component
    module := "src/pages/" ++ source.component ++ ".jsx"
    source := source.shownPlace }

theorem builtPages_map {outcome : Source → Except BuildError Built} (sources : List Source)
    (entries : ∀ source built, outcome source = .ok built → built.entry = source.entry) :
    (builtPages (sources.map fun source => (source, outcome source))).map (·.entry) =
      (sources.filter fun source => (outcome source).isOk).map Source.entry := by
  induction sources with
  | nil => rfl
  | cons source sources ih =>
    rw [builtPages] at ih ⊢
    cases ended : outcome source with
    | error error => simpa [ended, Except.toOption, Except.isOk, Except.toBool] using ih
    | ok built =>
      have entry := entries source built ended
      simpa [ended, Except.toOption, Except.isOk, Except.toBool, entry] using ih

theorem failedPages_map (outcome : Source → Except BuildError Built) (sources : List Source) :
    (failedPages (sources.map fun source => (source, outcome source))).map (·.1) =
      (sources.filter fun source => !(outcome source).isOk).map (·.path) := by
  induction sources with
  | nil => rfl
  | cons source sources ih =>
    rw [failedPages] at ih ⊢
    cases ended : outcome source with
    | error error => simpa [ended, Except.isOk, Except.toBool] using ih
    | ok built => simpa [ended, Except.isOk, Except.toBool] using ih

/-! ### Sorting by routes -/

theorem notAfter_trans (first second third : Entry)
    (le : (!decide (second.route < first.route)) = true)
    (le' : (!decide (third.route < second.route)) = true) :
    (!decide (third.route < first.route)) = true := by
  simp only [Bool.not_eq_true', decide_eq_false_iff_not, String.not_lt] at le le' ⊢
  exact String.le_trans le le'

theorem notAfter_total (first second : Entry) :
    (!decide (second.route < first.route) || !decide (first.route < second.route)) = true := by
  simp only [Bool.or_eq_true, Bool.not_eq_true', decide_eq_false_iff_not, String.not_lt]
  exact String.le_total first.route second.route

theorem pairwise_sortByRoute (entries : List Entry) :
    (sortByRoute entries).Pairwise fun first second => ¬ second.route < first.route := by
  have sorted := List.pairwise_mergeSort notAfter_trans notAfter_total entries
  exact sorted.imp fun {first second} le => by simpa using le

theorem sortByRoute_of_pairwise {entries : List Entry}
    (sorted : entries.Pairwise fun first second => (!decide (second.route < first.route)) = true) :
    sortByRoute entries = entries :=
  List.mergeSort_of_pairwise sorted

/-- A report whose entries are in order already. -/
theorem Report.of_eq {outcomes : List (Source × Except BuildError Built)} {report : Report}
    (entries : (builtPages outcomes).map (·.entry) = report.entries)
    (sorted : report.entries.Pairwise fun first second =>
      (!decide (second.route < first.route)) = true)
    (others : { Report.of outcomes with entries := report.entries } = report) :
    Report.of outcomes = report := by
  have same : (Report.of outcomes).entries = report.entries := by
    rw [Report.of, entries, sortByRoute_of_pairwise sorted]
  rw [← others, ← same]

/-- Pages with one route keep their order. -/
theorem filter_sortByRoute (entries : List Entry) (route : String) :
    (sortByRoute entries).filter (·.route = route) = entries.filter (·.route = route) := by
  have sameRoute : (entries.filter (·.route = route)).Pairwise
      fun first second => (!decide (second.route < first.route)) = true := by
    refine List.pairwise_of_forall_mem_list fun first isFirst second isSecond => ?_
    have one : first.route = route := by simpa using (List.mem_filter.1 isFirst).2
    have two : second.route = route := by simpa using (List.mem_filter.1 isSecond).2
    rw [one, two, decide_eq_false (String.lt_irrefl route), Bool.not_false]
  have kept := (List.sublist_mergeSort notAfter_trans notAfter_total sameRoute
    List.filter_sublist).filter (·.route = route)
  rw [List.filter_filter] at kept
  have lengths : ((sortByRoute entries).filter (·.route = route)).length =
      (entries.filter (·.route = route)).length :=
    ((List.mergeSort_perm entries _).filter _).length_eq
  simp only [Bool.and_self] at kept
  exact (kept.eq_of_length lengths.symm).symm

end JsxPages.Project
