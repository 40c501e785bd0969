import TransitLoad.Proofs.Reports
import TransitLoad.Proofs.Statistics

/-!
# What a collector holds

A collector holds the latencies of every kind in the order of recording, and recording one
kind leaves the others alone.  Its report has a label for every kind that something was
recorded of, and no others, with a summary of the latencies of this kind.
-/

namespace TransitLoad

/-- The first entry of a list of entries counts. -/
theorem lookup_cons_eq_ite
    [DecidableEq κ]
    (key other : κ)
    (value : α)
    (entries : List (κ × α)) :
    ((key, value) :: entries).lookup other =
      if other = key then some value else entries.lookup other := by
  rw [List.lookup_cons]
  split_ifs with same
  · rw [beq_iff_eq.mpr same]
  · rw [beq_eq_false_iff_ne.mpr same]

namespace Collector

/-! ## Samples -/

theorem lookup_shelve
    (kind other : ResourceKind)
    (latency : Duration)
    (shelves : List (ResourceKind × Array Duration)) :
    (shelve kind latency shelves).lookup other =
      if other = kind then some (((shelves.lookup kind).getD #[]).push latency)
      else shelves.lookup other := by
  induction shelves with
  | nil => exact lookup_cons_eq_ite kind other #[latency] []
  | cons shelf shelves hypothesis =>
      obtain ⟨first, samples⟩ := shelf
      rw [shelve]
      by_cases here : first = kind
      · subst here
        simp only [if_true, lookup_cons_eq_ite]
        split_ifs <;> rfl
      · simp only [if_neg here, lookup_cons_eq_ite, hypothesis, if_neg (Ne.symm here)]
        by_cases same : other = kind
        · rw [if_neg (same ▸ Ne.symm here), if_pos same, if_pos same]
        · rw [if_neg same, if_neg same]

theorem samples_record_self
    (collector : Collector)
    (kind : ResourceKind)
    (latency : Duration) :
    (collector.record kind latency).samples kind = collector.samples kind ++ [latency] := by
  simp only [samples, record, lookup_shelve, if_true]
  cases collector.shelves.lookup kind <;> simp

theorem samples_record_of_ne
    {other kind : ResourceKind}
    (elsewhere : other ≠ kind)
    (collector : Collector)
    (latency : Duration) :
    (collector.record kind latency).samples other = collector.samples other := by
  simp only [samples, record, lookup_shelve, if_neg elsewhere]

/-! ## Shelves -/

/-- Every kind has one shelf at most, and no shelf is empty. -/
structure IsTidy (collector : Collector) : Prop where
  kinds : (collector.shelves.map Prod.fst).Nodup
  filled : ∀ shelf ∈ collector.shelves, shelf.2.toList ≠ []

theorem isTidy_empty : empty.IsTidy := ⟨List.nodup_nil, nofun⟩

theorem kinds_shelve
    (kind : ResourceKind)
    (latency : Duration)
    (shelves : List (ResourceKind × Array Duration)) :
    (shelve kind latency shelves).map Prod.fst =
      if kind ∈ shelves.map Prod.fst then shelves.map Prod.fst
      else shelves.map Prod.fst ++ [kind] := by
  induction shelves with
  | nil => rfl
  | cons shelf shelves hypothesis =>
      obtain ⟨first, samples⟩ := shelf
      rw [shelve]
      by_cases here : first = kind
      · simp [here]
      · rw [if_neg here, List.map_cons, hypothesis]
        by_cases later : kind ∈ shelves.map Prod.fst <;> simp [later, Ne.symm here]

theorem filled_shelve
    {shelves : List (ResourceKind × Array Duration)}
    (filled : ∀ shelf ∈ shelves, shelf.2.toList ≠ [])
    (kind : ResourceKind)
    (latency : Duration) :
    ∀ shelf ∈ shelve kind latency shelves, shelf.2.toList ≠ [] := by
  induction shelves with
  | nil => simp [shelve]
  | cons shelf shelves hypothesis =>
      obtain ⟨first, others⟩ := List.forall_mem_cons.mp filled
      rw [shelve]
      split_ifs
      · exact List.forall_mem_cons.mpr ⟨by simp, others⟩
      · exact List.forall_mem_cons.mpr ⟨first, hypothesis others⟩

theorem IsTidy.record
    {collector : Collector}
    (tidy : collector.IsTidy)
    (kind : ResourceKind)
    (latency : Duration) :
    (collector.record kind latency).IsTidy where
  kinds := by
    rw [Collector.record, kinds_shelve]
    split_ifs with known
    · exact tidy.kinds
    · exact tidy.kinds.append (List.nodup_singleton kind) (by simpa using known)
  filled := filled_shelve tidy.filled kind latency

theorem IsTidy.recordFailure
    {collector : Collector}
    (tidy : collector.IsTidy) :
    collector.recordFailure.IsTidy :=
  ⟨tidy.kinds, tidy.filled⟩

theorem samples_eq_nil_iff
    {collector : Collector}
    (tidy : collector.IsTidy)
    (kind : ResourceKind) :
    collector.samples kind = [] ↔ collector.shelves.lookup kind = none := by
  rw [samples]
  cases found : collector.shelves.lookup kind with
  | none => simp
  | some latencies =>
      obtain ⟨before, after, parts, _⟩ := List.lookup_eq_some_iff.mp found
      have filled := tidy.filled (kind, latencies) (by simp [parts])
      simpa using filled

end Collector

/-! ## Labels -/

theorem ResourceKind.name_injective : Function.Injective ResourceKind.name := by
  intro kind other
  cases kind <;> cases other <;> decide

namespace StatsReport

theorem lookup_insertLabel
    (label other : String)
    (summary : Latency.Summary)
    (labels : List (String × Latency.Summary)) :
    (insertLabel label summary labels).lookup other =
      if other = label then some summary else labels.lookup other := by
  induction labels with
  | nil => exact lookup_cons_eq_ite label other summary []
  | cons entry labels hypothesis =>
      obtain ⟨first, firstSummary⟩ := entry
      rw [insertLabel]
      by_cases before : label < first
      · rw [if_pos before, lookup_cons_eq_ite]
      · rw [if_neg before]
        by_cases here : label = first
        · subst here
          simp only [if_true, lookup_cons_eq_ite]
          split_ifs <;> rfl
        · simp only [if_neg here, lookup_cons_eq_ite, hypothesis]
          by_cases same : other = label
          · rw [if_neg (same ▸ here), if_pos same, if_pos same]
          · rw [if_neg same, if_neg same]

theorem mem_insertLabel
    {labels : List (String × Latency.Summary)}
    (present : entry ∈ insertLabel label summary labels) :
    entry = (label, summary) ∨ entry ∈ labels := by
  induction labels with
  | nil => exact .inl (List.mem_singleton.mp present)
  | cons first labels hypothesis =>
      simp only [insertLabel] at present
      split_ifs at present with before here
      · exact List.mem_cons.mp present
      · exact (List.mem_cons.mp present).imp_right (List.mem_cons_of_mem _)
      · rcases List.mem_cons.mp present with same | later
        · exact .inr (same ▸ List.mem_cons_self)
        · exact (hypothesis later).imp_right (List.mem_cons_of_mem _)

/-- Labels stay in their order, every label at most once. -/
theorem ascending_insertLabel
    {labels : List (String × Latency.Summary)}
    (ascending : labels.Pairwise fun earlier later => earlier.1 < later.1)
    (label : String)
    (summary : Latency.Summary) :
    (insertLabel label summary labels).Pairwise fun earlier later => earlier.1 < later.1 := by
  induction labels with
  | nil => exact List.pairwise_singleton ..
  | cons first labels hypothesis =>
      obtain ⟨leading, others⟩ := List.pairwise_cons.mp ascending
      simp only [insertLabel]
      split_ifs with before here
      · refine List.pairwise_cons.mpr ⟨List.forall_mem_cons.mpr ⟨before, ?_⟩, ascending⟩
        exact fun later present => String.lt_trans before (leading later present)
      · subst here
        exact List.pairwise_cons.mpr ⟨leading, others⟩
      · refine List.pairwise_cons.mpr ⟨fun later present => ?_, hypothesis others⟩
        rcases mem_insertLabel present with rfl | present
        · exact Std.lt_of_le_of_ne (Std.not_lt.mp before) (Ne.symm here)
        · exact leading later present

/-! ## Reports on a collector -/

/-- A report has a label for every kind that there are latencies of and no others, with the
summary of these latencies, and it has the number of failures. -/
structure Tells
    (report : StatsReport)
    (latencies : ResourceKind → List Duration)
    (failures : UInt64) : Prop where
  labelled : ∀ kind, (report.label? kind).isSome ↔ latencies kind ≠ []
  summary : ∀ kind summary,
    report.label? kind = some summary → summary = .ofSamples (latencies kind)
  count : ∀ kind summary,
    report.label? kind = some summary → summary.count = (latencies kind).length
  samples : ∀ kind summary,
    report.label? kind = some summary →
      summary.samples = (latencies kind).map Duration.toMilliseconds
  kindsOnly : ∀ entry ∈ report.labels, ∃ kind : ResourceKind, entry.1 = kind.name
  ascending : report.labels.Pairwise fun earlier later => earlier.1 < later.1
  failures : report.failures = failures

theorem label?_foldl_insert
    {shelves : List (ResourceKind × Array Duration)}
    (kinds : (shelves.map Prod.fst).Nodup)
    (report : StatsReport)
    (kind : ResourceKind) :
    (shelves.foldl
        (fun report (kind, samples) => report.insert kind.name (.ofSamples samples.toList))
        report).label? kind =
      match shelves.lookup kind with
      | some latencies => some (.ofSamples latencies.toList)
      | none => report.label? kind := by
  induction shelves generalizing report with
  | nil => rfl
  | cons shelf shelves hypothesis =>
      obtain ⟨first, latencies⟩ := shelf
      obtain ⟨once, others⟩ := List.nodup_cons.mp kinds
      rw [List.foldl_cons, hypothesis others, lookup_cons_eq_ite]
      have inserted : (report.insert first.name (.ofSamples latencies.toList)).label? kind =
          if kind = first then some (.ofSamples latencies.toList) else report.label? kind := by
        rw [label?, insert, lookup_insertLabel]
        simp only [ResourceKind.name_injective.eq_iff]
        rfl
      rw [inserted]
      split_ifs with same
      · have absent : shelves.lookup kind = none := by
          rw [List.lookup_eq_none_iff]
          intro shelf present
          exact bne_iff_ne.mpr fun equal => once
            (List.mem_map.mpr ⟨shelf, present, equal.symm.trans same⟩)
        rw [absent]
      · rfl

end StatsReport

namespace Collector

theorem IsTidy.label?_report
    {collector : Collector}
    (tidy : collector.IsTidy)
    (kind : ResourceKind) :
    collector.report.label? kind =
      if collector.samples kind = [] then none else some (.ofSamples (collector.samples kind)) := by
  rw [report, StatsReport.label?_foldl_insert tidy.kinds]
  by_cases nothing : collector.samples kind = []
  · rw [if_pos nothing, (samples_eq_nil_iff tidy kind).mp nothing]
    rfl
  · rw [if_neg nothing]
    cases found : collector.shelves.lookup kind with
    | none => exact absurd ((samples_eq_nil_iff tidy kind).mpr found) nothing
    | some latencies => simp only [samples, found]

/-- The report on a tidy collector tells what is in it. -/
theorem IsTidy.tells_report
    {collector : Collector}
    (tidy : collector.IsTidy) :
    collector.report.Tells collector.samples collector.failures := by
  have summarised : ∀ kind summary,
      collector.report.label? kind = some summary →
        summary = .ofSamples (collector.samples kind) := by
    intro kind summary found
    rw [tidy.label?_report] at found
    split_ifs at found
    exact (Option.some.inj found).symm
  exact {
    labelled := fun kind => by
      rw [tidy.label?_report]
      split_ifs with nothing <;> simp [nothing]
    summary := summarised
    count := fun kind summary found => by
      rw [summarised kind summary found, Latency.Summary.count_ofSamples]
    samples := fun kind summary found => by
      rw [summarised kind summary found]
      rfl
    kindsOnly := by
      rw [report]
      refine List.foldlRecOn (motive := fun report : StatsReport => ∀ entry ∈ report.labels,
        ∃ kind : ResourceKind, entry.1 = kind.name) _ _ ?_ ?_
      · exact List.forall_mem_nil _
      · rintro report known ⟨kind, latencies⟩ _ entry present
        rcases StatsReport.mem_insertLabel present with rfl | earlier
        · exact ⟨kind, rfl⟩
        · exact known entry earlier
    ascending := by
      rw [report]
      refine List.foldlRecOn (motive := fun report : StatsReport => report.labels.Pairwise
        fun earlier later => earlier.1 < later.1) _ _ ?_ ?_
      · exact List.Pairwise.nil
      · rintro report ascending ⟨kind, latencies⟩ _
        exact StatsReport.ascending_insertLabel ascending ..
    failures := failures_report collector }

end Collector
end TransitLoad
