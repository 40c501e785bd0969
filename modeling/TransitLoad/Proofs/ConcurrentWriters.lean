import Mathlib.Data.List.Flatten
import TransitLoad.Proofs.Collectors

/-!
# Collectors with concurrent writers

Any number of writers update one collector, each with updates of its own in a fixed order,
while others read it.  Every update and every read takes place at one moment, in any order
that keeps the order of each writer.  A report holds recording back until it has read the
number of failures, so that it is made at one moment as well.

Nothing that was written is lost: what a read gives is always what the updates before it
left behind.
-/

namespace TransitLoad

/-! ## Merges -/

/-- The merges of some lists: one list with everything in them, in which each keeps its
order. -/
inductive Merges : List (List α) → List α → Prop
  | done
      (finished : ∀ list ∈ lists, list = []) :
      Merges lists []
  | next
      (others : Merges (before ++ rest :: after) merged) :
      Merges (before ++ (first :: rest) :: after) (first :: merged)

namespace Merges

/-- Of a merge only some elements may be kept. -/
theorem filterMap
    {lists : List (List α)}
    (merges : Merges lists merged)
    (choose : α → Option β) :
    Merges (lists.map (List.filterMap choose)) (merged.filterMap choose) := by
  induction merges with
  | done finished =>
      apply done
      intro list present
      obtain ⟨whole, known, rfl⟩ := List.mem_map.mp present
      rw [finished whole known, List.filterMap_nil]
  | @next before rest after merged first others hypothesis =>
      rw [List.map_append, List.map_cons] at hypothesis ⊢
      cases chosen : choose first with
      | none => rwa [List.filterMap_cons_none chosen, List.filterMap_cons_none chosen]
      | some element =>
          rw [List.filterMap_cons_some chosen, List.filterMap_cons_some chosen]
          exact next hypothesis

/-- A merge has all elements of the lists, and no others. -/
theorem perm_flatten
    {lists : List (List α)}
    (merges : Merges lists merged) :
    merged.Perm lists.flatten := by
  induction merges with
  | done finished => rw [List.flatten_eq_nil_iff.mpr finished]
  | @next before rest after merged first others hypothesis =>
      rw [List.flatten_append, List.flatten_cons] at hypothesis ⊢
      exact (hypothesis.cons first).trans List.perm_middle.symm

/-- In a merge each list keeps its order. -/
theorem sublist
    {lists : List (List α)}
    (merges : Merges lists merged)
    (present : list ∈ lists) :
    list.Sublist merged := by
  induction merges generalizing list with
  | done finished => rw [finished list present]
  | @next before rest after merged first others hypothesis =>
      simp only [List.mem_append, List.mem_cons] at present hypothesis
      rcases present with earlier | rfl | later
      · exact (hypothesis (.inl earlier)).cons first
      · exact (hypothesis (.inr (.inl rfl))).cons_cons first
      · exact (hypothesis (.inr (.inr later))).cons first

end Merges

namespace Collector

/-! ## Updates -/

/-- What writers do to a collector. -/
inductive Update where
  | record (kind : ResourceKind) (latency : Duration)
  | failure
  deriving DecidableEq

namespace Update

/-- The latency that an update records for a kind. -/
def latency? (kind : ResourceKind) : Update → Option Duration
  | .record other latency => if other = kind then some latency else none
  | .failure => none

end Update

/-- The latencies that some updates record for a kind. -/
def latencies (kind : ResourceKind) (updates : List Update) : List Duration :=
  updates.filterMap (Update.latency? kind)

/-- Make an update. -/
def apply (collector : Collector) : Update → Collector
  | .record kind latency => collector.record kind latency
  | .failure => collector.recordFailure

theorem samples_apply
    (collector : Collector)
    (update : Update)
    (kind : ResourceKind) :
    (collector.apply update).samples kind =
      collector.samples kind ++ (update.latency? kind).toList := by
  cases update with
  | record other latency =>
      by_cases same : other = kind
      · subst same
        simp [apply, Update.latency?, samples_record_self]
      · simp [apply, Update.latency?, same, samples_record_of_ne (Ne.symm same)]
  | failure => exact (List.append_nil _).symm

theorem failures_apply
    (collector : Collector)
    (update : Update) :
    (collector.apply update).failures =
      collector.failures + UInt64.ofNat ([update].count .failure) := by
  cases update with
  | record kind latency => simp [apply, record]
  | failure => rfl

theorem IsTidy.apply
    {collector : Collector}
    (tidy : collector.IsTidy)
    (update : Update) :
    (collector.apply update).IsTidy := by
  cases update with
  | record kind latency => exact tidy.record kind latency
  | failure => exact tidy.recordFailure

/-- Every kind keeps what was recorded of it, in order. -/
theorem samples_foldl_apply
    (updates : List Update)
    (collector : Collector)
    (kind : ResourceKind) :
    (updates.foldl apply collector).samples kind =
      collector.samples kind ++ latencies kind updates := by
  induction updates generalizing collector with
  | nil => exact (List.append_nil _).symm
  | cons update updates hypothesis =>
      rw [List.foldl_cons, hypothesis, samples_apply, List.append_assoc, latencies, latencies]
      cases chosen : update.latency? kind with
      | none => simp [List.filterMap_cons_none chosen]
      | some latency => simp [List.filterMap_cons_some chosen]

/-- Failures are counted, to a number of 64 bits. -/
theorem failures_foldl_apply
    (updates : List Update)
    (collector : Collector) :
    (updates.foldl apply collector).failures =
      collector.failures + UInt64.ofNat (updates.count .failure) := by
  induction updates generalizing collector with
  | nil => simp
  | cons update updates hypothesis =>
      have parts : ([update] ++ updates).count .failure =
          [update].count .failure + updates.count .failure := List.count_append
      rw [List.singleton_append] at parts
      rw [List.foldl_cons, hypothesis, failures_apply, parts, UInt64.ofNat_add, UInt64.add_assoc]

theorem isTidy_foldl_apply
    {collector : Collector}
    (tidy : collector.IsTidy)
    (updates : List Update) :
    (updates.foldl apply collector).IsTidy := by
  induction updates generalizing collector with
  | nil => exact tidy
  | cons update updates hypothesis => exact hypothesis (tidy.apply update)

/-! ## Reads -/

/-- What readers ask a collector. -/
inductive Question where
  | samples (kind : ResourceKind)
  | failures
  | report
  deriving DecidableEq

/-- What readers get. -/
inductive Answer where
  | samples (latencies : List Duration)
  | failures (number : UInt64)
  | report (result : Except Latency.HistogramError StatsReport)

/-- The answer of a collector. -/
def answer (collector : Collector) : Question → Answer
  | .samples kind => .samples (collector.samples kind)
  | .failures => .failures collector.failures
  | .report => .report (collector.report? .latencies)

/-! ## Courses -/

/-- What happens to a collector: an update of a writer, or a read with its answer. -/
inductive Access where
  | write (update : Update)
  | read (question : Question) (answer : Answer)

/-- The update that a collector is accessed for. -/
def Access.update? : Access → Option Update
  | .write update => some update
  | .read _ _ => none

/-- The updates among some accesses. -/
def updates (accesses : List Access) : List Update := accesses.filterMap Access.update?

@[simp] theorem updates_write
    (update : Update)
    (accesses : List Access) :
    updates (.write update :: accesses) = update :: updates accesses := rfl

@[simp] theorem updates_read
    (question : Question)
    (answer : Answer)
    (accesses : List Access) :
    updates (.read question answer :: accesses) = updates accesses := rfl

/-- A collector, and for each of its writers the updates that are still to come. -/
structure Traffic where
  collector : Collector
  pending : List (List Update)

namespace Traffic

/-- One access.  Any writer may be next, and anything may be read at any moment. -/
inductive Step : Traffic → Access → Traffic → Prop
  | write
      (collector : Collector)
      (before after : List (List Update))
      (update : Update)
      (rest : List Update) :
      Step ⟨collector, before ++ (update :: rest) :: after⟩ (.write update)
        ⟨collector.apply update, before ++ rest :: after⟩
  | read
      (traffic : Traffic)
      (question : Question) :
      Step traffic (.read question (traffic.collector.answer question)) traffic

/-- Some accesses, one after another. -/
inductive Course : Traffic → List Access → Traffic → Prop
  | done (traffic : Traffic) : Course traffic [] traffic
  | next
      (step : Step traffic access between)
      (others : Course between accesses final) :
      Course traffic (access :: accesses) final

/-- All writers are done. -/
def IsOver (traffic : Traffic) : Prop := ∀ updates ∈ traffic.pending, updates = []

/-- The collector is what the updates have made of it, in their order. -/
theorem Course.collector_eq
    {traffic final : Traffic}
    (course : Course traffic accesses final) :
    final.collector = (updates accesses).foldl apply traffic.collector := by
  induction course with
  | done => rfl
  | next step others hypothesis =>
      rw [hypothesis]
      cases step with
      | write => rw [updates_write, List.foldl_cons]
      | read => rw [updates_read]

/-- When all writers are done, the updates are a merge of theirs. -/
theorem Course.merges
    {traffic final : Traffic}
    (course : Course traffic accesses final)
    (concluded : final.IsOver) :
    Merges traffic.pending (updates accesses) := by
  induction course with
  | done => exact .done concluded
  | next step others hypothesis =>
      cases step with
      | write => exact .next (hypothesis concluded)
      | read => exact hypothesis concluded

/-- A read gives what the collector answers after the updates before it. -/
theorem Course.answer_eq
    {traffic final : Traffic}
    {given : Answer}
    (course : Course traffic accesses final)
    (here : accesses[place]? = some (.read question given)) :
    given = ((updates (accesses.take place)).foldl apply traffic.collector).answer question := by
  induction course generalizing place with
  | done => simp at here
  | @next traffic access between accesses final step others hypothesis =>
      cases place with
      | zero =>
          cases Option.some.inj here
          cases step with
          | read => rfl
      | succ place =>
          rw [hypothesis here, List.take_succ_cons]
          cases step with
          | write => rw [updates_write, List.foldl_cons]
          | read => rw [updates_read]

end Traffic

/-- Writers may take turns in any way. -/
theorem exists_course_of_merges
    {writers : List (List Update)}
    (merges : Merges writers merged)
    (collector : Collector) :
    ∃ accesses final,
      Traffic.Course ⟨collector, writers⟩ accesses final ∧ final.IsOver ∧
        updates accesses = merged := by
  induction merges generalizing collector with
  | done finished => exact ⟨[], _, .done _, finished, rfl⟩
  | @next before rest after merged update others hypothesis =>
      obtain ⟨accesses, final, course, concluded, same⟩ := hypothesis (collector.apply update)
      exact ⟨.write update :: accesses, final, .next (.write ..) course, concluded, by simp [same]⟩

/-! ## What is in a collector -/

theorem samples_written
    (updates : List Update)
    (kind : ResourceKind) :
    (updates.foldl apply .empty).samples kind = latencies kind updates := by
  rw [samples_foldl_apply]
  exact List.nil_append _

theorem failures_written
    (updates : List Update) :
    (updates.foldl apply .empty).failures = UInt64.ofNat (updates.count .failure) := by
  rw [failures_foldl_apply]
  exact UInt64.zero_add _

/-- The report after some updates tells of all of them. -/
theorem tells_report_written (updates : List Update) :
    (updates.foldl apply .empty).report.Tells
      (fun kind => latencies kind updates)
      (.ofNat (updates.count .failure)) := by
  have tells := (isTidy_foldl_apply isTidy_empty updates).tells_report
  rw [failures_written, funext (samples_written updates)] at tells
  exact tells

/-- What becomes of the updates of concurrent writers in the course of some accesses. -/
structure LosesNothing
    (writers : List (List Update))
    (accesses : List Access)
    (final : Traffic) : Prop where
  /-- A snapshot has the records of its kind so far, in order. -/
  snapshots : ∀ (place : Nat) kind answer,
    accesses[place]? = some (.read (.samples kind) answer) →
      answer = .samples (latencies kind (updates (accesses.take place)))
  /-- Snapshots only grow. -/
  prefixes : ∀ (earlier later : Nat) kind before after,
    earlier ≤ later →
    accesses[earlier]? = some (.read (.samples kind) (.samples before)) →
    accesses[later]? = some (.read (.samples kind) (.samples after)) →
      before <+: after
  /-- The number of failures is that of the failures so far; records do not matter. -/
  failures : ∀ (place : Nat) answer,
    accesses[place]? = some (.read .failures answer) →
      answer = .failures (.ofNat ((updates (accesses.take place)).count .failure))
  /-- A report is made, and it tells of all updates so far. -/
  reports : ∀ (place : Nat) answer,
    accesses[place]? = some (.read .report answer) →
      ∃ report : StatsReport,
        answer = .report (.ok report) ∧
        report.Tells
          (fun kind => latencies kind (updates (accesses.take place)))
          (.ofNat ((updates (accesses.take place)).count .failure))
  /-- At the end the samples of a kind are a merge of what the writers recorded of it. -/
  merges : final.IsOver → ∀ kind,
    Merges (writers.map (latencies kind)) (final.collector.samples kind)
  /-- The samples are what all writers recorded, each as often as it was recorded. -/
  complete : final.IsOver → ∀ kind,
    (final.collector.samples kind).Perm (latencies kind writers.flatten)
  /-- The samples have the records of each writer in its order. -/
  ordered : final.IsOver → ∀ kind, ∀ writer ∈ writers,
    (latencies kind writer).Sublist (final.collector.samples kind)
  /-- At the end all failures are counted. -/
  allFailures : final.IsOver →
    final.collector.failures = .ofNat (writers.flatten.count .failure)

/-- Concurrent writers lose nothing, however their updates and the reads of others come
between each other. -/
theorem concurrent_writers_lose_nothing
    {writers : List (List Update)}
    (course : Traffic.Course ⟨.empty, writers⟩ accesses final) :
    LosesNothing writers accesses final where
  snapshots place kind answer here := by
    rw [course.answer_eq here, Collector.answer, samples_written]
  prefixes earlier later kind before after order first second := by
    have beforeEq := course.answer_eq first
    have afterEq := course.answer_eq second
    simp only [Collector.answer, samples_written, Answer.samples.injEq] at beforeEq afterEq
    rw [beforeEq, afterEq]
    exact ((List.take_prefix_take_left order).filterMap _).filterMap _
  failures place answer here := by
    rw [course.answer_eq here, Collector.answer, failures_written]
  reports place answer here := by
    rw [course.answer_eq here, Collector.answer, Collector.report?_latencies]
    exact ⟨_, rfl, tells_report_written _⟩
  merges concluded kind := by
    rw [course.collector_eq, samples_written]
    exact (course.merges concluded).filterMap _
  complete concluded kind := by
    rw [course.collector_eq, samples_written]
    exact (course.merges concluded).perm_flatten.filterMap _
  ordered concluded kind writer known := by
    rw [course.collector_eq, samples_written]
    exact ((course.merges concluded).sublist known).filterMap _
  allFailures concluded := by
    rw [course.collector_eq, failures_written, (course.merges concluded).perm_flatten.count_eq]

/-- Two writers of stops, one of which fails once and the other fetches a route as well. -/
def twoWriters : List (List Update) :=
  [[.record .stop (.ofMilliseconds 30), .failure],
    [.record .stop (.ofMilliseconds 10), .record .route (.ofMilliseconds 5)]]

/-- The failed request comes between those of the other writer, and there is a read after
every update but the last. -/
def twoWritersAccesses : List Access :=
  let first := empty.record .stop (.ofMilliseconds 30)
  let second := first.record .stop (.ofMilliseconds 10)
  [.write (.record .stop (.ofMilliseconds 30)),
    .read (.samples .stop) (first.answer (.samples .stop)),
    .write (.record .stop (.ofMilliseconds 10)),
    .read (.samples .stop) (second.answer (.samples .stop)),
    .write .failure,
    .read .failures (second.recordFailure.answer .failures),
    .read .report (second.recordFailure.answer .report),
    .write (.record .route (.ofMilliseconds 5))]

theorem concurrent_writers_lose_nothing_twoWriters :
    ∃ final,
      Traffic.Course ⟨.empty, twoWriters⟩ twoWritersAccesses final ∧
      LosesNothing twoWriters twoWritersAccesses final ∧
      final.IsOver ∧
      final.collector.samples .stop = [.ofMilliseconds 30, .ofMilliseconds 10] := by
  have course : Traffic.Course ⟨.empty, twoWriters⟩ twoWritersAccesses
      ⟨(updates twoWritersAccesses).foldl apply .empty, [[], []]⟩ :=
    .next (.write _ [] _ _ _) <|
    .next (.read _ _) <|
    .next (.write _ [_] [] _ _) <|
    .next (.read _ _) <|
    .next (.write _ [] _ _ _) <|
    .next (.read _ _) <|
    .next (.read _ _) <|
    .next (.write _ [_] [] _ _) <|
    .done _
  exact ⟨_, course, concurrent_writers_lose_nothing course, by simp [Traffic.IsOver], by decide⟩

end Collector
end TransitLoad
