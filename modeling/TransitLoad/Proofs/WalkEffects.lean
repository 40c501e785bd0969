import TransitLoad.Proofs.Collectors
import TransitLoad.Proofs.StopConservation
import TransitLoad.Proofs.WalkSafety

/-!
# The effect of a walk

A walk chooses a system, then a route, then a stop, and it may end before it comes to all of
these, but never skips one.  Until it chooses a stop it leaves nothing in the statistics.
From then on it leaves one sample of a stop, after all earlier ones, if it is completed, and
one failure if it is aborted.
-/

namespace TransitLoad

open Activity

/-! ## The kinds of the choices -/

/-- The kinds of the choices that are ahead of a walk, in order. -/
def WalkState.kindsAhead : WalkState → List ResourceKind
  | .start => [.system, .route, .stop]
  | .system _ => [.route, .stop]
  | .route _ => [.stop]
  | .stop _ | .atEnd => []

namespace WalkStep

/-- What a step chooses of what is ahead of a walk, from the first on.  Only the step from a
route may come to the end without a choice. -/
structure Chooses
    (state : WalkState)
    (result : Except (Mishap WalkError) WalkState)
    (later : List Selection) : Prop where
  kinds : later.map Selection.kind <+: state.kindsAhead
  arrived : ∀ next, result = .ok next → next.isEnd = true →
    state.kindsAhead.length ≤ later.length + 1
  onward : ∀ next, result = .ok next → next.isEnd = false →
    later.map Selection.kind ++ next.kindsAhead = state.kindsAhead

/-- A leg makes one choice at most, and exactly one if it comes to a document. -/
theorem LegEnds.exists_choices
    {walker after : Walker}
    {link : Summary → String}
    [Document Summary]
    [Document Target]
    (ends : LegEnds itinerary kind href Summary link Target walker events result after) :
    ∃ later, after.selections = walker.selections ++ later ∧
      later.map Selection.kind <+: [kind] ∧
      ∀ value, result = .ok value → later.map Selection.kind = [kind] := by
  cases ends with
  | unresolved | unlisted | empty =>
      exact ⟨[], (List.append_nil _).symm, List.nil_prefix, nofun⟩
  | astray => exact ⟨[_], rfl, List.prefix_rfl, nofun⟩
  | answered => exact ⟨[_], rfl, List.prefix_rfl, fun _ _ => rfl⟩

/-- A leg to the next state, as a step. -/
theorem LegEnds.exists_chooses
    {walker after : Walker}
    {link : Summary → String}
    {next : Target → WalkState}
    [Document Summary]
    [Document Target]
    (ends : LegEnds itinerary kind href Summary link Target walker events result after)
    (ahead : state.kindsAhead = kind :: kinds)
    (onward : ∀ value, (next value).isEnd = false ∧ (next value).kindsAhead = kinds) :
    ∃ later, after.selections = walker.selections ++ later ∧
      Chooses state (result.map next) later := by
  obtain ⟨later, same, single, chosen⟩ := ends.exists_choices
  refine ⟨later, same, ?_, ?_, ?_⟩
  · rw [ahead]
    exact single.trans (List.prefix_append [kind] kinds)
  · intro state' moved isEnd
    cases result with
    | error mishap => cases moved
    | ok value =>
        cases moved
        rw [(onward value).1] at isEnd
        cases isEnd
  · intro state' moved _
    cases result with
    | error mishap => cases moved
    | ok value =>
        cases moved
        rw [chosen value rfl, (onward value).2, ahead]
        rfl

theorem exists_chooses_fromRoute
    {walker after : Walker}
    (yields : Yields (walker.perform (fromRoute itinerary route)) events (result, after)) :
    ∃ later, after.selections = walker.selections ++ later ∧
      Chooses (.route route) result later := by
  cases stopLegEnds yields with
  | noStops =>
      refine ⟨[], (List.append_nil _).symm, List.nil_prefix, fun _ _ _ => Nat.le_refl 1, ?_⟩
      rintro next ⟨⟩ onward
      cases onward
  | astray | failed | lost => exact ⟨[_], rfl, List.prefix_rfl, nofun, nofun⟩
  | reached =>
      refine ⟨[_], rfl, List.prefix_rfl, ?_, ?_⟩
      · rintro next ⟨⟩ isEnd
        cases isEnd
      · rintro next ⟨⟩ _
        rfl

/-- Every step chooses what is ahead of a walk, from the first on. -/
theorem exists_chooses
    {walker after : Walker}
    (going : 0 < state.stepsLeft)
    (yields : Yields (walker.perform (transition itinerary state)) events (result, after)) :
    ∃ later, after.selections = walker.selections ++ later ∧ Chooses state result later := by
  cases state with
  | start =>
      obtain ⟨ended, ends, rfl⟩ := startEnds yields
      cases ends with
      | rootless => exact ⟨[], (List.append_nil _).symm, List.nil_prefix, nofun, nofun⟩
      | rooted _ leg => exact leg.exists_chooses rfl fun _ => ⟨rfl, rfl⟩
  | system system =>
      obtain ⟨ended, leg, rfl⟩ := systemEnds yields
      exact leg.exists_chooses rfl fun _ => ⟨rfl, rfl⟩
  | route route => exact exists_chooses_fromRoute yields
  | stop stop =>
      obtain ⟨_, ended⟩ := yields_finish.mp yields
      cases ended
      refine ⟨[], (List.append_nil _).symm, List.nil_prefix, fun _ _ _ => Nat.zero_le 1, ?_⟩
      rintro next ⟨⟩ onward
      cases onward
  | atEnd => exact absurd going (Nat.lt_irrefl 0)

/-- The rest of a walk chooses what is ahead of it, from the first on, and all but the last
of it if the walk is completed. -/
theorem exists_kinds
    {itinerary : Itinerary}
    {walker after : Walker}
    (representable : itinerary.pause.IsRepresentable)
    (going : 0 < state.stepsLeft)
    (enough : state.stepsLeft ≤ steps)
    (yields : Yields (walker.perform (walkOn itinerary steps state)) events (result, after)) :
    ∃ later, after.selections = walker.selections ++ later ∧
      later.map Selection.kind <+: state.kindsAhead ∧
      (result = .ok .completed → state.kindsAhead.length ≤ later.length + 1) := by
  -- By induction on the steps that are granted: enough of them are, so that a walk is never
  -- completed for want of more, with choices still ahead.
  induction steps generalizing state walker events result after with
  | zero => exact absurd (going.trans_le enough) (Nat.lt_irrefl 0)
  | succ steps hypothesis =>
      cases walkedOn representable yields with
      | lost step | aborted step =>
          obtain ⟨later, same, chooses⟩ := exists_chooses going step
          exact ⟨later, same, chooses.kinds, nofun⟩
      | arrived step isEnd =>
          obtain ⟨later, same, chooses⟩ := exists_chooses going step
          exact ⟨later, same, chooses.kinds, fun _ => chooses.arrived _ rfl isEnd⟩
      | onward step onward rest =>
          obtain ⟨early, earlyEq, chooses⟩ := exists_chooses going step
          have ahead := chooses.onward _ rfl onward
          have fewer := stepsLeft_lt going step
          obtain ⟨late, lateEq, kinds, completed⟩ :=
            hypothesis (WalkState.stepsLeft_pos onward) (by omega) rest
          refine ⟨early ++ late, ?_, ?_, fun ended => ?_⟩
          · rw [lateEq, earlyEq, List.append_assoc]
          · rw [List.map_append, ← ahead]
            exact (List.prefix_append_right_inj _).mpr kinds
          · have fewest := completed ended
            rw [← ahead, List.length_append, List.length_append, List.length_map]
            omega

end WalkStep

/-! ## The effect on a collector -/

namespace Collector

/-- A collector takes the samples among some notes in order, and counts the failures. -/
theorem foldl_take_eq (entries : List WalkNote) (collector : Collector) :
    entries.foldl take collector =
      { shelves := (entries.filterMap WalkNote.sample?).foldl
          (fun shelves sample => shelve sample.1 sample.2 shelves) collector.shelves
        failures := collector.failures + UInt64.ofNat (entries.count .failure) } := by
  rw [← failures_foldl_take]
  induction entries generalizing collector with
  | nil => rfl
  | cons entry entries hypothesis =>
      rw [List.foldl_cons, hypothesis]
      cases entry <;> rfl

/-- A note never changes or moves an earlier sample. -/
theorem samples_prefix_take
    (collector : Collector)
    (entry : WalkNote)
    (kind : ResourceKind) :
    collector.samples kind <+: (collector.take entry).samples kind := by
  cases entry with
  | sample other latency =>
      change _ <+: (collector.record other latency).samples kind
      by_cases same : kind = other
      · subst same
        rw [samples_record_self]
        exact List.prefix_append ..
      · simp only [samples_record_of_ne same, List.prefix_rfl]
  | failure | fetching | noStops | moved | stopped => exact List.prefix_rfl

/-- Nor do any number of notes. -/
theorem samples_prefix_foldl_take
    (entries : List WalkNote)
    (collector : Collector)
    (kind : ResourceKind) :
    collector.samples kind <+: (entries.foldl take collector).samples kind := by
  induction entries generalizing collector with
  | nil => exact List.prefix_rfl
  | cons entry entries hypothesis =>
      exact (collector.samples_prefix_take entry kind).trans (hypothesis _)

end Collector

/-- What a walk does to a collector, as far as its outcome tells. -/
structure WalkEffect
    (outcome : WalkOutcome)
    (events : List (Event WalkNote))
    (before after : Collector) : Prop where
  /-- Systems are chosen before routes, routes before stops, each of them once at most. -/
  kinds : outcome.selections.map Selection.kind <+: [.system, .route, .stop]
  /-- A walk is not completed before it chose a system and a route. -/
  chosen : outcome.ending = .completed → 2 ≤ outcome.selections.length
  /-- A walk that chose no stop leaves nothing. -/
  unnoticed : Selection.visits outcome.selections = false → after = before
  /-- A completed walk that chose a stop leaves a sample of it and nothing else. -/
  completed : Selection.visits outcome.selections = true → outcome.ending = .completed →
    ∃ answer, stopAnswer? 5 events = some answer ∧
      after = before.record .stop answer.elapsed ∧
      after.samples .stop = before.samples .stop ++ [answer.elapsed] ∧
      (∀ kind, kind ≠ .stop → after.samples kind = before.samples kind) ∧
      after.failures = before.failures
  /-- An aborted walk that chose a stop leaves a failure and nothing else. -/
  aborted : Selection.visits outcome.selections = true → ∀ error,
    outcome.ending = .aborted error →
      after = before.recordFailure ∧ after.samples = before.samples ∧
        after.failures = before.failures + 1
  /-- All earlier samples stay where they are. -/
  kept : ∀ kind, before.samples kind <+: after.samples kind

namespace Walker

/-- A walk of a fresh walker chooses in order. -/
theorem kinds_outcome
    {itinerary : Itinerary}
    {walker : Walker}
    (representable : itinerary.pause.IsRepresentable)
    (fresh : walker.selections = [])
    (yields : Yields (walker.walk itinerary) events (.ok outcome)) :
    outcome.selections.map Selection.kind <+: [.system, .route, .stop] ∧
      (outcome.ending = .completed → 2 ≤ outcome.selections.length) := by
  rw [walk_eq, yields_bind] at yields
  obtain ⟨before, later, ⟨ended, after⟩, rfl, walked, finished⟩ := yields
  obtain ⟨_, concluded⟩ := yields_finish.mp finished
  have going : 0 < WalkState.start.stepsLeft := Nat.succ_pos 3
  have enough : WalkState.start.stepsLeft ≤ WalkStep.longestWalk := Nat.le_refl 4
  obtain ⟨chosen, same, kinds, completed⟩ :=
    WalkStep.exists_kinds representable going enough walked
  rw [fresh, List.nil_append] at same
  rcases ended with (error | fault) | ending
  · cases concluded
    exact ⟨same ▸ kinds, nofun⟩
  · cases concluded
  · cases concluded
    refine ⟨same ▸ kinds, ?_⟩
    rintro rfl
    exact same ▸ Nat.le_of_succ_le_succ (completed rfl)

/-- What a collector holds after the walk of a fresh walker. -/
theorem foldl_take_walk
    {itinerary : Itinerary}
    {walker : Walker}
    (representable : itinerary.pause.IsRepresentable)
    (fresh : walker.selections = [])
    (yields : Yields (walker.walk itinerary) events (.ok outcome))
    (collector : Collector) :
    (Selection.visits outcome.selections = false →
        (entries events).foldl Collector.take collector = collector) ∧
      (Selection.visits outcome.selections = true → outcome.ending = .completed →
        ∃ answer, stopAnswer? 5 events = some answer ∧
          (entries events).foldl Collector.take collector =
            collector.record .stop answer.elapsed) ∧
      (Selection.visits outcome.selections = true → outcome.ending ≠ .completed →
        (entries events).foldl Collector.take collector = collector.recordFailure) := by
  obtain ⟨sampled, success, failure⟩ := walk_accounted representable fresh yields
  rw [samples] at sampled
  rw [failures] at failure
  simp only [Except.toOption, Option.any_some, WalkOutcome.completedAtStop,
    WalkOutcome.abortedAtStop] at success failure
  rw [Collector.foldl_take_eq, sampled, failure]
  refine ⟨fun elsewhere => ?_, fun visits completed => ?_, fun visits aborted => ?_⟩
  · rw [elsewhere, Bool.and_false, Option.isSome_eq_false_iff, Option.isNone_iff_eq_none]
      at success
    rw [elsewhere, success, Bool.and_false]
    simp
  · rw [visits, completed] at success ⊢
    obtain ⟨answer, answered⟩ := Option.isSome_iff_exists.mp success
    refine ⟨answer, answered, ?_⟩
    rw [answered]
    simp [Collector.record]
  · rw [visits, decide_eq_false aborted, Bool.false_and, Option.isSome_eq_false_iff,
      Option.isNone_iff_eq_none] at success
    rw [visits, success]
    simp [aborted, Collector.recordFailure]

/-- The outcome of the walk of a fresh walker tells its effect on every collector. -/
theorem walkEffect
    {itinerary : Itinerary}
    {walker : Walker}
    (representable : itinerary.pause.IsRepresentable)
    (fresh : walker.selections = [])
    (yields : Yields (walker.walk itinerary) events (.ok outcome))
    (collector : Collector) :
    WalkEffect outcome events collector ((entries events).foldl Collector.take collector) := by
  obtain ⟨kinds, chosen⟩ := kinds_outcome representable fresh yields
  obtain ⟨unnoticed, completed, aborted⟩ :=
    foldl_take_walk representable fresh yields collector
  have kept := Collector.samples_prefix_foldl_take (entries events) collector
  generalize (entries events).foldl Collector.take collector = after at *
  refine ⟨kinds, chosen, unnoticed, ?_, ?_, kept⟩
  · intro visits ended
    obtain ⟨answer, answered, rfl⟩ := completed visits ended
    exact ⟨answer, answered, rfl, collector.samples_record_self .stop answer.elapsed,
      fun _ elsewhere => Collector.samples_record_of_ne elsewhere collector answer.elapsed, rfl⟩
  · intro visits error ended
    obtain rfl := aborted visits (by simp [ended])
    exact ⟨rfl, rfl, rfl⟩

/-- The outcome of a walk tells what it left in the statistics, whatever they were before,
whatever words the walker draws, and however its requests are answered, as long as none of
them breaks down.  In particular it does so before every API that never breaks down, where
the notes of the trace are what the statistics take. -/
theorem outcome_tells_effect
    {itinerary : Itinerary}
    (representable : itinerary.pause.IsRepresentable)
    (id : Nat)
    (generator : Generator)
    (collector : Collector) :
    (∀ events result, Yields (walk itinerary { id, generator }) events result →
      ¬BrokeDown events →
      ∃ outcome, result = .ok outcome ∧
        WalkEffect outcome events collector
          ((entries events).foldl Collector.take collector)) ∧
      ∀ api : Api, (∀ place url text, (api place url).reply ≠ .broken text) →
        ∃ events outcome trace,
          (walk itinerary { id, generator }).alone api .empty = (.ok outcome, trace) ∧
            AnsweredBy api events ∧ trace.requests = ((exchanges events).map Prod.fst).toArray ∧
            trace.notes = (entries events).toArray ∧
            WalkEffect outcome events collector
              (trace.notes.foldl Collector.take collector) := by
  refine ⟨fun events result yields sound => ?_, fun api sound => ?_⟩
  · obtain ⟨outcome, rfl, _⟩ := exists_outcome representable rfl yields sound
    exact ⟨outcome, rfl, walkEffect representable rfl yields collector⟩
  · obtain ⟨_, alone, _⟩ := walk_cannot_go_wrong representable id generator
    obtain ⟨events, outcome, carried, answered, yields⟩ := alone api sound
    refine ⟨events, outcome, _, carried, answered, rfl, rfl, ?_⟩
    rw [List.foldl_toArray]
    exact walkEffect representable rfl yields collector

/-- A collector that has been used before. -/
def usedCollector : Collector where
  shelves := [(.route, #[.ofMilliseconds 8]), (.stop, #[.ofMilliseconds 3])]
  failures := 7

/-- A walk before `oneStop`, whose stop is found. -/
def foundStop : Except Fault WalkOutcome × Trace WalkNote :=
  (walk ⟨Settings.defaults.baseUrl, .zero⟩ { id := 0, generator := ⟨fun _ => 0, 0⟩ }).alone
    (oneStop (.body (Json.utf8 "\x7b\x7d"))) .empty

/-- The walk before `oneStop` puts one sample behind the sample of a used collector. -/
theorem outcome_tells_effect_oneStop :
    DelayRange.zero.IsRepresentable ∧
      (∀ place url text,
        (oneStop (.body (Json.utf8 "\x7b\x7d")) place url).reply ≠ .broken text) ∧
      ∃ events,
        WalkEffect ⟨0, [⟨.system, 0⟩, ⟨.route, 0⟩, ⟨.stop, 0⟩], .completed⟩ events usedCollector
          (foundStop.2.notes.foldl Collector.take usedCollector) ∧
        (foundStop.2.notes.foldl Collector.take usedCollector).samples .stop =
          [.ofMilliseconds 3, .ofMilliseconds 5] ∧
        (foundStop.2.notes.foldl Collector.take usedCollector).samples .route =
          [.ofMilliseconds 8] ∧
        (foundStop.2.notes.foldl Collector.take usedCollector).failures = 7 := by
  have representable : DelayRange.zero.IsRepresentable := ⟨by decide, by decide⟩
  have sound : ∀ place url text,
      (oneStop (.body (Json.utf8 "\x7b\x7d")) place url).reply ≠ .broken text := by
    intro place url text
    unfold oneStop
    split <;> nofun
  have found : foundStop.1.toOption =
      some ⟨0, [⟨.system, 0⟩, ⟨.route, 0⟩, ⟨.stop, 0⟩], .completed⟩ := by decide +kernel
  have sampled : (foundStop.2.notes.foldl Collector.take usedCollector).samples .stop =
      [.ofMilliseconds 3, .ofMilliseconds 5] := by decide +kernel
  obtain ⟨_, alone⟩ := outcome_tells_effect
    (show (⟨Settings.defaults.baseUrl, .zero⟩ : Itinerary).pause.IsRepresentable from
      representable) 0 ⟨fun _ => 0, 0⟩ usedCollector
  obtain ⟨events, outcome, trace, carried, _, _, _, effect⟩ := alone _ sound
  have same : foundStop = (.ok outcome, trace) := carried
  rw [same] at found sampled ⊢
  obtain rfl := Option.some.inj found
  obtain ⟨_, _, _, _, others, failures⟩ := effect.completed rfl rfl
  exact ⟨representable, sound, events, effect, sampled, others .route nofun, failures⟩

end Walker
end TransitLoad
