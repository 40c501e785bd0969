import TransitLoad.Proofs.Legs

/-!
# The account of a walk

The request of a stop is the sixth of a walk: it comes after those of the root, of
the systems, of a system, of its routes, and of a route.  A walk leaves a sample if
and only if this request succeeds, and then it is completed; it leaves a failure if
and only if it is aborted after a stop was chosen.
-/

namespace TransitLoad

open Activity

/-! ## Walking on -/

namespace WalkStep

/-- What happens when a walker walks on from a state: a step that ends in a fault or an
error, a step to the end, or a step and a pause before the rest of the walk. -/
inductive WalkedOn
    (itinerary : Itinerary)
    (steps : Nat)
    (state : WalkState)
    (walker : Walker) :
    List (Event WalkNote) → Except (Mishap WalkError) Ending → Walker → Prop where
  | lost
      (step : Yields (walker.perform (transition itinerary state)) events
        (.error (.fault fault), after)) :
      WalkedOn itinerary steps state walker events (.error (.fault fault)) after
  | aborted
      (step : Yields (walker.perform (transition itinerary state)) events
        (.error (.error error), after)) :
      WalkedOn itinerary steps state walker
        (events ++ [.noted (.stopped after.id state.name error)]) (.ok (.aborted error)) after
  | arrived
      (step : Yields (walker.perform (transition itinerary state)) events (.ok next, after))
      (isEnd : next.isEnd = true) :
      WalkedOn itinerary steps state walker
        (events ++ [.noted (.moved after.id state.name next.name)]) (.ok .completed) after
  | onward
      (step : Yields (walker.perform (transition itinerary state)) events (.ok next, middle))
      (onward : next.isEnd = false)
      (rest : Yields
        ({ middle with
            generator := middle.generator.skip itinerary.pause.words }.perform
          (walkOn itinerary steps next)) later (result, after)) :
      WalkedOn itinerary steps state walker
        (events ++ .noted (.moved middle.id state.name next.name) ::
          .rested (itinerary.pause.drawn middle.generator) :: later)
        result after

theorem walkedOn
    {itinerary : Itinerary}
    {walker after : Walker}
    (representable : itinerary.pause.IsRepresentable)
    (yields : Yields (walker.perform (walkOn itinerary (steps + 1) state)) events
      (result, after)) :
    WalkedOn itinerary steps state walker events result after := by
  rw [walkOn, Walker.perform_bind, Walker.perform_attempt, bind_assoc, yields_bind] at yields
  obtain ⟨before, later, ⟨result', middle⟩, rfl, step, yields⟩ := yields
  rcases result' with (error | fault) | next
  · simp only [finish_bind, Walker.perform_bind, Walker.perform_get, Walker.perform_tell,
      Walker.perform_pure, note_bind, yields_note, yields_finish] at yields
    obtain ⟨_, rfl, rfl, ended⟩ := yields
    cases ended
    exact .aborted step
  · simp only [finish_bind, yields_finish] at yields
    obtain ⟨rfl, ended⟩ := yields
    cases ended
    rw [List.append_nil]
    exact .lost step
  · simp only [finish_bind, Walker.perform_bind, Walker.perform_get, Walker.perform_tell,
      note_bind, yields_note] at yields
    obtain ⟨later, rfl, yields⟩ := yields
    split_ifs at yields with isEnd
    · rw [Walker.perform_pure, yields_finish] at yields
      obtain ⟨rfl, ended⟩ := yields
      cases ended
      exact .arrived step isEnd
    · simp only [Walker.perform_bind, Walker.perform_draw, Walker.perform_act, finish_bind,
        DelayRange.sample_eq_drawn representable, Except.mapError, rest, pause_bind,
        yields_pause] at yields
      obtain ⟨later, rfl, yields⟩ := yields
      exact .onward step (by simpa using isEnd) yields

end WalkStep

/-! ## What counts -/

/-- The kind and the latency of a sample, if a note is one. -/
def WalkNote.sample? : WalkNote → Option (ResourceKind × Duration)
  | .sample kind latency => some (kind, latency)
  | _ => none

/-- Whether a stop was answered. -/
def Answer.isStop (answer : Answer) : Bool :=
  match answer.reply with
  | .body bytes => (Document.decode Stop bytes).isOk
  | _ => false

/-- Whether a stop is among some choices. -/
def Selection.visits (selections : List Selection) : Bool :=
  selections.any fun selection => selection.kind = .stop

/-- The answer to the request of a stop, which comes after so many others, if it
succeeded. -/
def stopAnswer? (earlier : Nat) (events : List (Event WalkNote)) : Option Answer :=
  ((exchanges events)[earlier]?.map Prod.snd).filter Answer.isStop

/-- The samples among some events. -/
def samples (events : List (Event WalkNote)) : List (ResourceKind × Duration) :=
  (entries events).filterMap WalkNote.sample?

/-- The number of failures among some events. -/
def failures (events : List (Event WalkNote)) : Nat := (entries events).count .failure

@[simp] theorem samples_append (before after : List (Event WalkNote)) :
    samples (before ++ after) = samples before ++ samples after := by
  rw [samples, entries_append, List.filterMap_append]
  rfl

@[simp] theorem failures_append (before after : List (Event WalkNote)) :
    failures (before ++ after) = failures before + failures after := by
  rw [failures, entries_append, List.count_append]
  rfl

namespace Unnoticed

theorem samples_eq
    {walker after : Walker}
    (unnoticed : Unnoticed walker events after) :
    samples events = [] := by
  rw [samples, List.filterMap_eq_nil_iff]
  intro entry present
  have uncounted := unnoticed.entries entry present
  cases entry with
  | sample kind latency => cases uncounted
  | failure | fetching | noStops | moved | stopped => rfl

theorem failures_eq
    {walker after : Walker}
    (unnoticed : Unnoticed walker events after) :
    failures events = 0 := by
  rw [failures, List.count_eq_zero]
  intro present
  cases unnoticed.entries .failure present

/-- Nothing was noticed, and nothing chosen but what is no stop. -/
theorem exists_selections
    {walker after : Walker}
    (unnoticed : Unnoticed walker events after) :
    ∃ later, after.selections = walker.selections ++ later ∧
      Selection.visits later = false := by
  obtain ⟨later, same, elsewhere⟩ := unnoticed.selections
  refine ⟨later, same, ?_⟩
  rw [Selection.visits, List.any_eq_false]
  intro selection present
  rw [decide_eq_true_eq]
  exact elsewhere selection present

end Unnoticed

/-- Whether a walk was completed. -/
def WalkStep.completes : Except (Mishap WalkError) Ending → Bool
  | .ok .completed => true
  | _ => false

/-- Whether a walk was aborted. -/
def WalkStep.aborts : Except (Mishap WalkError) Ending → Bool
  | .ok (.aborted _) => true
  | _ => false

/-- The rest of a walk, whose request of a stop is still so many requests away, leaves
its sample or its failure. -/
structure StopsAccounted
    (ahead : Nat)
    (walker : Walker)
    (events : List (Event WalkNote))
    (result : Except (Mishap WalkError) Ending)
    (after : Walker) : Prop where
  samples : samples events =
    ((stopAnswer? ahead events).map fun answer => (.stop, answer.elapsed)).toList
  selections : ∃ later, after.selections = walker.selections ++ later ∧
    (stopAnswer? ahead events).isSome =
      (WalkStep.completes result && Selection.visits later) ∧
    failures events = (WalkStep.aborts result && Selection.visits later).toNat
  settled : ∀ error, result ≠ .error (.error error)

namespace StopsAccounted

/-- The rest of a walk that goes unnoticed chooses no stop. -/
theorem of_unnoticed
    {walker after : Walker}
    (unnoticed : Unnoticed walker events after)
    (few : (exchanges events).length ≤ ahead)
    (settled : ∀ error, result ≠ .error (.error error)) :
    StopsAccounted ahead walker events result after := by
  have none : stopAnswer? ahead events = none := by
    rw [stopAnswer?, List.getElem?_eq_none few]
    rfl
  obtain ⟨later, same, elsewhere⟩ := unnoticed.exists_selections
  refine ⟨?_, ⟨later, same, ?_, ?_⟩, settled⟩
  · rw [unnoticed.samples_eq, none]
    rfl
  · rw [none, elsewhere, Bool.and_false]
    rfl
  · rw [unnoticed.failures_eq, elsewhere, Bool.and_false]
    rfl

/-- What goes unnoticed before the rest of a walk only shifts the request of a stop. -/
theorem prepend
    {walker middle after : Walker}
    (accounted : StopsAccounted ahead middle events result after)
    (unnoticed : Unnoticed walker before middle) :
    StopsAccounted (ahead + (exchanges before).length) walker (before ++ events) result
      after := by
  have same : stopAnswer? (ahead + (exchanges before).length) (before ++ events) =
      stopAnswer? ahead events := by
    rw [stopAnswer?, stopAnswer?, exchanges_append,
      List.getElem?_append_right (Nat.le_add_left _ _), Nat.add_sub_cancel]
  obtain ⟨early, earlyEq, elsewhere⟩ := unnoticed.exists_selections
  obtain ⟨late, lateEq, success, failure⟩ := accounted.selections
  have visits : Selection.visits (early ++ late) = Selection.visits late := by
    rw [Selection.visits] at elsewhere ⊢
    rw [List.any_append, elsewhere, Bool.false_or]
    rfl
  refine ⟨?_, ⟨early ++ late, ?_, ?_, ?_⟩, accounted.settled⟩
  · rw [same, samples_append, unnoticed.samples_eq, List.nil_append, accounted.samples]
  · rw [lateEq, earlyEq, List.append_assoc]
  · rw [same, visits, success]
  · rw [failures_append, unnoticed.failures_eq, visits, failure, Nat.zero_add]

/-- What goes unnoticed after a walk is accounted for changes nothing if it sends no
requests. -/
theorem append
    {walker middle after : Walker}
    (accounted : StopsAccounted ahead walker events result middle)
    (unnoticed : Unnoticed middle later after)
    (idle : exchanges later = []) :
    StopsAccounted ahead walker (events ++ later) result after := by
  have same : stopAnswer? ahead (events ++ later) = stopAnswer? ahead events := by
    rw [stopAnswer?, stopAnswer?, exchanges_append, idle, List.append_nil]
  obtain ⟨early, earlyEq, success, failure⟩ := accounted.selections
  obtain ⟨late, lateEq, elsewhere⟩ := unnoticed.exists_selections
  have visits : Selection.visits (early ++ late) = Selection.visits early := by
    rw [Selection.visits] at elsewhere ⊢
    rw [List.any_append, elsewhere, Bool.or_false]
    rfl
  refine ⟨?_, ⟨early ++ late, ?_, ?_, ?_⟩, accounted.settled⟩
  · rw [same, samples_append, unnoticed.samples_eq, List.append_nil, accounted.samples]
  · rw [lateEq, earlyEq, List.append_assoc]
  · rw [same, visits, success]
  · rw [failures_append, unnoticed.failures_eq, visits, failure, Nat.add_zero]

end StopsAccounted

/-! ## The request of a stop -/

/-- An answer that can be decoded as a stop is one. -/
theorem Answer.isStop_of_decoded_ok
    {fetched : Fetched Stop}
    (answer : Answer)
    (decoded : answer.decoded (Document.decode Stop) url = .ok fetched) :
    answer.isStop = true ∧ fetched.elapsed = answer.elapsed := by
  obtain ⟨elapsed, reply⟩ := answer
  cases reply with
  | body bytes =>
      cases decodes : Document.decode Stop bytes with
      | ok stop =>
          simp only [Answer.decoded, decodes] at decoded
          cases decoded
          exact ⟨by simp [isStop, decodes, Except.isOk, Except.toBool], rfl⟩
      | error error =>
          simp only [Answer.decoded, decodes] at decoded
          cases decoded
  | status | unreachable | broken => cases decoded

/-- An answer that cannot be decoded as a stop is none. -/
theorem Answer.isStop_of_decoded_error
    (answer : Answer)
    (decoded : answer.decoded (Document.decode Stop) url = .error mishap) :
    answer.isStop = false := by
  obtain ⟨elapsed, reply⟩ := answer
  cases reply with
  | body bytes =>
      cases decodes : Document.decode Stop bytes with
      | ok stop =>
          simp only [Answer.decoded, decodes] at decoded
          cases decoded
      | error error => simp [isStop, decodes, Except.isOk, Except.toBool]
  | status | unreachable | broken => rfl

namespace WalkStep

/-- How a step from a route ends, in view of the statistics. -/
inductive RouteEnds (walker : Walker) :
    List (Event WalkNote) → Except (Mishap WalkError) WalkState → Walker → Prop where
  | lost
      (fault : Fault)
      (later : List Selection)
      (kept : after.selections = walker.selections ++ later)
      (unsuccessful : stopAnswer? 0 events = none)
      (uncounted : entries events = []) :
      RouteEnds walker events (.error (.fault fault)) after
  | noStops
      (unnoticed : Unnoticed walker events after)
      (idle : exchanges events = []) :
      RouteEnds walker events (.ok .atEnd) after
  | failed
      (error : WalkError)
      (index : Nat)
      (chosen : after.selections = walker.selections ++ [⟨.stop, index⟩])
      (unsuccessful : stopAnswer? 0 events = none)
      (counted : entries events = [.failure]) :
      RouteEnds walker events (.error (.error error)) after
  | reached
      (stop : Stop)
      (index : Nat)
      (chosen : after.selections = walker.selections ++ [⟨.stop, index⟩])
      (requested : exchanges events = [(url, answer)])
      (successful : answer.isStop = true)
      (counted : entries events = [.sample .stop answer.elapsed]) :
      RouteEnds walker events (.ok (.stop stop)) after

theorem routeEnds
    {walker after : Walker}
    (yields : Yields (walker.perform (fromRoute itinerary route)) events (result, after)) :
    RouteEnds walker events result after := by
  cases stopLegEnds yields with
  | noStops =>
      exact .noStops ⟨by simp [entries, WalkNote.counts], [], (List.append_nil _).symm, nofun⟩ rfl
  | @astray index _ error => exact .failed _ index rfl rfl rfl
  | @failed index _ url answer error _ _ failed =>
      have unsuccessful := answer.isStop_of_decoded_error failed
      exact .failed _ index rfl (Option.filter_some_neg (by simp [unsuccessful])) rfl
  | @lost index _ url answer fault _ _ lost =>
      have unsuccessful := answer.isStop_of_decoded_error lost
      exact .lost fault [⟨.stop, index⟩] rfl
        (Option.filter_some_neg (by simp [unsuccessful])) rfl
  | @reached index _ url answer fetched _ _ reached =>
      obtain ⟨successful, elapsed⟩ := answer.isStop_of_decoded_ok reached
      exact .reached fetched.value index rfl rfl successful (by rw [elapsed]; rfl)

/-! ## Whole walks -/

/-- What holds of the value of a step that succeeds. -/
structure Gives (property : α → Prop) (step : WalkStep α) : Prop where
  holds {walker after : Walker}
    (yields : Yields (walker.perform step) events (.ok value, after)) : property value

theorem Gives.bind
    {step : WalkStep α}
    {next : α → WalkStep β}
    (gives : ∀ value, Gives property (next value)) :
    Gives property (step >>= next) := by
  constructor
  intro events value walker after yields
  rcases Walker.yields_perform_bind.mp yields with
    ⟨_, impossible, _⟩ | ⟨_, _, value, _, rfl, _, later⟩
  · cases impossible
  · exact (gives value).holds later

theorem Gives.pure
    {value : α}
    (holds : property value) :
    Gives property (Pure.pure value) := by
  constructor
  intro events other walker after yields
  rw [Walker.perform_pure, yields_finish] at yields
  cases yields.2
  exact holds

theorem gives_fromStart (itinerary : Itinerary) :
    Gives (fun next => ∃ system, next = .system system) (fromStart itinerary) := by
  unfold fromStart
  refine .bind fun root => .bind fun systemsUrl => .bind fun systems => ?_
  refine .bind fun summary => .bind fun systemUrl => .bind fun system => ?_
  exact .pure ⟨system, rfl⟩

theorem gives_fromSystem (itinerary : Itinerary) (system : System) :
    Gives (fun next => ∃ route, next = .route route) (fromSystem itinerary system) := by
  unfold fromSystem
  refine .bind fun routesUrl => .bind fun routes => .bind fun summary => ?_
  refine .bind fun routeUrl => .bind fun route => ?_
  exact .pure ⟨route, rfl⟩

/-- How many requests come before the one of a stop. -/
def requestsAhead : WalkState → Nat
  | .start => 5
  | .system _ => 2
  | _ => 0

theorem unnoticed_note
    {entry : WalkNote}
    (uncounted : entry.counts = false)
    (walker : Walker) :
    Unnoticed walker [.noted entry] walker :=
  ⟨by simpa [entries] using uncounted, [], (List.append_nil _).symm, nofun⟩

/-- A note that counts for nothing goes unnoticed together with the pause after it. -/
theorem unnoticed_pause
    {entry : WalkNote}
    (uncounted : entry.counts = false)
    (walker : Walker)
    (pause : Duration)
    (words : Nat) :
    Unnoticed walker [.noted entry, .rested pause]
      { walker with generator := walker.generator.skip words } :=
  ⟨by simpa [entries] using uncounted, [], (List.append_nil _).symm, nofun⟩

/-- A quiet step is accounted for if the rest of the walk is. -/
theorem stopsAccounted_of_quiet
    {itinerary : Itinerary}
    {walker after : Walker}
    (quiet : Quiet requests (transition itinerary state))
    (gives : Gives property (transition itinerary state))
    (accounts : ∀ {next} {walker after : Walker} {events result}, property next →
      Yields (walker.perform (walkOn itinerary steps next)) events (result, after) →
      StopsAccounted ahead walker events result after)
    (walked : WalkedOn itinerary steps state walker events result after) :
    StopsAccounted (ahead + requests) walker events result after := by
  cases walked with
  | lost step =>
      apply StopsAccounted.of_unnoticed (quiet.unnoticed step)
      · exact (quiet.few step).trans (Nat.le_add_left _ _)
      · intro error same
        cases same
  | aborted step =>
      apply StopsAccounted.of_unnoticed ((quiet.unnoticed step).trans (unnoticed_note rfl _))
      · rw [exchanges_append, exchanges_noted, List.append_nil]
        exact (quiet.few step).trans (Nat.le_add_left _ _)
      · intro error same
        cases same
  | arrived step =>
      apply StopsAccounted.of_unnoticed ((quiet.unnoticed step).trans (unnoticed_note rfl _))
      · rw [exchanges_append, exchanges_noted, List.append_nil]
        exact (quiet.few step).trans (Nat.le_add_left _ _)
      · intro error same
        cases same
  | @onward events next middle later _ _ step _ rest =>
      have noted : (WalkNote.moved middle.id state.name next.name).counts = false := rfl
      have unnoticed := (quiet.unnoticed step).trans (unnoticed_pause noted middle
        (itinerary.pause.drawn middle.generator) itinerary.pause.words)
      have accounted := (accounts (gives.holds step) rest).prepend unnoticed
      have idle : exchanges [.noted (WalkNote.moved middle.id state.name next.name),
          .rested (itinerary.pause.drawn middle.generator)] = [] := rfl
      rw [exchanges_append, idle, List.append_nil, quiet.exact step,
        List.append_assoc] at accounted
      exact accounted

/-- At a stop, a walk comes to its end. -/
theorem unnoticed_of_stop
    {itinerary : Itinerary}
    {walker after : Walker}
    (representable : itinerary.pause.IsRepresentable)
    (yields : Yields (walker.perform (walkOn itinerary steps (.stop stop))) events
      (result, after)) :
    Unnoticed walker events after ∧ exchanges events = [] ∧ result = .ok .completed := by
  cases steps with
  | zero =>
      rw [walkOn, Walker.perform_pure, yields_finish] at yields
      obtain ⟨rfl, ended⟩ := yields
      cases ended
      exact ⟨.nil rfl, rfl, rfl⟩
  | succ steps =>
      have transits : walker.perform (transition itinerary (.stop stop)) =
          .finish (.ok .atEnd, walker) := rfl
      cases walkedOn representable yields with
      | lost step =>
          rw [transits, yields_finish] at step
          cases step.2
      | aborted step =>
          rw [transits, yields_finish] at step
          cases step.2
      | arrived step =>
          rw [transits, yields_finish] at step
          obtain ⟨rfl, ended⟩ := step
          cases ended
          exact ⟨unnoticed_note rfl _, rfl, rfl⟩
      | onward step onward =>
          rw [transits, yields_finish] at step
          cases step.2
          cases onward

namespace RouteEnds

/-- A walk that is lost on the way to a stop leaves nothing. -/
theorem accounted_of_lost
    {walker after : Walker}
    (ends : RouteEnds walker events (.error (.fault fault)) after) :
    StopsAccounted 0 walker events (.error (.fault fault)) after := by
  cases ends with
  | lost _ later kept unsuccessful uncounted =>
      refine ⟨?_, ⟨later, kept, ?_, ?_⟩, ?_⟩
      · rw [unsuccessful, samples, uncounted]
        rfl
      · rw [unsuccessful]
        rfl
      · rw [failures, uncounted]
        rfl
      · intro error same
        cases same

/-- A walk that is aborted on the way to a stop leaves a failure. -/
theorem accounted_of_failed
    {walker after : Walker}
    (ends : RouteEnds walker events (.error (.error error)) after) :
    StopsAccounted 0 walker events (.ok (.aborted error)) after := by
  cases ends with
  | failed _ index chosen unsuccessful counted =>
      refine ⟨?_, ⟨[⟨.stop, index⟩], chosen, ?_, ?_⟩, ?_⟩
      · rw [unsuccessful, samples, counted]
        rfl
      · rw [unsuccessful]
        rfl
      · rw [failures, counted]
        rfl
      · intro error same
        cases same

/-- A walk that reaches a stop leaves a sample and is going to be completed. -/
theorem accounted_of_reached
    {walker after : Walker}
    (ends : RouteEnds walker events (.ok (.stop stop)) after) :
    StopsAccounted 0 walker events (.ok .completed) after := by
  cases ends with
  | @reached url answer _ _ index chosen requested successful counted =>
      have answered : stopAnswer? 0 events = some answer := by
        rw [stopAnswer?, requested]
        exact Option.filter_some_pos successful
      refine ⟨?_, ⟨[⟨.stop, index⟩], chosen, ?_, ?_⟩, ?_⟩
      · rw [answered, samples, counted]
        rfl
      · rw [answered]
        rfl
      · rw [failures, counted]
        rfl
      · intro error same
        cases same

end RouteEnds

/-- A step from a route and the rest of the walk are accounted for. -/
theorem stopsAccounted_of_route
    {itinerary : Itinerary}
    {walker after : Walker}
    (representable : itinerary.pause.IsRepresentable)
    (walked : WalkedOn itinerary steps (.route route) walker events result after) :
    StopsAccounted 0 walker events result after := by
  cases walked with
  | lost step => exact (routeEnds step).accounted_of_lost
  | aborted step => exact (routeEnds step).accounted_of_failed.append (unnoticed_note rfl _) rfl
  | arrived step isEnd =>
      cases routeEnds step with
      | noStops unnoticed idle =>
          apply StopsAccounted.of_unnoticed (unnoticed.trans (unnoticed_note rfl _))
          · rw [exchanges_append, exchanges_noted, idle]
            exact Nat.zero_le _
          · intro error same
            cases same
      | reached => cases isEnd
  | @onward events next middle later _ _ step onward rest =>
      have ends := routeEnds step
      cases next with
      | stop stop =>
          obtain ⟨unnoticed, idle, rfl⟩ := unnoticed_of_stop representable rest
          have noted : (WalkNote.moved middle.id (WalkState.route route).name
              (WalkState.stop stop).name).counts = false := rfl
          exact ends.accounted_of_reached.append
            ((unnoticed_pause noted middle _ _).trans unnoticed) idle
      | atEnd => cases onward
      | start => cases ends
      | system => cases ends
      | route => cases ends

/-- Past the end a walker is lost at once. -/
theorem lost_past_the_end
    {itinerary : Itinerary}
    {walker after : Walker}
    (walked : WalkedOn itinerary steps .atEnd walker events result after) :
    events = [] ∧ result = .error (.fault (.pastTheEnd walker.id)) ∧ after = walker := by
  have transits : walker.perform (transition itinerary .atEnd) =
      .finish (.error (.fault (.pastTheEnd walker.id)), walker) := rfl
  cases walked with
  | lost step =>
      rw [transits, yields_finish] at step
      obtain ⟨rfl, ended⟩ := step
      cases ended
      exact ⟨rfl, rfl, rfl⟩
  | aborted step =>
      rw [transits, yields_finish] at step
      cases step.2
  | arrived step =>
      rw [transits, yields_finish] at step
      cases step.2
  | onward step =>
      rw [transits, yields_finish] at step
      cases step.2

/-- Every walk is accounted for, from every state on. -/
theorem stopsAccounted
    {itinerary : Itinerary}
    {walker after : Walker}
    (representable : itinerary.pause.IsRepresentable)
    (yields : Yields (walker.perform (walkOn itinerary steps state)) events (result, after)) :
    StopsAccounted (requestsAhead state) walker events result after := by
  induction steps generalizing state walker events result after with
  | zero =>
      rw [walkOn, Walker.perform_pure, yields_finish] at yields
      obtain ⟨rfl, ended⟩ := yields
      cases ended
      apply StopsAccounted.of_unnoticed (.nil rfl) (Nat.zero_le _)
      intro error same
      cases same
  | succ steps hypothesis =>
      have walked := walkedOn representable yields
      cases state with
      | start =>
          refine stopsAccounted_of_quiet (.fromStart itinerary) (gives_fromStart itinerary)
            ?_ walked
          rintro next walker after events result ⟨system, rfl⟩ rest
          exact hypothesis rest
      | system system =>
          refine stopsAccounted_of_quiet (.fromSystem itinerary system)
            (gives_fromSystem itinerary system) ?_ walked
          rintro next walker after events result ⟨route, rfl⟩ rest
          exact hypothesis rest
      | route route => exact stopsAccounted_of_route representable walked
      | stop stop =>
          obtain ⟨unnoticed, idle, rfl⟩ := unnoticed_of_stop representable yields
          apply StopsAccounted.of_unnoticed unnoticed
          · rw [idle]
            exact Nat.zero_le _
          · intro error same
            cases same
      | atEnd =>
          obtain ⟨rfl, rfl, rfl⟩ := lost_past_the_end walked
          apply StopsAccounted.of_unnoticed (.nil rfl) (Nat.zero_le _)
          intro error same
          cases same

end WalkStep

end TransitLoad
