import TransitLoad.Proofs.Passages
import TransitLoad.Walk

/-!
# Steps of a walker

A step of a walker is an activity that ends in a value, or in a mishap, and in the
walker afterwards.  Steps that only find the way to a route are quiet: they leave
nothing in the statistics and choose no stop, and one that succeeds has sent a fixed
number of requests.
-/

namespace TransitLoad

open Activity

namespace Walker

/-! ## Performing a step -/

theorem perform_pure (walker : Walker) (value : α) :
    walker.perform (pure value) = .finish (.ok value, walker) := rfl

theorem perform_bind
    (walker : Walker)
    (step : WalkStep α)
    (next : α → WalkStep β) :
    walker.perform (step >>= next) =
      walker.perform step >>= fun ended =>
        match ended with
        | (.ok value, after) => after.perform (next value)
        | (.error mishap, after) => .finish (.error mishap, after) := by
  refine congrArg (walker.perform step >>= ·) (funext fun ended => ?_)
  rcases ended with ⟨_ | _, _⟩ <;> rfl

theorem perform_act (walker : Walker) (activity : Activity WalkNote α) :
    walker.perform (.act activity) =
      activity >>= fun value => .finish (.ok value, walker) := by
  change (activity >>= fun value => finish (value, walker)) >>=
    (fun ended => finish (Except.ok ended.1, ended.2)) = _
  rw [bind_assoc]
  rfl

theorem perform_tell (walker : Walker) (entry : WalkNote) :
    walker.perform (.tell entry) = .note entry (.finish (.ok (), walker)) := rfl

theorem perform_fail (walker : Walker) (error : WalkError) :
    walker.perform (.fail error : WalkStep α) =
      .finish (.error (.error error), walker) := rfl

theorem perform_throw (walker : Walker) (mishap : Mishap WalkError) :
    walker.perform (throw mishap : WalkStep α) = .finish (.error mishap, walker) := rfl

theorem perform_get (walker : Walker) :
    walker.perform (get : WalkStep Walker) = .finish (.ok walker, walker) := rfl

theorem perform_orFault (walker : Walker) (result : Except Fault α) :
    walker.perform (.orFault result) = .finish (result.mapError .fault, walker) := by
  cases result <;> rfl

theorem perform_draw (walker : Walker) (choice : Draw α) :
    walker.perform (.draw choice) =
      .finish ((choice.from? walker.generator).1.mapError .fault,
        { walker with generator := (choice.from? walker.generator).2 }) := by
  unfold WalkStep.draw
  rw [perform_bind, perform_get]
  simp only [finish_bind]
  generalize choice.from? walker.generator = drawn
  rcases drawn with ⟨_ | _, _⟩ <;> rfl

theorem perform_remember (walker : Walker) (selection : Selection) :
    walker.perform (.remember selection) =
      .finish (.ok (), { walker with selections := walker.selections ++ [selection] }) := rfl

theorem perform_attempt (walker : Walker) (step : WalkStep α) :
    walker.perform step.attempt =
      walker.perform step >>= fun ended =>
        match ended with
        | (.ok value, after) => .finish (.ok (.ok value), after)
        | (.error (.error error), after) => .finish (.ok (.error error), after)
        | (.error (.fault fault), after) => .finish (.error (.fault fault), after) := by
  refine congrArg (walker.perform step >>= ·) (funext fun ended => ?_)
  rcases ended with ⟨(_ | _) | _, _⟩ <;> rfl

/-- Fetching a document is one request, whose answer decides about success. -/
theorem perform_fetched
    (walker : Walker)
    (kind : ResourceKind)
    (url : Url)
    (α : Type)
    [Document α] :
    walker.perform (.fetched kind url α) =
      .request url fun answer =>
        .finish (match answer.decoded (Document.decode α) url with
          | .ok fetched => (.ok fetched, walker)
          | .error (.error error) => (.error (.error (.fetch kind error)), walker)
          | .error (.fault fault) => (.error (.fault fault), walker)) := by
  rw [WalkStep.fetched, perform_bind, perform_act, fetch, request_bind, request_bind]
  refine congrArg (Activity.request url) (funext fun answer => ?_)
  rw [finish_bind, finish_bind]
  rcases answer.decoded (Document.decode α) url with (_ | _) | _ <;> rfl

/-- A step after another one fails with it, or goes on from where it ended. -/
theorem yields_perform_bind
    {walker after : Walker}
    {step : WalkStep α}
    {next : α → WalkStep β} :
    Yields (walker.perform (step >>= next)) events (result, after) ↔
      (∃ mishap, result = .error mishap ∧
        Yields (walker.perform step) events (.error mishap, after)) ∨
      ∃ before later value middle, events = before ++ later ∧
        Yields (walker.perform step) before (.ok value, middle) ∧
        Yields (middle.perform (next value)) later (result, after) := by
  rw [perform_bind, yields_bind]
  constructor
  · rintro ⟨before, later, ⟨_ | value, middle⟩, rfl, first, second⟩
    · rw [yields_finish] at second
      obtain ⟨rfl, same⟩ := second
      cases same
      rw [List.append_nil]
      exact .inl ⟨_, rfl, first⟩
    · exact .inr ⟨before, later, value, middle, rfl, first, second⟩
  · rintro (⟨mishap, rfl, first⟩ | ⟨before, later, value, middle, rfl, first, second⟩)
    · exact ⟨events, [], _, (List.append_nil events).symm, first, yields_finish.mpr ⟨rfl, rfl⟩⟩
    · exact ⟨before, later, _, rfl, first, second⟩

end Walker

/-! ## Brief steps -/

/-- A step that sends no more requests and makes no more pauses than so many, whoever
takes it. -/
def WalkStep.Brief (count : Nat) (step : WalkStep α) : Prop :=
  ∀ walker : Walker, WaitsAtMost count (walker.perform step)

namespace WalkStep.Brief

theorem mono
    {step : WalkStep α}
    (brief : Brief count step)
    (le : count ≤ more) :
    Brief more step :=
  fun walker => (brief walker).mono le

theorem bind
    {step : WalkStep α}
    {next : α → WalkStep β}
    (first : Brief count step)
    (second : ∀ value, Brief later (next value)) :
    Brief (later + count) (step >>= next) := by
  intro walker
  rw [Walker.perform_bind]
  apply (first walker).bind
  rintro ⟨_ | value, after⟩
  · exact .finish _
  · exact second value after

theorem attempt
    {step : WalkStep α}
    (brief : Brief count step) :
    Brief count step.attempt := by
  intro walker
  rw [Walker.perform_attempt, ← Nat.zero_add count]
  apply (brief walker).bind
  rintro ⟨(_ | _) | _, after⟩
  · exact .finish _
  · exact .finish _
  · exact .finish _

theorem tell (entry : WalkNote) : Brief 0 (WalkStep.tell entry) :=
  fun _ => .note entry (.finish _)

theorem remember (selection : Selection) : Brief 0 (WalkStep.remember selection) :=
  fun _ => .finish _

theorem rest (length : Duration) : Brief 1 (WalkStep.act (.rest length)) :=
  fun _ => .pause length (.finish _)

end WalkStep.Brief

/-! ## Quiet steps -/

/-- Whether a note counts in the statistics. -/
def WalkNote.counts : WalkNote → Bool
  | .sample _ _ => true
  | .failure => true
  | _ => false

/-- The answered requests among some events. -/
def Activity.exchanges (events : List (Event Note)) : List (Url × Answer) :=
  events.filterMap Event.exchange?

@[simp] theorem Activity.exchanges_append (before after : List (Event Note)) :
    exchanges (before ++ after) = exchanges before ++ exchanges after :=
  List.filterMap_append

@[simp] theorem Activity.exchanges_noted (entry : Note) :
    exchanges [.noted entry] = [] := rfl

/-- The notes among some events. -/
def Activity.entries (events : List (Event Note)) : List Note :=
  events.filterMap Event.note?

@[simp] theorem Activity.entries_append (before after : List (Event Note)) :
    entries (before ++ after) = entries before ++ entries after :=
  List.filterMap_append

/-- A walker has left nothing in the statistics and chosen no stop. -/
structure Unnoticed
    (walker : Walker)
    (events : List (Event WalkNote))
    (after : Walker) : Prop where
  entries : ∀ entry ∈ entries events, entry.counts = false
  selections : ∃ later, after.selections = walker.selections ++ later ∧
    ∀ selection ∈ later, selection.kind ≠ .stop

namespace Unnoticed

theorem nil
    {walker after : Walker}
    (same : after.selections = walker.selections) :
    Unnoticed walker [] after :=
  ⟨by simp [Activity.entries], [], by rw [same, List.append_nil], nofun⟩

theorem trans
    {walker middle after : Walker}
    (first : Unnoticed walker before middle)
    (second : Unnoticed middle later after) :
    Unnoticed walker (before ++ later) after := by
  constructor
  · intro entry present
    rw [entries_append] at present
    rcases List.mem_append.mp present with present | present
    · exact first.entries entry present
    · exact second.entries entry present
  · obtain ⟨early, earlyEq, earlyKind⟩ := first.selections
    obtain ⟨late, lateEq, lateKind⟩ := second.selections
    refine ⟨early ++ late, by rw [lateEq, earlyEq, List.append_assoc], ?_⟩
    intro selection present
    rcases List.mem_append.mp present with present | present
    · exact earlyKind selection present
    · exact lateKind selection present

end Unnoticed

/-- A step that goes unnoticed.  It sends at most so many requests, makes no pauses,
and has sent exactly as many if it succeeds. -/
structure WalkStep.Quiet (requests : Nat) (step : WalkStep α) : Prop where
  brief : Brief requests step
  unnoticed {walker after : Walker}
    (yields : Yields (walker.perform step) events (result, after)) :
    Unnoticed walker events after
  exact {walker after : Walker}
    (yields : Yields (walker.perform step) events (.ok value, after)) :
    (exchanges events).length = requests

namespace WalkStep.Quiet

/-- A quiet step sends no more requests than if it succeeded. -/
theorem few
    {step : WalkStep α}
    {walker after : Walker}
    (quiet : Quiet requests step)
    (yields : Yields (walker.perform step) events (result, after)) :
    (exchanges events).length ≤ requests := by
  refine Nat.le_trans ?_ ((quiet.brief walker).countP_le yields)
  rw [exchanges, List.length_filterMap_eq_countP]
  apply List.countP_mono_left
  intro event _ exchanged
  cases event with
  | exchanged | rested => rfl
  | noted => cases exchanged

/-- A step that comes to its end at once, without a stop being chosen, is quiet. -/
theorem of_finish
    {step : WalkStep α}
    (instant : ∀ walker : Walker, ∃ result after,
      walker.perform step = .finish (result, after) ∧
      after.selections = walker.selections) :
    Quiet 0 step where
  brief walker := by
    obtain ⟨result, after, same, _⟩ := instant walker
    rw [same]
    exact .finish _
  unnoticed {events result walker after} yields := by
    obtain ⟨_, _, same, kept⟩ := instant walker
    rw [same, yields_finish] at yields
    obtain ⟨rfl, ended⟩ := yields
    cases ended
    exact .nil kept
  exact {events value walker after} yields := by
    obtain ⟨_, _, same, _⟩ := instant walker
    rw [same, yields_finish] at yields
    rw [yields.1]
    rfl

theorem pure (value : α) : Quiet 0 (Pure.pure value : WalkStep α) :=
  .of_finish fun walker => ⟨_, walker, walker.perform_pure value, rfl⟩

theorem get : Quiet 0 (MonadState.get : WalkStep Walker) :=
  .of_finish fun walker => ⟨_, walker, walker.perform_get, rfl⟩

theorem orFault (result : Except Fault α) : Quiet 0 (WalkStep.orFault result) :=
  .of_finish fun walker => ⟨_, walker, walker.perform_orFault result, rfl⟩

theorem draw (choice : Draw α) : Quiet 0 (WalkStep.draw choice) :=
  .of_finish fun walker => ⟨_, _, walker.perform_draw choice, rfl⟩

/-- A step that throws a mishap succeeds with no number of requests. -/
theorem throw (requests : Nat) (mishap : Mishap WalkError) :
    Quiet requests (MonadExcept.throw mishap : WalkStep α) where
  brief walker := .finish _
  unnoticed yields := by
    rw [Walker.perform_throw, yields_finish] at yields
    obtain ⟨rfl, ended⟩ := yields
    cases ended
    exact .nil rfl
  exact yields := by
    rw [Walker.perform_throw, yields_finish] at yields
    cases yields.2

theorem fail (requests : Nat) (error : WalkError) :
    Quiet requests (WalkStep.fail error : WalkStep α) :=
  .throw requests (.error error)

theorem tell
    {entry : WalkNote}
    (uncounted : entry.counts = false) :
    Quiet 0 (WalkStep.tell entry) where
  brief := .tell entry
  unnoticed yields := by
    rw [Walker.perform_tell, yields_note] at yields
    obtain ⟨_, rfl, yields⟩ := yields
    rw [yields_finish] at yields
    obtain ⟨rfl, ended⟩ := yields
    cases ended
    exact ⟨by simpa [Activity.entries] using uncounted, [], by simp, nofun⟩
  exact yields := by
    rw [Walker.perform_tell, yields_note] at yields
    obtain ⟨_, rfl, yields⟩ := yields
    rw [yields_finish] at yields
    rw [yields.1]
    rfl

theorem remember
    {selection : Selection}
    (elsewhere : selection.kind ≠ .stop) :
    Quiet 0 (WalkStep.remember selection) where
  brief := .remember selection
  unnoticed yields := by
    rw [Walker.perform_remember, yields_finish] at yields
    obtain ⟨rfl, ended⟩ := yields
    cases ended
    exact ⟨by simp [Activity.entries], [selection], rfl, by simpa using elsewhere⟩
  exact yields := by
    rw [Walker.perform_remember, yields_finish] at yields
    rw [yields.1]
    rfl

theorem bind
    {step : WalkStep α}
    {next : α → WalkStep β}
    (first : Quiet requests step)
    (second : ∀ value, Quiet later (next value)) :
    Quiet (later + requests) (step >>= next) where
  brief := first.brief.bind fun value => (second value).brief
  unnoticed yields := by
    rcases Walker.yields_perform_bind.mp yields with
      ⟨_, _, failed⟩ | ⟨_, _, value, _, rfl, succeeded, later⟩
    · exact first.unnoticed failed
    · exact (first.unnoticed succeeded).trans ((second value).unnoticed later)
  exact yields := by
    rcases Walker.yields_perform_bind.mp yields with
      ⟨_, impossible, _⟩ | ⟨_, _, value, _, rfl, succeeded, later⟩
    · cases impossible
    · rw [exchanges_append, List.length_append, first.exact succeeded,
        (second value).exact later, Nat.add_comm]

theorem resolve
    (itinerary : Itinerary)
    (kind : ResourceKind)
    (href : String) :
    Quiet 0 (WalkStep.resolve itinerary kind href) := by
  unfold WalkStep.resolve
  split
  · exact .pure _
  · exact .fail 0 _

/-- Fetching a document takes one request. -/
theorem fetched
    (kind : ResourceKind)
    (url : Url)
    (α : Type)
    [Document α] :
    Quiet 1 (WalkStep.fetched kind url α) where
  brief walker := by
    rw [Walker.perform_fetched]
    exact .request url fun answer => .finish _
  unnoticed {events result walker after} yields := by
    rw [Walker.perform_fetched, yields_request] at yields
    obtain ⟨answer, later, rfl, yields⟩ := yields
    rw [yields_finish] at yields
    obtain ⟨rfl, ended⟩ := yields
    have kept : after.selections = walker.selections := by
      split at ended <;> cases ended <;> rfl
    exact ⟨by simp [Activity.entries], [], by rw [kept, List.append_nil], nofun⟩
  exact yields := by
    rw [Walker.perform_fetched, yields_request] at yields
    obtain ⟨answer, later, rfl, yields⟩ := yields
    rw [yields_finish] at yields
    rw [yields.1]
    rfl

theorem document
    (kind : ResourceKind)
    (url : Url)
    (α : Type)
    [Document α] :
    Quiet 1 (WalkStep.document kind url α) := by
  unfold WalkStep.document
  refine Quiet.bind .get fun walker => ?_
  refine Quiet.bind (.tell rfl) fun _ => ?_
  exact (Quiet.fetched kind url α).bind fun _ => .pure _

theorem choose
    (elsewhere : kind ≠ .stop)
    (resources : List α)
    (url : Url) :
    Quiet 0 (WalkStep.choose kind resources url) := by
  unfold WalkStep.choose
  have chosen : Quiet 0 (do
      let index ← WalkStep.draw (Draw.index resources.length)
      WalkStep.remember ⟨kind, index⟩
      WalkStep.orFault (Draw.element resources index)) := by
    refine Quiet.bind (.draw _) fun index => ?_
    exact Quiet.bind (.remember elsewhere) fun _ => .orFault _
  simp only
  split_ifs
  · exact Quiet.bind (.fail 0 _) fun _ => chosen
  · exact chosen

theorem fromStart (itinerary : Itinerary) : Quiet 3 (WalkStep.fromStart itinerary) := by
  unfold WalkStep.fromStart
  refine (Quiet.document ..).bind fun root => ?_
  refine (Quiet.resolve ..).bind fun systemsUrl => ?_
  refine (Quiet.document ..).bind fun systems => ?_
  refine (Quiet.choose (by decide) ..).bind fun summary => ?_
  refine (Quiet.resolve ..).bind fun systemUrl => ?_
  exact (Quiet.document ..).bind fun system => .pure _

theorem fromSystem (itinerary : Itinerary) (system : System) :
    Quiet 2 (WalkStep.fromSystem itinerary system) := by
  unfold WalkStep.fromSystem
  refine (Quiet.resolve ..).bind fun routesUrl => ?_
  refine (Quiet.document ..).bind fun routes => ?_
  refine (Quiet.choose (by decide) ..).bind fun summary => ?_
  refine (Quiet.resolve ..).bind fun routeUrl => ?_
  exact (Quiet.document ..).bind fun route => .pure _

end WalkStep.Quiet

/-! ## Brief walks -/

namespace WalkStep

theorem brief_fetchStop (itinerary : Itinerary) (href : String) :
    Brief 1 (fetchStop itinerary href) :=
  (Quiet.resolve ..).brief.bind fun url => (Quiet.fetched .stop url Stop).brief

theorem brief_fromRoute (itinerary : Itinerary) (route : Route) :
    Brief 1 (fromRoute itinerary route) := by
  unfold fromRoute
  refine (Quiet.draw _).brief.bind fun map => ?_
  cases map with
  | none =>
      refine Brief.mono ?_ (Nat.zero_le 1)
      refine Quiet.get.brief.bind fun walker => ?_
      exact (Brief.tell _).bind fun _ => (Quiet.pure _).brief
  | some map =>
      refine (Quiet.orFault _).brief.bind fun serviceMap => ?_
      refine (Quiet.draw _).brief.bind fun index => ?_
      refine (Brief.remember _).bind fun _ => ?_
      refine (Quiet.orFault _).brief.bind fun summary => ?_
      refine (brief_fetchStop itinerary summary.href).attempt.bind fun fetched => ?_
      cases fetched with
      | error error => exact (Brief.tell _).bind fun _ => (Quiet.fail 0 error).brief
      | ok fetched => exact (Brief.tell _).bind fun _ => (Quiet.pure _).brief

/-- No transition waits more than three times. -/
theorem brief_transition (itinerary : Itinerary) (state : WalkState) :
    Brief 3 (transition itinerary state) := by
  cases state with
  | start => exact (Quiet.fromStart itinerary).brief
  | system system => exact (Quiet.fromSystem itinerary system).brief.mono (by omega)
  | route route => exact (brief_fromRoute itinerary route).mono (by omega)
  | stop stop => exact (Quiet.pure _).brief.mono (by omega)
  | atEnd =>
      refine Brief.mono ?_ (Nat.zero_le 3)
      exact Quiet.get.brief.bind fun walker => (Quiet.throw 0 _).brief

/-- With the pause after it, a step of a walk waits no more than four times. -/
theorem brief_walkOn (itinerary : Itinerary) (steps : Nat) (state : WalkState) :
    Brief (4 * steps) (walkOn itinerary steps state) := by
  induction steps generalizing state with
  | zero => exact (Quiet.pure _).brief
  | succ steps hypothesis =>
      have count : 4 * (steps + 1) = 4 * steps + 1 + 3 := by omega
      rw [count]
      refine (brief_transition itinerary state).attempt.bind fun next => ?_
      cases next with
      | error error =>
          refine Brief.mono ?_ (Nat.zero_le _)
          refine Quiet.get.brief.bind fun walker => ?_
          exact (Brief.tell _).bind fun _ => (Quiet.pure _).brief
      | ok next =>
          refine Quiet.get.brief.bind fun walker => ?_
          refine (Brief.tell _).bind fun _ => ?_
          split_ifs
          · exact (Quiet.pure _).brief.mono (Nat.zero_le _)
          · refine (Quiet.draw _).brief.bind fun pause => ?_
            exact (Brief.rest pause).bind fun _ => hypothesis next

end WalkStep

/-- No walk waits more than sixteen times. -/
theorem Walker.walk_waitsAtMost (itinerary : Itinerary) (walker : Walker) :
    WaitsAtMost 16 (walker.walk itinerary) := by
  have brief := WalkStep.brief_walkOn itinerary WalkStep.longestWalk .start walker
  apply (brief.bind _).mono (Nat.le_refl 16)
  rintro ⟨(_ | _) | _, after⟩
  · exact .finish _
  · exact .finish _
  · exact .finish _

end TransitLoad
