import Mathlib.Algebra.GroupWithZero.Nat
import Mathlib.Tactic.SplitIfs
import TransitLoad.Activity

/-!
# Passages through an activity

What happens in the course of an activity is a list of events: answered requests,
pauses, and notes.  An activity leads through its events to what is left of it, and
yields a result once nothing is left.  Doing one activity after another puts their
events one after another.
-/

namespace TransitLoad

/-- A wait is not longer when it is measured again. -/
theorem Duration.waitMilliseconds_ofMilliseconds (duration : Duration) :
    (ofMilliseconds duration.waitMilliseconds).waitMilliseconds =
      duration.waitMilliseconds := by
  simp only [waitMilliseconds, ofMilliseconds]
  omega

/-- How an API answers a request: after its latency, rounded up to milliseconds. -/
def Api.answer (api : Api) (place : Nat) (url : Url) : Answer :=
  ⟨.ofMilliseconds (api place url).latency.waitMilliseconds, (api place url).reply⟩

theorem Api.IsFixed.answer_eq
    {api : Api}
    (fixed : api.IsFixed)
    (place other : Nat)
    (url : Url) :
    api.answer place url = api.answer other url := by
  simp only [answer, fixed place other url]

namespace Activity

/-- Something that happens in the course of an activity. -/
inductive Event (Note : Type) where
  /-- A request is answered. -/
  | exchanged (url : Url) (answer : Answer)
  /-- Some time passes. -/
  | rested (length : Duration)
  /-- Something is noted. -/
  | noted (entry : Note)
  deriving DecidableEq

namespace Event

/-- How many milliseconds of the clock an event takes. -/
def wait : Event Note → Nat
  | .exchanged _ answer => answer.elapsed.waitMilliseconds
  | .rested length => length.waitMilliseconds
  | .noted _ => 0

/-- The answered request of an event, if it is one. -/
def exchange? : Event Note → Option (Url × Answer)
  | .exchanged url answer => some (url, answer)
  | _ => none

/-- The note of an event, if it is one. -/
def note? : Event Note → Option Note
  | .noted entry => some entry
  | _ => none

@[simp] theorem exchange?_exchanged (url : Url) (answer : Answer) :
    (exchanged url answer : Event Note).exchange? = some (url, answer) := rfl

@[simp] theorem exchange?_rested (length : Duration) :
    (rested length : Event Note).exchange? = none := rfl

@[simp] theorem exchange?_noted (entry : Note) : (noted entry).exchange? = none := rfl

@[simp] theorem note?_exchanged (url : Url) (answer : Answer) :
    (exchanged url answer : Event Note).note? = none := rfl

@[simp] theorem note?_rested (length : Duration) :
    (rested length : Event Note).note? = none := rfl

@[simp] theorem note?_noted (entry : Note) : (noted entry).note? = some entry := rfl

/-- How many milliseconds of the clock some events take, one after another. -/
def span (events : List (Event Note)) : Nat := (events.map wait).sum

@[simp] theorem span_nil : span ([] : List (Event Note)) = 0 := rfl

@[simp] theorem span_cons (event : Event Note) (events : List (Event Note)) :
    span (event :: events) = event.wait + span events := by
  simp [span]

end Event

/-- What is left of an activity after some events. -/
inductive Leads : Activity Note α → List (Event Note) → Activity Note α → Prop where
  | here (activity : Activity Note α) : Leads activity [] activity
  | exchanged
      (url : Url)
      (answer : Answer)
      (passage : Leads (resume answer) events remainder) :
      Leads (.request url resume) (.exchanged url answer :: events) remainder
  | rested
      (length : Duration)
      (passage : Leads resume events remainder) :
      Leads (.pause length resume) (.rested length :: events) remainder
  | noted
      (entry : Note)
      (passage : Leads resume events remainder) :
      Leads (.note entry resume) (.noted entry :: events) remainder

/-- Passages can be put together. -/
theorem Leads.trans
    {first middle last : Activity Note α}
    (before : Leads first events middle)
    (after : Leads middle events' last) :
    Leads first (events ++ events') last := by
  induction before with
  | here activity => exact after
  | exchanged url answer _ hypothesis => exact .exchanged url answer (hypothesis after)
  | rested length _ hypothesis => exact .rested length (hypothesis after)
  | noted entry _ hypothesis => exact .noted entry (hypothesis after)

/-- An activity comes to its end in a result. -/
def Yields (activity : Activity Note α) (events : List (Event Note)) (result : α) : Prop :=
  Leads activity events (.finish result)

@[simp] theorem yields_finish :
    Yields (.finish value : Activity Note α) events result ↔
      events = [] ∧ result = value := by
  constructor
  · rintro ⟨⟩
    exact ⟨rfl, rfl⟩
  · rintro ⟨rfl, rfl⟩
    exact .here _

@[simp] theorem yields_request :
    Yields (.request url resume : Activity Note α) events result ↔
      ∃ answer later, events = .exchanged url answer :: later ∧
        Yields (resume answer) later result := by
  constructor
  · intro yields
    cases yields with
    | exchanged url answer passage => exact ⟨answer, _, rfl, passage⟩
  · rintro ⟨answer, later, rfl, yields⟩
    exact .exchanged url answer yields

@[simp] theorem yields_pause :
    Yields (.pause length resume : Activity Note α) events result ↔
      ∃ later, events = .rested length :: later ∧ Yields resume later result := by
  constructor
  · intro yields
    cases yields with
    | rested length passage => exact ⟨_, rfl, passage⟩
  · rintro ⟨later, rfl, yields⟩
    exact .rested length yields

@[simp] theorem yields_note :
    Yields (.note entry resume : Activity Note α) events result ↔
      ∃ later, events = .noted entry :: later ∧ Yields resume later result := by
  constructor
  · intro yields
    cases yields with
    | noted entry passage => exact ⟨_, rfl, passage⟩
  · rintro ⟨later, rfl, yields⟩
    exact .noted entry yields

/-- What two activities yield, one done after the other. -/
theorem yields_bind
    (first : Activity Note α)
    (next : α → Activity Note β) :
    Yields (first >>= next) events result ↔
      ∃ before after value, events = before ++ after ∧
        Yields first before value ∧ Yields (next value) after result := by
  induction first generalizing events with
  | finish value =>
      simp only [finish_bind, yields_finish]
      constructor
      · intro yields
        exact ⟨[], events, value, rfl, ⟨rfl, rfl⟩, yields⟩
      · rintro ⟨_, after, _, rfl, ⟨rfl, rfl⟩, yields⟩
        exact yields
  | request url resume hypothesis =>
      simp only [request_bind, yields_request, hypothesis]
      constructor
      · rintro ⟨answer, _, rfl, before, after, value, rfl, yields, next⟩
        exact ⟨_, after, value, rfl, ⟨answer, before, rfl, yields⟩, next⟩
      · rintro ⟨_, after, value, rfl, ⟨answer, before, rfl, yields⟩, next⟩
        exact ⟨answer, _, rfl, before, after, value, rfl, yields, next⟩
  | pause length resume hypothesis =>
      simp only [pause_bind, yields_pause, hypothesis]
      constructor
      · rintro ⟨_, rfl, before, after, value, rfl, yields, next⟩
        exact ⟨_, after, value, rfl, ⟨before, rfl, yields⟩, next⟩
      · rintro ⟨_, after, value, rfl, ⟨before, rfl, yields⟩, next⟩
        exact ⟨_, rfl, before, after, value, rfl, yields, next⟩
  | note entry resume hypothesis =>
      simp only [note_bind, yields_note, hypothesis]
      constructor
      · rintro ⟨_, rfl, before, after, value, rfl, yields, next⟩
        exact ⟨_, after, value, rfl, ⟨before, rfl, yields⟩, next⟩
      · rintro ⟨_, after, value, rfl, ⟨before, rfl, yields⟩, next⟩
        exact ⟨_, rfl, before, after, value, rfl, yields, next⟩

/-- An activity can be followed by anything that is the same after the results that it may
yield. -/
theorem bind_congr_of_yields
    {first : Activity Note α}
    {next next' : α → Activity Note β}
    (same : ∀ events result, Yields first events result → next result = next' result) :
    first >>= next = first >>= next' := by
  induction first with
  | finish result => exact same [] result (.here _)
  | request url resume hypothesis =>
      rw [request_bind, request_bind]
      refine congrArg (request url) (funext fun answer => ?_)
      exact hypothesis answer fun events result yields =>
        same _ result (.exchanged url answer yields)
  | pause length resume hypothesis =>
      rw [pause_bind, pause_bind, hypothesis fun events result yields =>
        same _ result (.rested length yields)]
  | note entry resume hypothesis =>
      rw [note_bind, note_bind, hypothesis fun events result yields =>
        same _ result (.noted entry yields)]

/-! ## Bounded waiting -/

/-- An activity sends no more requests and makes no more pauses than so many, whatever
is answered. -/
inductive WaitsAtMost : Nat → Activity Note α → Prop where
  | finish (result : α) : WaitsAtMost count (.finish result)
  | request
      (url : Url)
      (later : ∀ answer, WaitsAtMost count (resume answer)) :
      WaitsAtMost (count + 1) (.request url resume)
  | pause
      (length : Duration)
      (later : WaitsAtMost count resume) :
      WaitsAtMost (count + 1) (.pause length resume)
  | note
      (entry : Note)
      (later : WaitsAtMost count resume) :
      WaitsAtMost count (.note entry resume)

theorem WaitsAtMost.mono
    {activity : Activity Note α}
    (bounded : WaitsAtMost count activity)
    (le : count ≤ more) :
    WaitsAtMost more activity := by
  induction bounded generalizing more with
  | finish result => exact .finish result
  | request url _ hypothesis =>
      obtain ⟨more, rfl⟩ := Nat.exists_eq_add_of_le' (Nat.le_of_add_left_le le)
      exact .request url fun answer => hypothesis answer (by omega)
  | pause length _ hypothesis =>
      obtain ⟨more, rfl⟩ := Nat.exists_eq_add_of_le' (Nat.le_of_add_left_le le)
      exact .pause length (hypothesis (by omega))
  | note entry _ hypothesis => exact .note entry (hypothesis le)

theorem WaitsAtMost.bind
    {first : Activity Note α}
    {next : α → Activity Note β}
    (bounded : WaitsAtMost count first)
    (nextBounded : ∀ value, WaitsAtMost later (next value)) :
    WaitsAtMost (later + count) (first >>= next) := by
  induction bounded with
  | finish result => exact (nextBounded result).mono (Nat.le_add_right _ _)
  | request url _ hypothesis => exact .request url fun answer => hypothesis answer nextBounded
  | pause length _ hypothesis => exact .pause length (hypothesis nextBounded)
  | note entry _ hypothesis => exact .note entry (hypothesis nextBounded)

/-- The requests and pauses of a passage are among those that the activity may make. -/
theorem WaitsAtMost.countP_le
    {activity remainder : Activity Note α}
    (bounded : WaitsAtMost count activity)
    (passage : Leads activity events remainder) :
    events.countP (fun event => event.note?.isNone) ≤ count := by
  induction passage generalizing count with
  | here => exact Nat.zero_le _
  | exchanged url answer _ hypothesis =>
      cases bounded with
      | request _ later =>
          rw [List.countP_cons_of_pos rfl]
          exact Nat.succ_le_succ (hypothesis (later answer))
  | rested length _ hypothesis =>
      cases bounded with
      | pause _ later =>
          rw [List.countP_cons_of_pos rfl]
          exact Nat.succ_le_succ (hypothesis later)
  | noted entry _ hypothesis =>
      cases bounded with
      | note _ later =>
          rw [List.countP_cons_of_neg (by simp)]
          exact hypothesis later

/-! ## While the clock stands -/

/-- What happens in an activity until it has to wait or is over, its next request
being the one at some place. -/
def stretch (api : Api) : Activity Note α → Nat → List (Event Note)
  | .finish _, _ => []
  | .request url resume, place =>
      .exchanged url (api.answer place url) ::
        if (api place url).latency.waitMilliseconds = 0 then
          (resume (api.answer place url)).stretch api (place + 1)
        else []
  | .pause length resume, place =>
      .rested length ::
        if length.waitMilliseconds = 0 then resume.stretch api place else []
  | .note entry resume, place => .noted entry :: resume.stretch api place

/-- All answers in some events are those of an API. -/
def AnsweredBy (api : Api) (events : List (Event Note)) : Prop :=
  ∀ url answer, .exchanged url answer ∈ events → ∃ place, answer = api.answer place url

theorem wait_answer (api : Api) (place : Nat) (url : Url) :
    (api.answer place url).elapsed.waitMilliseconds =
      (api place url).latency.waitMilliseconds :=
  Duration.waitMilliseconds_ofMilliseconds _

theorem answeredBy_nil (api : Api) : AnsweredBy api ([] : List (Event Note)) := by
  simp [AnsweredBy]

theorem AnsweredBy.of_cons
    {events : List (Event Note)}
    (answered : AnsweredBy api (event :: events)) :
    AnsweredBy api events :=
  fun url answer present => answered url answer (List.mem_cons_of_mem _ present)

theorem AnsweredBy.append
    {before after : List (Event Note)}
    (first : AnsweredBy api before)
    (second : AnsweredBy api after) :
    AnsweredBy api (before ++ after) := by
  intro url answer present
  rcases List.mem_append.mp present with present | present
  · exact first url answer present
  · exact second url answer present

theorem stretch_answeredBy
    (activity : Activity Note α)
    (api : Api)
    (place : Nat) :
    AnsweredBy api (activity.stretch api place) := by
  induction activity generalizing place with
  | finish result => exact answeredBy_nil api
  | request url resume hypothesis =>
      intro other answer present
      simp only [stretch, List.mem_cons] at present
      rcases present with same | present
      · cases same
        exact ⟨place, rfl⟩
      · split_ifs at present
        · exact hypothesis _ _ other answer present
        · simp at present
  | pause length resume hypothesis =>
      intro other answer present
      simp only [stretch, List.mem_cons, reduceCtorEq, false_or] at present
      split_ifs at present
      · exact hypothesis _ other answer present
      · simp at present
  | note entry resume hypothesis =>
      intro other answer present
      simp only [stretch, List.mem_cons, reduceCtorEq, false_or] at present
      exact hypothesis _ other answer present

/-! ## Waits -/

/-- The latencies of the requests and the lengths of the pauses of an activity before
an API that answers by the URL alone. -/
def waits (api : Api) : Activity Note α → List Duration
  | .finish _ => []
  | .request url resume => (api 0 url).latency :: (resume (api.answer 0 url)).waits api
  | .pause length resume => length :: resume.waits api
  | .note _ resume => resume.waits api

/-- What has been waited in a passage and what is left to wait are the waits of the
activity. -/
theorem Leads.span_add_waits
    {activity remainder : Activity Note α}
    {api : Api}
    (fixed : api.IsFixed)
    (passage : Leads activity events remainder)
    (answered : AnsweredBy api events) :
    Event.span events + ((remainder.waits api).map Duration.waitMilliseconds).sum =
      ((activity.waits api).map Duration.waitMilliseconds).sum := by
  induction passage with
  | here activity => rw [Event.span_nil, Nat.zero_add]
  | exchanged url answer _ hypothesis =>
      obtain ⟨place, rfl⟩ := answered url answer (List.mem_cons_self ..)
      have later := hypothesis answered.of_cons
      rw [Event.span_cons, Event.wait, wait_answer, fixed place 0 url, waits, List.map_cons,
        List.sum_cons, ← fixed.answer_eq place 0 url, ← later, Nat.add_assoc]
  | rested length _ hypothesis =>
      have later := hypothesis answered.of_cons
      rw [Event.span_cons, Event.wait, waits, List.map_cons, List.sum_cons, ← later,
        Nat.add_assoc]
  | noted entry _ hypothesis =>
      have later := hypothesis answered.of_cons
      rw [Event.span_cons, Event.wait, Nat.zero_add, waits, later]

end Activity
end TransitLoad
