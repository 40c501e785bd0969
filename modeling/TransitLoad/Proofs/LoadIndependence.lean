import TransitLoad.Proofs.Delays
import TransitLoad.Proofs.Steps
import TransitLoad.Proofs.Timelines

/-!
# Independence of load and timing

How a walk ends depends on its seed and on the replies of the API to its URLs, and on
nothing else: neither on latencies and pauses nor on other walkers.  Two steps agree if
they end alike whenever both are given the same replies, however long these take.
-/

namespace TransitLoad

open Activity

/-- All answers among some events bring the replies that belong to their URLs. -/
def Activity.Replied (replies : Url → Reply) (events : List (Event Note)) : Prop :=
  ∀ url answer, .exchanged url answer ∈ events → answer.reply = replies url

theorem Activity.Replied.of_append
    {before after : List (Event Note)}
    (replied : Replied replies (before ++ after)) :
    Replied replies before ∧ Replied replies after :=
  ⟨fun url answer present => replied url answer (List.mem_append_left _ present),
    fun url answer present => replied url answer (List.mem_append_right _ present)⟩

theorem Activity.Replied.of_cons
    {event : Event Note}
    {events : List (Event Note)}
    (replied : Replied replies (event :: events)) :
    Replied replies events :=
  fun url answer present => replied url answer (List.mem_cons_of_mem _ present)

/-- Two activities end alike whenever they are given the same replies. -/
structure Activity.Agree
    (replies : Url → Reply)
    (alike : α → β → Prop)
    (first : Activity Note α)
    (second : Activity Note β) : Prop where
  ends
    (replied : Replied replies events)
    (replied' : Replied replies events')
    (yields : Yields first events result)
    (yields' : Yields second events' result') :
    alike result result'

namespace Activity.Agree

theorem finish
    {result : α}
    {result' : β}
    (same : alike result result') :
    Agree replies alike (.finish result : Activity Note α)
      (.finish result' : Activity Note β) := by
  constructor
  intro events events' value value' _ _ yields yields'
  rw [(yields_finish.mp yields).2, (yields_finish.mp yields').2]
  exact same

theorem note
    {first : Activity Note α}
    {second : Activity Note β}
    (entry entry' : Note)
    (agree : Agree replies alike first second) :
    Agree replies alike (.note entry first) (.note entry' second) := by
  constructor
  intro events events' value value' replied replied' yields yields'
  obtain ⟨later, rfl, goesOn⟩ := yields_note.mp yields
  obtain ⟨later', rfl, goesOn'⟩ := yields_note.mp yields'
  exact agree.ends replied.of_cons replied'.of_cons goesOn goesOn'

theorem pause
    {first : Activity Note α}
    {second : Activity Note β}
    (length length' : Duration)
    (agree : Agree replies alike first second) :
    Agree replies alike (.pause length first) (.pause length' second) := by
  constructor
  intro events events' value value' replied replied' yields yields'
  obtain ⟨later, rfl, goesOn⟩ := yields_pause.mp yields
  obtain ⟨later', rfl, goesOn'⟩ := yields_pause.mp yields'
  exact agree.ends replied.of_cons replied'.of_cons goesOn goesOn'

/-- A request agrees with itself if what follows the reply does. -/
theorem request
    {first : Answer → Activity Note α}
    {second : Answer → Activity Note β}
    (url : Url)
    (agree : ∀ elapsed elapsed' reply,
      Agree replies alike (first ⟨elapsed, reply⟩) (second ⟨elapsed', reply⟩)) :
    Agree replies alike (.request url first) (.request url second) := by
  constructor
  intro events events' value value' replied replied' yields yields'
  obtain ⟨⟨elapsed, reply⟩, later, rfl, goesOn⟩ := yields_request.mp yields
  obtain ⟨⟨elapsed', reply'⟩, later', rfl, goesOn'⟩ := yields_request.mp yields'
  obtain rfl : reply = replies url := replied url _ (List.mem_cons_self ..)
  obtain rfl : reply' = replies url := replied' url _ (List.mem_cons_self ..)
  exact (agree elapsed elapsed' _).ends replied.of_cons replied'.of_cons goesOn goesOn'

theorem bind
    {first : Activity Note α}
    {second : Activity Note β}
    {next : α → Activity Note γ}
    {next' : β → Activity Note δ}
    (agree : Agree replies alike first second)
    (later : ∀ value value', alike value value' →
      Agree replies alike' (next value) (next' value')) :
    Agree replies alike' (first >>= next) (second >>= next') := by
  constructor
  intro events events' result result' replied replied' yields yields'
  obtain ⟨before, after, value, rfl, yields, goesOn⟩ := (yields_bind first next).mp yields
  obtain ⟨before', after', value', rfl, yields', goesOn'⟩ :=
    (yields_bind second next').mp yields'
  have same := agree.ends replied.of_append.1 replied'.of_append.1 yields yields'
  exact (later value value' same).ends replied.of_append.2 replied'.of_append.2
    goesOn goesOn'

end Activity.Agree

/-! ## Steps -/

/-- Two steps end alike: in values that are alike or in the same mishap, and in the same
walker. -/
inductive EndAlike (alike : α → β → Prop) :
    Except (Mishap WalkError) α × Walker → Except (Mishap WalkError) β × Walker → Prop where
  | ok (walker : Walker) (same : alike value value') :
      EndAlike alike (.ok value, walker) (.ok value', walker)
  | error (walker : Walker) (mishap : Mishap WalkError) :
      EndAlike alike (.error mishap, walker) (.error mishap, walker)

namespace WalkStep

/-- Two steps agree if every walker performs them alike. -/
structure Agree
    (replies : Url → Reply)
    (alike : α → β → Prop)
    (first : WalkStep α)
    (second : WalkStep β) : Prop where
  performed (walker : Walker) :
    Activity.Agree replies (EndAlike alike) (walker.perform first) (walker.perform second)

namespace Agree

theorem bind
    {first : WalkStep α}
    {second : WalkStep β}
    {next : α → WalkStep γ}
    {next' : β → WalkStep δ}
    (agree : Agree replies alike first second)
    (later : ∀ value value', alike value value' →
      Agree replies alike' (next value) (next' value')) :
    Agree replies alike' (first >>= next) (second >>= next') := by
  constructor
  intro walker
  rw [Walker.perform_bind, Walker.perform_bind]
  apply (agree.performed walker).bind
  rintro _ _ (⟨after, same⟩ | ⟨after, mishap⟩)
  · exact (later _ _ same).performed after
  · exact .finish (.error after mishap)

/-- A step that agrees with itself, before two others that agree. -/
theorem bindSame
    {step : WalkStep α}
    {next : α → WalkStep γ}
    {next' : α → WalkStep δ}
    (agree : Agree replies Eq step step)
    (later : ∀ value, Agree replies alike' (next value) (next' value)) :
    Agree replies alike' (step >>= next) (step >>= next') := by
  apply agree.bind
  rintro value _ rfl
  exact later value

theorem pure
    {value : α}
    {value' : β}
    (same : alike value value') :
    Agree replies alike (Pure.pure value) (Pure.pure value') :=
  ⟨fun walker => .finish (.ok walker same)⟩

theorem throw
    {alike : α → β → Prop}
    (mishap : Mishap WalkError) :
    Agree replies alike (MonadExcept.throw mishap : WalkStep α)
      (MonadExcept.throw mishap : WalkStep β) :=
  ⟨fun walker => .finish (.error walker mishap)⟩

theorem fail
    {alike : α → β → Prop}
    (error : WalkError) :
    Agree replies alike (WalkStep.fail error : WalkStep α)
      (WalkStep.fail error : WalkStep β) :=
  .throw (.error error)

theorem get : Agree replies Eq MonadState.get MonadState.get :=
  ⟨fun walker => .finish (.ok walker rfl)⟩

theorem tell (entry entry' : WalkNote) :
    Agree replies Eq (WalkStep.tell entry) (WalkStep.tell entry') :=
  ⟨fun walker => .note entry entry' (.finish (.ok walker rfl))⟩

theorem remember (selection : Selection) :
    Agree replies Eq (WalkStep.remember selection) (WalkStep.remember selection) :=
  ⟨fun _ => .finish (.ok _ rfl)⟩

theorem orFault (found : Except Fault α) :
    Agree replies Eq (WalkStep.orFault found) (WalkStep.orFault found) := by
  cases found with
  | ok value => exact .pure rfl
  | error fault => exact .throw (.fault fault)

theorem draw (choice : Draw α) :
    Agree replies Eq (WalkStep.draw choice) (WalkStep.draw choice) := by
  constructor
  intro walker
  rw [Walker.perform_draw]
  apply Activity.Agree.finish
  cases (choice.from? walker.generator).1 with
  | ok value => exact .ok _ rfl
  | error fault => exact .error _ _

/-- Two pauses take the same words if both ranges have a spread or neither has. -/
theorem drawPause
    {first second : DelayRange}
    (representable : first.IsRepresentable)
    (representable' : second.IsRepresentable)
    (words : first.words = second.words) :
    Agree replies (fun _ _ => True) (WalkStep.draw first.sample)
      (WalkStep.draw second.sample) := by
  constructor
  intro walker
  rw [Walker.perform_draw, Walker.perform_draw, DelayRange.sample_eq_drawn representable,
    DelayRange.sample_eq_drawn representable', words]
  exact .finish (.ok _ trivial)

theorem rest (length length' : Duration) :
    Agree replies Eq (WalkStep.act (Activity.rest length))
      (WalkStep.act (Activity.rest length')) :=
  ⟨fun walker => .pause length length' (.finish (.ok walker rfl))⟩

theorem attempt
    {first : WalkStep α}
    {second : WalkStep β}
    (agree : Agree replies alike first second) :
    Agree replies
      (fun result result' =>
        (∃ value value', result = .ok value ∧ result' = .ok value' ∧ alike value value') ∨
        ∃ error, result = .error error ∧ result' = .error error)
      first.attempt second.attempt := by
  constructor
  intro walker
  rw [Walker.perform_attempt, Walker.perform_attempt]
  apply (agree.performed walker).bind
  rintro _ _ (⟨after, same⟩ | ⟨after, error | fault⟩)
  · exact .finish (.ok after (.inl ⟨_, _, rfl, rfl, same⟩))
  · exact .finish (.ok after (.inr ⟨error, rfl, rfl⟩))
  · exact .finish (.error after (.fault fault))

theorem resolve
    {first second : Itinerary}
    (baseUrl : first.baseUrl = second.baseUrl)
    (kind : ResourceKind)
    (href : String) :
    Agree replies Eq (WalkStep.resolve first kind href) (WalkStep.resolve second kind href) := by
  unfold WalkStep.resolve
  rw [baseUrl]
  split
  · exact .pure rfl
  · exact .fail _

/-- What is fetched is the same, though it may take longer. -/
theorem fetched
    (kind : ResourceKind)
    (url : Url)
    (α : Type)
    [Document α] :
    Agree replies (fun fetched fetched' => fetched.value = fetched'.value)
      (WalkStep.fetched kind url α) (WalkStep.fetched kind url α) := by
  constructor
  intro walker
  rw [Walker.perform_fetched]
  apply Activity.Agree.request
  intro elapsed elapsed' reply
  apply Activity.Agree.finish
  cases reply with
  | body bytes =>
      simp only [Answer.decoded]
      cases Document.decode α bytes with
      | ok value => exact .ok walker rfl
      | error error => exact .error walker _
  | status code => exact .error walker _
  | unreachable text => exact .error walker _
  | broken text => exact .error walker _

theorem document
    (kind : ResourceKind)
    (url : Url)
    (α : Type)
    [Document α] :
    Agree replies Eq (WalkStep.document kind url α) (WalkStep.document kind url α) := by
  unfold WalkStep.document
  refine .bindSame .get fun walker => ?_
  refine .bindSame (.tell _ _) fun _ => ?_
  exact (Agree.fetched kind url α).bind fun _ _ same => .pure same

theorem choose
    (kind : ResourceKind)
    (resources : List α)
    (url : Url) :
    Agree replies Eq (WalkStep.choose kind resources url)
      (WalkStep.choose kind resources url) := by
  unfold WalkStep.choose
  have chosen : Agree replies Eq
      (do
        let index ← WalkStep.draw (Draw.index resources.length)
        WalkStep.remember ⟨kind, index⟩
        WalkStep.orFault (Draw.element resources index))
      (do
        let index ← WalkStep.draw (Draw.index resources.length)
        WalkStep.remember ⟨kind, index⟩
        WalkStep.orFault (Draw.element resources index)) := by
    refine .bindSame (.draw _) fun index => ?_
    exact .bindSame (.remember _) fun _ => .orFault _
  simp only
  split_ifs
  · exact .bindSame (.fail _) fun _ => chosen
  · exact chosen

/-! ## Walks -/

section

variable {first second : Itinerary}

theorem fromStart
    (baseUrl : first.baseUrl = second.baseUrl) :
    Agree replies Eq (WalkStep.fromStart first) (WalkStep.fromStart second) := by
  unfold WalkStep.fromStart
  rw [baseUrl]
  refine .bindSame (.document ..) fun root => ?_
  refine (Agree.resolve baseUrl ..).bind fun systemsUrl _ same => ?_
  cases same
  refine .bindSame (.document ..) fun systems => ?_
  refine .bindSame (.choose ..) fun summary => ?_
  refine (Agree.resolve baseUrl ..).bind fun systemUrl _ same => ?_
  cases same
  exact .bindSame (.document ..) fun system => .pure rfl

theorem fromSystem
    (baseUrl : first.baseUrl = second.baseUrl)
    (system : System) :
    Agree replies Eq (WalkStep.fromSystem first system)
      (WalkStep.fromSystem second system) := by
  unfold WalkStep.fromSystem
  refine (Agree.resolve baseUrl ..).bind fun routesUrl _ same => ?_
  cases same
  refine .bindSame (.document ..) fun routes => ?_
  refine .bindSame (.choose ..) fun summary => ?_
  refine (Agree.resolve baseUrl ..).bind fun routeUrl _ same => ?_
  cases same
  exact .bindSame (.document ..) fun route => .pure rfl

theorem fetchStop
    (baseUrl : first.baseUrl = second.baseUrl)
    (href : String) :
    Agree replies (fun fetched fetched' => fetched.value = fetched'.value)
      (WalkStep.fetchStop first href) (WalkStep.fetchStop second href) := by
  unfold WalkStep.fetchStop
  refine (Agree.resolve baseUrl ..).bind fun url _ same => ?_
  cases same
  exact .fetched ..

theorem fromRoute
    (baseUrl : first.baseUrl = second.baseUrl)
    (route : Route) :
    Agree replies Eq (WalkStep.fromRoute first route) (WalkStep.fromRoute second route) := by
  unfold WalkStep.fromRoute
  refine .bindSame (.draw _) fun map? => ?_
  cases map? with
  | none =>
      refine .bindSame .get fun walker => ?_
      exact .bindSame (.tell _ _) fun _ => .pure rfl
  | some map =>
      refine .bindSame (.orFault _) fun serviceMap => ?_
      refine .bindSame (.draw _) fun index => ?_
      refine .bindSame (.remember _) fun _ => ?_
      refine .bindSame (.orFault _) fun summary => ?_
      apply (Agree.fetchStop baseUrl summary.href).attempt.bind
      rintro _ _ (⟨fetched, fetched', rfl, rfl, same⟩ | ⟨error, rfl, rfl⟩)
      · exact (Agree.tell _ _).bind fun _ _ _ => .pure (congrArg WalkState.stop same)
      · exact (Agree.tell _ _).bind fun _ _ _ => .fail error

theorem transition
    (baseUrl : first.baseUrl = second.baseUrl)
    (state : WalkState) :
    Agree replies Eq (WalkStep.transition first state) (WalkStep.transition second state) := by
  cases state with
  | start => exact .fromStart baseUrl
  | system system => exact .fromSystem baseUrl system
  | route route => exact .fromRoute baseUrl route
  | stop stop => exact .pure rfl
  | atEnd => exact .bindSame .get fun walker => .throw _

theorem walkOn
    (baseUrl : first.baseUrl = second.baseUrl)
    (representable : first.pause.IsRepresentable)
    (representable' : second.pause.IsRepresentable)
    (words : first.pause.words = second.pause.words)
    (steps : Nat)
    (state : WalkState) :
    Agree replies Eq (WalkStep.walkOn first steps state)
      (WalkStep.walkOn second steps state) := by
  induction steps generalizing state with
  | zero => exact .pure rfl
  | succ steps hypothesis =>
      rw [WalkStep.walkOn, WalkStep.walkOn]
      apply (Agree.transition baseUrl state).attempt.bind
      rintro _ _ (⟨next, _, rfl, rfl, rfl⟩ | ⟨error, rfl, rfl⟩)
      · refine .bindSame .get fun walker => ?_
        refine .bindSame (.tell _ _) fun _ => ?_
        split_ifs
        · exact .pure rfl
        · refine (Agree.drawPause representable representable' words).bind fun pause pause' _ => ?_
          exact (Agree.rest pause pause').bind fun _ _ _ => hypothesis next
      · refine .bindSame .get fun walker => ?_
        exact .bindSame (.tell _ _) fun _ => .pure rfl

end

end Agree
end WalkStep

/-- A walk ends alike whatever its pauses are and however long its requests take. -/
theorem Walker.walk_agree
    {first second : Itinerary}
    (baseUrl : first.baseUrl = second.baseUrl)
    (representable : first.pause.IsRepresentable)
    (representable' : second.pause.IsRepresentable)
    (words : first.pause.words = second.pause.words)
    (walker : Walker) :
    Activity.Agree replies Eq (walker.walk first) (walker.walk second) := by
  unfold walk
  apply ((WalkStep.Agree.walkOn baseUrl representable representable' words _ _).performed
    walker).bind
  rintro _ _ (⟨after, rfl⟩ | ⟨after, error | fault⟩)
  · exact .finish rfl
  · exact .finish rfl
  · exact .finish rfl

/-! ## Tests -/

/-- How a walker ended, if it has. -/
def RunState.resultOf? (state : RunState) (walker : Nat) : Option (Except Fault WalkOutcome) :=
  (state.ended.find? fun walk => walk.walker = walker).map EndedWalk.result

namespace RunState

theorem Enrolled.nodup_ended
    {state : RunState}
    (enrolled : state.Enrolled) :
    (state.ended.map EndedWalk.walker).Nodup :=
  (enrolled.nodup_iff.mpr List.nodup_range).of_append_right

/-- Walks that ended are found under the numbers of their walkers. -/
theorem Enrolled.resultOf?_eq_some_iff
    {state : RunState}
    (enrolled : state.Enrolled) :
    state.resultOf? walker = some result ↔
      ∃ walk ∈ state.ended, walk.walker = walker ∧ walk.result = result := by
  rw [resultOf?, Option.map_eq_some_iff]
  constructor
  · rintro ⟨walk, found, rfl⟩
    have same := List.find?_some found
    exact ⟨walk, List.mem_of_find?_eq_some found, of_decide_eq_true same, rfl⟩
  · rintro ⟨walk, present, rfl, rfl⟩
    have isSome : (state.ended.find? fun other => other.walker = walk.walker).isSome :=
      List.find?_isSome.mpr ⟨walk, present, decide_eq_true rfl⟩
    obtain ⟨other, found⟩ := Option.isSome_iff_exists.mp isSome
    have same : other.walker = walk.walker := by simpa using List.find?_some found
    have equal : other = walk :=
      List.inj_on_of_nodup_map enrolled.nodup_ended (List.mem_of_find?_eq_some found)
        present same
    exact ⟨other, found, congrArg EndedWalk.result equal⟩

/-- Once a test is over, every walker is found among those that ended. -/
theorem InOrder.exists_ended
    {state : RunState}
    (inOrder : InOrder plan state)
    (stopped : state.isOver = true)
    (started : walker < state.spawned) :
    ∃ walk ∈ state.ended, walk.walker = walker ∧
      state.resultOf? walker = some walk.result := by
  have listed : walker ∈ state.ended.map EndedWalk.walker :=
    (inOrder.perm_ended stopped).mem_iff.mpr (List.mem_range.mpr started)
  obtain ⟨walk, present, rfl⟩ := List.mem_map.mp listed
  exact ⟨walk, present, rfl,
    inOrder.enrolled.resultOf?_eq_some_iff.mpr ⟨walk, present, rfl, rfl⟩⟩

end RunState

namespace RunPlan

open RunState

/-- The seeds of walkers depend on the seed of a test, and on whether its spawn delays
take words. -/
theorem seedOf_eq
    {first second : RunPlan}
    (seed : first.settings.seed = second.settings.seed)
    (words : first.settings.spawnDelay.words = second.settings.spawnDelay.words)
    (walker : Nat) :
    first.seedOf walker = second.seedOf walker := by
  simp only [seedOf, generatorAt, wordsPerWalker, seed, words]

/-- Every walker of a test that is over has ended as its walk yields. -/
theorem exists_result
    {plan : RunPlan}
    (stopped : (plan.after steps).isOver = true)
    (started : walker < (plan.after steps).spawned) :
    ∃ events result, (plan.after steps).resultOf? walker = some result ∧
      AnsweredBy plan.api events ∧ Yields (plan.walkOf walker) events result := by
  have wellKept := plan.wellKept_after steps
  obtain ⟨walk, present, rfl, resultEq⟩ := wellKept.exists_ended stopped started
  exact ⟨_, walk.result, resultEq, wellKept.chronicle.answered_timeline _,
    (wellKept.chronicle.ended walk present).yields⟩

theorem replied_of_answeredBy
    {api : Api}
    {events : List (Event WalkNote)}
    (replied : ∀ place url, (api place url).reply = replies url)
    (answered : AnsweredBy api events) :
    Replied replies events := by
  intro url answer present
  obtain ⟨place, rfl⟩ := answered url answer present
  exact replied place url

/-- How a walker ends does not depend on load or timing.  Two tests may differ in their
numbers of slots, durations, delays, pauses, ticks, latencies, and in the order in which
walkers act; if they have the same seed and base URL, take words for the same draws and
are given the same replies, a walker that is started in both ends in both alike: in the
same outcome, or in the same fault. -/
theorem results_independent
    {first second : RunPlan}
    (seed : first.settings.seed = second.settings.seed)
    (baseUrl : first.settings.baseUrl = second.settings.baseUrl)
    (spawnSpread : first.settings.spawnDelay.spread = .zero ↔
      second.settings.spawnDelay.spread = .zero)
    (pauseSpread : first.settings.actionPause.spread = .zero ↔
      second.settings.actionPause.spread = .zero)
    (replies : ∀ place place' url,
      (first.api place url).reply = (second.api place' url).reply)
    (stopped : (first.after steps).isOver = true)
    (stopped' : (second.after steps').isOver = true)
    (started : walker < (first.after steps).spawned)
    (started' : walker < (second.after steps').spawned) :
    ∃ result, (first.after steps).resultOf? walker = some result ∧
      (second.after steps').resultOf? walker = some result := by
  obtain ⟨events, result, resultEq, answered, yields⟩ := exists_result stopped started
  obtain ⟨events', result', resultEq', answered', yields'⟩ := exists_result stopped' started'
  have spawnWords : first.settings.spawnDelay.words = second.settings.spawnDelay.words := by
    simp only [DelayRange.words, spawnSpread]
  have pauseWords : first.settings.actionPause.words = second.settings.actionPause.words := by
    simp only [DelayRange.words, pauseSpread]
  have replied : Replied (fun url => (second.api 0 url).reply) events :=
    replied_of_answeredBy (fun place url => replies place 0 url) answered
  have replied' : Replied (fun url => (second.api 0 url).reply) events' :=
    replied_of_answeredBy
      (fun place url => (replies 0 place url).symm.trans (replies 0 0 url)) answered'
  have agree : Activity.Agree (fun url => (second.api 0 url).reply) Eq
      (Walker.walk first.itinerary { id := walker, generator := .ofSeed (second.seedOf walker) })
      (second.walkOf walker) :=
    Walker.walk_agree baseUrl first.settings.actionPause_isRepresentable
      second.settings.actionPause_isRepresentable pauseWords _
  rw [walkOf, seedOf_eq seed spawnWords] at yields
  have same : result = result' := agree.ends replied replied' yields yields'
  exact ⟨result, resultEq, same ▸ resultEq'⟩

/-- An API with three systems, three routes and three stops, with some latency. -/
def threeOfEach (milliseconds : Nat) : Api := fun _ url =>
  ⟨.ofMilliseconds milliseconds,
    match url.path with
    | "/" => .body (Json.utf8 "\x7b\"systems\": \x7b\"href\": \"systems\"\x7d\x7d")
    | "/systems" =>
        .body (Json.utf8
          "[\x7b\"href\": \"a\"\x7d, \x7b\"href\": \"b\"\x7d, \x7b\"href\": \"c\"\x7d]")
    | "/a" | "/b" | "/c" =>
        .body (Json.utf8 "\x7b\"routes\": \x7b\"href\": \"routes\"\x7d\x7d")
    | "/routes" =>
        .body (Json.utf8
          "[\x7b\"href\": \"d\"\x7d, \x7b\"href\": \"e\"\x7d, \x7b\"href\": \"f\"\x7d]")
    | "/d" | "/e" | "/f" =>
        .body (Json.utf8
          "\x7b\"service_maps\": [\x7b\"stops\": [\x7b\"href\": \"g\"\x7d, \x7b\"href\": \"h\"\x7d, \x7b\"href\": \"i\"\x7d]\x7d]\x7d")
    | _ => .body (Json.utf8 "\x7b\x7d")⟩

/-- A test of a second with one slot and one walker, which chooses among three of each. -/
def choosingWalker : RunPlan where
  settings := { oneWalker.settings with
    minActionPause := 0
    maxActionPause := 0 }
  api := threeOfEach 5
  order := id

/-- The same test with two slots, other delays and pauses, and a slower API. -/
def choosingSlowly : RunPlan where
  settings := { oneWalker.settings with
    maxConcurrency := 2
    minSpawnDelay := 500
    maxSpawnDelay := 500
    minActionPause := 20
    maxActionPause := 20 }
  api := threeOfEach 50
  order := id

/-- The walker of `choosingWalker` chooses the second route and the second stop, and that
of `choosingSlowly` does as well. -/
theorem results_independent_choosingWalker :
    (choosingWalker.after 20).isOver = true ∧
      (choosingSlowly.after 40).isOver = true ∧
      ∃ result, (choosingWalker.after 20).resultOf? 0 = some result ∧
        (choosingSlowly.after 40).resultOf? 0 = some result ∧
        result.toOption.map WalkOutcome.selections =
          some [⟨.system, 0⟩, ⟨.route, 1⟩, ⟨.stop, 1⟩] := by
  -- One evaluation for each of the two tests.
  have first : (choosingWalker.after 20).isOver = true ∧
      0 < (choosingWalker.after 20).spawned ∧
      ((choosingWalker.after 20).resultOf? 0).map
          (fun result => result.toOption.map WalkOutcome.selections) =
        some (some [⟨.system, 0⟩, ⟨.route, 1⟩, ⟨.stop, 1⟩]) := by decide +kernel
  have second : (choosingSlowly.after 40).isOver = true ∧
      0 < (choosingSlowly.after 40).spawned := by decide +kernel
  obtain ⟨result, found, found'⟩ :
      ∃ result, (choosingWalker.after 20).resultOf? 0 = some result ∧
        (choosingSlowly.after 40).resultOf? 0 = some result :=
    results_independent rfl rfl (by decide +kernel) (by decide +kernel)
      (fun _ _ _ => rfl) first.1 second.1 first.2.1 second.2
  refine ⟨first.1, second.1, result, found, found', ?_⟩
  have chosen := first.2.2
  rw [found] at chosen
  exact Option.some.inj chosen

end RunPlan
end TransitLoad
