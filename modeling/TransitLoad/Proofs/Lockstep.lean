import TransitLoad.Proofs.WalkSafety

/-!
# Walks in lockstep

Wherever an API breaks down, a repaired one replies with a status of failure instead, after
the same latency.  Before the two, a walk sends the same requests and makes the same pauses
until it comes to an end in both; only the notes of the walk that fails are missing from
the one that is lost to the fault.
-/

namespace TransitLoad

open Activity

/-! ## Repair -/

/-- What is replied instead of breaking down. -/
def Reply.repaired (code : Nat) : Reply → Reply
  | .broken _ => .status code
  | reply => reply

/-- An API that replies with a status of failure wherever it would break down. -/
def Api.repaired (api : Api) (codes : Url → Nat) : Api := fun place url =>
  ⟨(api place url).latency, (api place url).reply.repaired (codes url)⟩

theorem Api.IsFixed.repaired
    {api : Api}
    (fixed : api.IsFixed)
    (codes : Url → Nat) :
    (api.repaired codes).IsFixed := by
  intro place other url
  simp only [Api.repaired, fixed place other url]

theorem Api.reply_repaired_ne_broken
    (api : Api)
    (codes : Url → Nat)
    (place : Nat)
    (url : Url)
    (text : String) :
    (api.repaired codes place url).reply ≠ .broken text := by
  simp only [Api.repaired]
  cases (api place url).reply <;> nofun

/-- An error that comes from a reply that has been repaired. -/
def WalkError.IsRepaired (api : Api) (codes : Url → Nat) (error : WalkError) : Prop :=
  ∃ kind url text, error = .fetch kind (.status url (codes url)) ∧
    (api 0 url).reply = .broken text

/-! ## Activities -/

/-- Two activities go on in lockstep, the first before an API that answers by the URL
alone, the second before the repaired one: they differ only in notes that the second leaves
in addition, none of which is a sample. -/
inductive Activity.Lockstep
    (api : Api)
    (codes : Url → Nat)
    (alike : α → β → Prop) :
    Activity WalkNote α → Activity WalkNote β → Prop where
  | finish (same : alike result result') :
      Lockstep api codes alike (.finish result) (.finish result')
  | request
      (url : Url)
      (later : Lockstep api codes alike (resume (api.answer 0 url))
        (resume' ((api.repaired codes).answer 0 url))) :
      Lockstep api codes alike (.request url resume) (.request url resume')
  | pause
      (length : Duration)
      (later : Lockstep api codes alike resume resume') :
      Lockstep api codes alike (.pause length resume) (.pause length resume')
  | note
      (entry : WalkNote)
      (later : Lockstep api codes alike resume resume') :
      Lockstep api codes alike (.note entry resume) (.note entry resume')
  | extra
      (entry : WalkNote)
      (unsampled : entry.sample? = none)
      (later : Lockstep api codes alike activity resume') :
      Lockstep api codes alike activity (.note entry resume')

theorem Activity.Lockstep.bind
    {first : Activity WalkNote α}
    {second : Activity WalkNote β}
    {next : α → Activity WalkNote γ}
    {next' : β → Activity WalkNote δ}
    (lockstep : Lockstep api codes alike first second)
    (later : ∀ value value', alike value value' →
      Lockstep api codes alike' (next value) (next' value')) :
    Lockstep api codes alike' (first >>= next) (second >>= next') := by
  induction lockstep with
  | finish same => exact later _ _ same
  | request url _ hypothesis => exact .request url hypothesis
  | pause length _ hypothesis => exact .pause length hypothesis
  | note entry _ hypothesis => exact .note entry hypothesis
  | extra entry unsampled _ hypothesis => exact .extra entry unsampled hypothesis

/-- Activities in lockstep send the same requests. -/
theorem Activity.Lockstep.requests_eq
    {api : Api}
    {codes : Url → Nat}
    {first : Activity WalkNote α}
    {second : Activity WalkNote β}
    (lockstep : Lockstep api codes alike first second)
    (fixed : api.IsFixed)
    (yields : Yields first events result)
    (answered : AnsweredBy api events)
    (yields' : Yields second events' result')
    (answered' : AnsweredBy (api.repaired codes) events') :
    (exchanges events').map Prod.fst = (exchanges events).map Prod.fst := by
  induction lockstep generalizing events events' with
  | finish =>
      rw [(yields_finish.mp yields).1, (yields_finish.mp yields').1]
  | request url _ hypothesis =>
      obtain ⟨answer, later, rfl, goesOn⟩ := yields_request.mp yields
      obtain ⟨answer', later', rfl, goesOn'⟩ := yields_request.mp yields'
      obtain ⟨place, rfl⟩ := answered url answer (List.mem_cons_self ..)
      obtain ⟨place', rfl⟩ := answered' url answer' (List.mem_cons_self ..)
      rw [fixed.answer_eq place 0] at goesOn
      rw [(fixed.repaired codes).answer_eq place' 0] at goesOn'
      exact congrArg (url :: ·)
        (hypothesis goesOn answered.of_cons goesOn' answered'.of_cons)
  | pause length _ hypothesis =>
      obtain ⟨later, rfl, goesOn⟩ := yields_pause.mp yields
      obtain ⟨later', rfl, goesOn'⟩ := yields_pause.mp yields'
      have same := hypothesis goesOn answered.of_cons goesOn' answered'.of_cons
      exact same
  | note entry _ hypothesis =>
      obtain ⟨later, rfl, goesOn⟩ := yields_note.mp yields
      obtain ⟨later', rfl, goesOn'⟩ := yields_note.mp yields'
      have same := hypothesis goesOn answered.of_cons goesOn' answered'.of_cons
      exact same
  | extra entry _ _ hypothesis =>
      obtain ⟨later', rfl, goesOn'⟩ := yields_note.mp yields'
      have same := hypothesis yields answered goesOn' answered'.of_cons
      exact same

/-! ## Steps -/

/-- A step ends alike before both APIs, unless it is lost to a fault before the first; then
it ends in an error before the repaired one. -/
inductive EndsInLockstep
    (api : Api)
    (codes : Url → Nat)
    (error? : Except (Mishap WalkError) α → Option WalkError) :
    Except (Mishap WalkError) α × Walker → Except (Mishap WalkError) α × Walker → Prop where
  | same
      (elsewhere : ∀ error, error? result = some error → ¬error.IsRepaired api codes)
      (walker : Walker) :
      EndsInLockstep api codes error? (result, walker) (result, walker)
  | lost
      (url : Url)
      (broken : (api 0 url).reply = .broken text)
      (kind : ResourceKind)
      (failed : error? result = some (.fetch kind (.status url (codes url))))
      (walker : Walker) :
      EndsInLockstep api codes error? (.error (.fault (.brokenRequest text)), walker)
        (result, walker)

namespace WalkStep

/-- The error that a step ends in, if it does. -/
def raised? : Except (Mishap WalkError) α → Option WalkError
  | .error (.error error) => some error
  | _ => none

/-- The error that a walk ends in, if it does. -/
def aborted? : Except (Mishap WalkError) Ending → Option WalkError
  | .ok (.aborted error) => some error
  | .error (.error error) => some error
  | _ => none

/-- A step that is taken in lockstep before an API and the repaired one, by whomever. -/
structure Lockstep
    (api : Api)
    (codes : Url → Nat)
    (error? : Except (Mishap WalkError) α → Option WalkError)
    (step : WalkStep α) : Prop where
  performed (walker : Walker) :
    Activity.Lockstep api codes (EndsInLockstep api codes error?) (walker.perform step)
      (walker.perform step)

namespace Lockstep

section

variable {api : Api} {codes : Url → Nat}

/-- A step that comes to its end at once, and not in an error. -/
theorem of_finish
    {step : WalkStep α}
    (instant : ∀ walker : Walker, ∃ result after,
      walker.perform step = .finish (result, after) ∧ raised? result = none) :
    Lockstep api codes raised? step := by
  constructor
  intro walker
  obtain ⟨result, after, same, settled⟩ := instant walker
  rw [same]
  refine .finish (.same ?_ after)
  rw [settled]
  rintro _ ⟨⟩

theorem pure (value : α) : Lockstep api codes raised? (Pure.pure value) :=
  .of_finish fun walker => ⟨_, walker, walker.perform_pure value, rfl⟩

theorem get : Lockstep api codes raised? MonadState.get :=
  .of_finish fun walker => ⟨_, walker, walker.perform_get, rfl⟩

theorem remember (selection : Selection) :
    Lockstep api codes raised? (WalkStep.remember selection) :=
  .of_finish fun walker => ⟨_, _, walker.perform_remember selection, rfl⟩

theorem orFault (found : Except Fault α) :
    Lockstep api codes raised? (WalkStep.orFault found) := by
  apply of_finish
  intro walker
  refine ⟨_, walker, walker.perform_orFault found, ?_⟩
  cases found <;> rfl

theorem draw (choice : Draw α) : Lockstep api codes raised? (WalkStep.draw choice) := by
  apply of_finish
  intro walker
  refine ⟨_, _, walker.perform_draw choice, ?_⟩
  cases (choice.from? walker.generator).1 <;> rfl

theorem throwFault (fault : Fault) :
    Lockstep api codes raised? (throw (.fault fault) : WalkStep α) :=
  .of_finish fun walker => ⟨_, walker, walker.perform_throw _, rfl⟩

theorem fail
    {error : WalkError}
    (elsewhere : ¬error.IsRepaired api codes) :
    Lockstep api codes raised? (WalkStep.fail error : WalkStep α) := by
  constructor
  intro walker
  refine .finish (.same ?_ walker)
  rintro _ ⟨⟩
  exact elsewhere

theorem tell (entry : WalkNote) : Lockstep api codes raised? (WalkStep.tell entry) := by
  constructor
  intro walker
  refine .note entry (.finish (.same ?_ walker))
  rintro _ ⟨⟩

theorem bind
    {step : WalkStep α}
    {next : α → WalkStep β}
    (lockstep : Lockstep api codes raised? step)
    (later : ∀ value, Lockstep api codes raised? (next value)) :
    Lockstep api codes raised? (step >>= next) := by
  constructor
  intro walker
  rw [Walker.perform_bind]
  apply (lockstep.performed walker).bind
  rintro _ _ (⟨elsewhere, after⟩ | ⟨url, broken, kind, failed, after⟩)
  · rename_i result
    rcases result with (error | fault) | value
    · refine .finish (.same ?_ after)
      rintro _ ⟨⟩
      exact elsewhere error rfl
    · refine .finish (.same ?_ after)
      rintro _ ⟨⟩
    · exact (later value).performed after
  · rename_i text result
    rcases result with (error | fault) | value
    · cases failed
      exact .finish (.lost url broken kind rfl after)
    · cases failed
    · cases failed

/-- What follows an attempt, if an error is noted and ends it. -/
theorem attempt_bind
    {step : WalkStep α}
    {next : Except WalkError α → WalkStep β}
    {error? : Except (Mishap WalkError) β → Option WalkError}
    (lockstep : Lockstep api codes raised? step)
    (settled : ∀ fault, error? (.error (.fault fault)) = none)
    (success : ∀ value, Lockstep api codes error? (next (.ok value)))
    (failure : ∀ error (walker : Walker), ∃ (entry : WalkNote) (result : _),
      walker.perform (next (.error error)) = .note entry (.finish (result, walker)) ∧
        entry.sample? = none ∧ error? result = some error) :
    Lockstep api codes error? (step.attempt >>= next) := by
  constructor
  intro walker
  rw [Walker.perform_bind, Walker.perform_attempt, bind_assoc]
  apply (lockstep.performed walker).bind
  rintro _ _ (⟨elsewhere, after⟩ | ⟨url, broken, kind, failed, after⟩)
  · rename_i result
    rcases result with (error | fault) | value
    · obtain ⟨entry, result, noted, _, errorEq⟩ := failure error after
      simp only [finish_bind, noted]
      refine .note entry (.finish (.same ?_ after))
      rw [errorEq]
      exact elsewhere
    · refine .finish (.same ?_ after)
      rw [settled]
      rintro _ ⟨⟩
    · exact (success value).performed after
  · rename_i text result
    rcases result with (error | fault) | value
    · obtain ⟨entry, result, noted, unsampled, errorEq⟩ := failure error after
      simp only [finish_bind, noted]
      exact .extra entry unsampled (.finish (.lost url broken kind (errorEq.trans failed) after))
    · cases failed
    · cases failed

theorem resolve
    (itinerary : Itinerary)
    (kind : ResourceKind)
    (href : String) :
    Lockstep api codes raised? (WalkStep.resolve itinerary kind href) := by
  unfold WalkStep.resolve
  split
  · exact .pure _
  · apply Lockstep.fail
    rintro ⟨_, _, _, ⟨⟩, _⟩

/-- A document is fetched in lockstep, unless the API breaks down. -/
theorem fetched
    (kind : ResourceKind)
    (url : Url)
    (α : Type)
    [Document α] :
    Lockstep api codes raised? (WalkStep.fetched kind url α) := by
  constructor
  intro walker
  rw [Walker.perform_fetched]
  refine .request url (.finish ?_)
  have elsewhere {error : FetchError}
      (sound : ∀ other code, error = .status other code →
        ∀ text, (api 0 other).reply ≠ .broken text) :
      ∀ failure, raised? (.error (.error (.fetch kind error)) :
        Except (Mishap WalkError) (Fetched α)) = some failure →
        ¬failure.IsRepaired api codes := by
    rintro _ ⟨⟩ ⟨_, other, text, same, broken⟩
    exact sound other _ (WalkError.fetch.inj same).2 text broken
  simp only [Api.answer, Api.repaired]
  cases reply : (api 0 url).reply with
  | body bytes =>
      simp only [Reply.repaired, Answer.decoded]
      cases Document.decode α bytes with
      | ok value =>
          refine .same ?_ walker
          rintro _ ⟨⟩
      | error error => exact .same (elsewhere (by rintro _ _ ⟨⟩)) walker
  | status code =>
      refine .same (elsewhere ?_) walker
      rintro _ _ ⟨⟩ text
      rw [reply]
      rintro ⟨⟩
  | unreachable text => exact .same (elsewhere (by rintro _ _ ⟨⟩)) walker
  | broken text => exact .lost url reply kind rfl walker

theorem document
    (kind : ResourceKind)
    (url : Url)
    (α : Type)
    [Document α] :
    Lockstep api codes raised? (WalkStep.document kind url α) := by
  unfold WalkStep.document
  refine Lockstep.bind .get fun walker => ?_
  refine Lockstep.bind (.tell _) fun _ => ?_
  exact (Lockstep.fetched kind url α).bind fun _ => .pure _

theorem choose
    (kind : ResourceKind)
    (resources : List α)
    (url : Url) :
    Lockstep api codes raised? (WalkStep.choose kind resources url) := by
  unfold WalkStep.choose
  have chosen : Lockstep api codes raised? (do
      let index ← WalkStep.draw (Draw.index resources.length)
      WalkStep.remember ⟨kind, index⟩
      WalkStep.orFault (Draw.element resources index)) := by
    refine Lockstep.bind (.draw _) fun index => ?_
    exact Lockstep.bind (.remember _) fun _ => .orFault _
  simp only
  split_ifs
  · refine Lockstep.bind (.fail ?_) fun _ => chosen
    rintro ⟨_, _, _, ⟨⟩, _⟩
  · exact chosen

theorem leg
    (itinerary : Itinerary)
    (kind : ResourceKind)
    (href : String)
    (Summary : Type)
    [Document Summary]
    (link : Summary → String)
    (Target : Type)
    [Document Target] :
    Lockstep api codes raised? (WalkStep.leg itinerary kind href Summary link Target) := by
  unfold WalkStep.leg
  refine (Lockstep.resolve ..).bind fun listUrl => ?_
  refine (Lockstep.document ..).bind fun summaries => ?_
  refine (Lockstep.choose ..).bind fun summary => ?_
  exact (Lockstep.resolve ..).bind fun url => .document ..

theorem fetchStop (itinerary : Itinerary) (href : String) :
    Lockstep api codes raised? (WalkStep.fetchStop itinerary href) :=
  (Lockstep.resolve ..).bind fun _ => .fetched ..

theorem fromRoute (itinerary : Itinerary) (route : Route) :
    Lockstep api codes raised? (WalkStep.fromRoute itinerary route) := by
  unfold WalkStep.fromRoute
  refine Lockstep.bind (.draw _) fun map? => ?_
  cases map? with
  | none =>
      refine Lockstep.bind .get fun walker => ?_
      exact Lockstep.bind (.tell _) fun _ => .pure _
  | some map =>
      refine Lockstep.bind (.orFault _) fun serviceMap => ?_
      refine Lockstep.bind (.draw _) fun index => ?_
      refine Lockstep.bind (.remember _) fun _ => ?_
      refine Lockstep.bind (.orFault _) fun summary => ?_
      apply (Lockstep.fetchStop itinerary summary.href).attempt_bind fun _ => rfl
      · intro fetched
        exact Lockstep.bind (.tell _) fun _ => .pure _
      · intro error walker
        exact ⟨.failure, _, rfl, rfl, rfl⟩

theorem transition (itinerary : Itinerary) (state : WalkState) :
    Lockstep api codes raised? (WalkStep.transition itinerary state) := by
  cases state with
  | start =>
      rw [WalkStep.transition, fromStart_eq]
      refine (Lockstep.document ..).bind fun root => ?_
      exact (Lockstep.leg ..).bind fun system => .pure _
  | system system =>
      rw [WalkStep.transition, fromSystem_eq]
      exact (Lockstep.leg ..).bind fun route => .pure _
  | route route => exact .fromRoute itinerary route
  | stop stop => exact .pure _
  | atEnd => exact Lockstep.bind .get fun walker => .throwFault _

/-- A walk goes on in lockstep: a step that is lost to a fault before the one API aborts
the walk before the other. -/
theorem walkOn
    {itinerary : Itinerary}
    (representable : itinerary.pause.IsRepresentable)
    (steps : Nat)
    (state : WalkState) :
    Lockstep api codes aborted? (WalkStep.walkOn itinerary steps state) := by
  have completed : ∀ error, aborted? (.ok .completed) = some error →
      ¬error.IsRepaired api codes := by
    rintro _ ⟨⟩
  induction steps generalizing state with
  | zero => exact ⟨fun walker => .finish (.same completed walker)⟩
  | succ steps hypothesis =>
      rw [WalkStep.walkOn]
      apply (Lockstep.transition itinerary state).attempt_bind fun _ => rfl
      · intro next
        constructor
        intro walker
        simp only [Walker.perform_bind, Walker.perform_get, Walker.perform_tell, finish_bind,
          note_bind]
        refine .note _ ?_
        split_ifs
        · exact .finish (.same completed walker)
        · simp only [Walker.perform_bind, Walker.perform_draw, Walker.perform_act, finish_bind,
            DelayRange.sample_eq_drawn representable, Except.mapError, rest, pause_bind]
          exact .pause _ ((hypothesis next).performed _)
      · intro error walker
        exact ⟨.stopped walker.id state.name error, _, rfl, rfl, rfl⟩

end

end Lockstep
end WalkStep

/-! ## Walks -/

/-- A walk is aborted by a reply that has been repaired. -/
def WalkOutcome.AbortsAtRepair
    (api : Api)
    (codes : Url → Nat)
    (outcome : WalkOutcome) : Prop :=
  ∃ error, outcome.ending = .aborted error ∧ error.IsRepaired api codes

/-- A walk comes to the same end before both APIs, unless it is lost before the first; then
it is aborted before the repaired one. -/
inductive SharesFate (api : Api) (codes : Url → Nat) :
    Except Fault WalkOutcome → Except Fault WalkOutcome → Prop where
  | same
      (elsewhere : ∀ outcome, result = .ok outcome → ¬outcome.AbortsAtRepair api codes) :
      SharesFate api codes result result
  | lost
      (fault : Fault)
      (aborts : outcome.AbortsAtRepair api codes) :
      SharesFate api codes (.error fault) (.ok outcome)

theorem Walker.ending_of_conclude
    {walker : Walker}
    (concluded : walker.conclude result = .ok outcome)
    (aborts : outcome.ending = .aborted error) :
    WalkStep.aborted? result = some error := by
  rcases result with (_ | _) | ending
  · cases concluded
    cases aborts
    rfl
  · cases concluded
  · cases concluded
    cases (show ending = .aborted error from aborts)
    rfl

/-- Walks go on in lockstep and share their fate. -/
theorem Walker.walk_lockstep
    {itinerary : Itinerary}
    {api : Api}
    {codes : Url → Nat}
    (representable : itinerary.pause.IsRepresentable)
    (walker : Walker) :
    Activity.Lockstep api codes (SharesFate api codes) (walker.walk itinerary)
      (walker.walk itinerary) := by
  rw [walk_eq]
  apply ((WalkStep.Lockstep.walkOn representable _ _).performed walker).bind
  rintro _ _ (⟨elsewhere, after⟩ | ⟨url, broken, kind, failed, after⟩)
  · refine .finish (.same ?_)
    rintro outcome concluded ⟨error, aborts, repaired⟩
    exact elsewhere error (ending_of_conclude concluded aborts) repaired
  · rename_i text result
    have repaired : WalkError.IsRepaired api codes (.fetch kind (.status url (codes url))) :=
      ⟨kind, url, text, rfl, broken⟩
    rcases result with (error | fault) | ending | error
    · cases failed
      exact .finish (.lost _ ⟨_, rfl, repaired⟩)
    · cases failed
    · cases failed
    · cases failed
      exact .finish (.lost _ ⟨_, rfl, repaired⟩)

end TransitLoad
