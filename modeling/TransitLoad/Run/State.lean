import TransitLoad.Admission
import TransitLoad.Settings.Basic
import TransitLoad.Walk

/-!
# The course of a test

A test is a driver and the walkers it starts.  Until the deadline the driver takes
a slot, holds it for a random delay, and hands it to a new walker; at every tick of
its ticker it reports how many slots are in use.  A walker gives its slot back when
it ends, be it in an outcome or in a fault.

The clock stands at whole milliseconds.  While it stands, the driver acts first
whenever it can, then the walkers whose waiting is over, one at a time and in any
order.  When nobody can act, the clock moves on to the next moment at which somebody
can.
-/

namespace TransitLoad

/-! ## States -/

/-- What is fixed during a test. -/
structure RunPlan where
  settings : Settings
  api : Api
  /-- Which of the walkers that can act goes first, turn by turn. -/
  order : Nat → Nat

namespace RunPlan

/-- When walkers are no longer started. -/
def deadline (plan : RunPlan) : Nat := plan.settings.durationSeconds.toNat * 1000

/-- What the walkers have in common. -/
def itinerary (plan : RunPlan) : Itinerary :=
  ⟨plan.settings.baseUrl, plan.settings.actionPause⟩

/-- The time between two ticks. -/
def tickInterval (plan : RunPlan) : Nat := plan.settings.tickIntervalDuration.waitMilliseconds

end RunPlan

/-- What a walker has left to do. -/
abbrev RemainingWalk := Activity WalkNote (Except Fault WalkOutcome)

/-- A walker under way, with the moment it waits for. -/
structure ActiveWalk where
  walker : Nat
  startedAt : Nat
  wakesAt : Nat
  remaining : RemainingWalk

/-- A walker that ended. -/
structure EndedWalk where
  walker : Nat
  startedAt : Nat
  endedAt : Nat
  result : Except Fault WalkOutcome

/-- What the driver is about to do. -/
inductive DriverPhase where
  /-- It asks for a slot, once no tick is due. -/
  | asking
  /-- It waits for a slot. -/
  | waiting
  /-- It holds a slot until a walker is to be started. -/
  | delaying (wakesAt : Nat)
  /-- It starts no more walkers. -/
  | finished
  /-- It ran into a fault. -/
  | broken (fault : Fault)
  deriving DecidableEq

/-- What is noted in the course of a test. -/
inductive RunNote where
  /-- The driver begins. -/
  | begun (seconds capacity : Nat)
  /-- A tick: the slots in use and the walkers started so far. -/
  | tick (inUse capacity spawned : Nat)
  /-- The driver starts no more walkers. -/
  | draining (spawned inUse : Nat)
  /-- A note of a walker. -/
  | walk (note : WalkNote)
  deriving DecidableEq

/-- The line of the log that belongs to a note, if there is one. -/
def RunNote.line? : RunNote → Option LogLine
  | .begun seconds capacity =>
      some ⟨.info, .driver, s!"Spawning walkers for {seconds}s (max {capacity} concurrent)"⟩
  | .tick inUse capacity spawned =>
      some ⟨.info, .driver, s!"In use: {inUse}/{capacity}, spawned: {spawned}"⟩
  | .draining spawned inUse =>
      some ⟨.info, .driver,
        s!"Deadline reached after {spawned} walkers, draining {inUse} in flight"⟩
  | .walk note => note.line?

/-- Where a test is. -/
structure RunState where
  now : Nat
  admission : Admission
  generator : Generator
  nextTick : Nat
  phase : DriverPhase
  spawned : Nat
  active : List ActiveWalk
  ended : List EndedWalk
  requests : Array Url
  notes : Array RunNote
  turns : Nat

namespace RunState

/-- The number under which the driver asks for slots. -/
def driverClient : Nat := 0

/-- The beginning of a test. -/
def initial (plan : RunPlan) (admission : Admission) : RunState where
  now := 0
  admission := admission
  generator := .ofSeed plan.settings.seed
  nextTick := 0
  phase := .asking
  spawned := 0
  active := []
  ended := []
  requests := #[]
  notes := #[.begun plan.settings.durationSeconds.toNat plan.settings.maxConcurrency.toNat]
  turns := 0

/-- Note something. -/
def note (state : RunState) (note : RunNote) : RunState :=
  { state with notes := state.notes.push note }

/-- The driver starts no more walkers. -/
def finish (state : RunState) : RunState :=
  { state with phase := .finished }.note (.draining state.spawned state.admission.inUse)

/-! ## The driver -/

/-- Start a walker with a seed of its own. -/
def startWalker (plan : RunPlan) (state : RunState) : RunState :=
  let (seed, generator) := state.generator.nextLong
  let walker : Walker := { id := state.spawned, generator := .ofSeed seed }
  { state with
    generator
    phase := .asking
    spawned := state.spawned + 1
    active := state.active ++
      [⟨state.spawned, state.now, state.now, walker.walk plan.itinerary⟩] }

/-- The delay is over: start a walker, or give the slot back after the deadline. -/
def endDelay (plan : RunPlan) (state : RunState) : RunState :=
  if state.admission.isExpired state.now then
    { state with admission := state.admission.giveBack }.finish
  else state.startWalker plan

/-- A slot was granted: hold it for a delay. -/
def beginDelay (plan : RunPlan) (state : RunState) : RunState :=
  match plan.settings.spawnDelay.sample.from? state.generator with
  | (.error fault, generator) => { state with generator, phase := .broken fault }
  | (.ok delay, generator) =>
      let wait := delay.waitMilliseconds
      if wait = 0 then { state with generator }.endDelay plan
      else { state with generator, phase := .delaying (state.now + wait) }

/-- The driver heeds what it is told about a slot. -/
def heed (plan : RunPlan) (state : RunState) (admission : Admission) : Verdict → RunState
  | .granted => { state with admission }.beginDelay plan
  | .refused => { state with admission }.finish
  | .mustWait => { state with admission, phase := .waiting }

/-- Ask for a slot. -/
def askForSlot (plan : RunPlan) (state : RunState) : RunState :=
  let (admission, verdict) := state.admission.ask state.now driverClient
  state.heed plan admission verdict

/-- Look whether the slot that was asked for is there. -/
def lookForSlot (plan : RunPlan) (state : RunState) : RunState :=
  let (admission, verdict) := state.admission.resume state.now driverClient
  state.heed plan admission verdict

/-- The moment of the next tick.  A tick that is served more than five milliseconds
late delays those that follow. -/
def tickAfter (interval due now : Nat) : Nat :=
  if now ≤ due + 5 then due + interval else now + interval

/-- Report how many slots are in use.  Whatever the driver waited for is asked for
again afterwards. -/
def tick (plan : RunPlan) (state : RunState) : RunState :=
  { state with
    admission := state.admission.withdraw driverClient
    phase := .asking
    nextTick := tickAfter plan.tickInterval state.nextTick state.now }.note
      (.tick state.admission.inUse state.admission.capacity state.spawned)

/-- Whether a tick is due. -/
def isTickDue (state : RunState) : Bool := state.nextTick ≤ state.now

/-- Whether the driver can act. -/
def canDrive (state : RunState) : Bool :=
  match state.phase with
  | .asking => true
  | .waiting =>
      state.isTickDue || state.admission.isExpired state.now ||
        driverClient ∈ state.admission.assigned
  | .delaying wakesAt => wakesAt ≤ state.now
  | .finished => false
  | .broken _ => false

/-- What the driver does when it can act.  A tick comes before a slot. -/
def drive (plan : RunPlan) (state : RunState) : RunState :=
  match state.phase with
  | .asking => if state.isTickDue then state.tick plan else state.askForSlot plan
  | .waiting => if state.isTickDue then state.tick plan else state.lookForSlot plan
  | .delaying _ => state.endDelay plan
  | .finished => state
  | .broken _ => state

/-! ## Walkers -/

/-- How far a walker gets before it has to wait or ends. -/
inductive WalkProgress where
  | waits (wakesAt : Nat) (remaining : RemainingWalk)
  | ends (result : Except Fault WalkOutcome)

/-- Carry a walk on, as far as it gets while the clock stands. -/
def carryOn (plan : RunPlan) (state : RunState) : RemainingWalk → RunState × WalkProgress
  | .finish result => (state, .ends result)
  | .request url resume =>
      let exchange := plan.api state.requests.size url
      let wait := exchange.latency.waitMilliseconds
      let state := { state with requests := state.requests.push url }
      let answer : Answer := ⟨.ofMilliseconds wait, exchange.reply⟩
      if wait = 0 then state.carryOn plan (resume answer)
      else (state, .waits (state.now + wait) (resume answer))
  | .pause length resume =>
      let wait := length.waitMilliseconds
      if wait = 0 then state.carryOn plan resume
      else (state, .waits (state.now + wait) resume)
  | .note event resume => (state.note (.walk event)).carryOn plan resume

/-- A walker ends and gives its slot back.  A driver that waits for it takes it at
once. -/
def endWalk
    (plan : RunPlan)
    (state : RunState)
    (walk : ActiveWalk)
    (result : Except Fault WalkOutcome) : RunState :=
  let state := { state with
    admission := state.admission.giveBack
    ended := ⟨walk.walker, walk.startedAt, state.now, result⟩ :: state.ended }
  if driverClient ∈ state.admission.assigned then state.lookForSlot plan else state

/-- The walkers that can act. -/
def ready (state : RunState) : List ActiveWalk :=
  state.active.filter fun walk => walk.wakesAt ≤ state.now

/-- A walker acts; the others stay as they are. -/
def act (plan : RunPlan) (state : RunState) (walk : ActiveWalk) : RunState :=
  match state.carryOn plan walk.remaining with
  | (state, .waits wakesAt remaining) =>
      { state with active := state.active.map fun other =>
          if other.walker = walk.walker then { other with wakesAt, remaining } else other }
  | (state, .ends result) =>
      { state with active := state.active.filter (·.walker ≠ walk.walker) }.endWalk
        plan walk result

/-! ## Time -/

/-- The moments at which somebody can act again. -/
def wakeTimes (state : RunState) : List Nat :=
  let driver := match state.phase with
    | .waiting => [min state.nextTick state.admission.deadline]
    | .delaying wakesAt => [wakesAt]
    | _ => []
  driver ++ state.active.map ActiveWalk.wakesAt

/-- Move the clock on to the next moment at which somebody can act. -/
def advance (state : RunState) : RunState :=
  match state.wakeTimes.min? with
  | none => state
  | some moment => { state with now := max state.now moment }

/-- What happens next. -/
def step (plan : RunPlan) (state : RunState) : RunState :=
  if state.canDrive then state.drive plan
  else
    let ready := state.ready
    match ready[plan.order state.turns % ready.length]? with
    | some walk => { state with turns := state.turns + 1 }.act plan walk
    | none => state.advance

/-- Whether the test is over: the driver starts no more walkers and all have ended,
or the driver is broken. -/
def isOver (state : RunState) : Bool :=
  match state.phase with
  | .finished => state.active.isEmpty
  | .broken _ => true
  | _ => false

/-- Let a test go on until it is over, for at most so many steps. -/
def complete (plan : RunPlan) : Nat → RunState → RunState
  | 0, state => state
  | steps + 1, state => if state.isOver then state else (state.step plan).complete plan steps

end RunState
end TransitLoad
