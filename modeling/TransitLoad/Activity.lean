import TransitLoad.Api
import TransitLoad.Resource.Kind

/-!
# Activities

An activity is what a client does, seen from outside: it sends requests and waits
for their answers, pauses, and notes what it observes, until it ends in a result.
It is data, so one activity can be carried out alone or among many others.
-/

namespace TransitLoad

/-- What a client sees of a request: the time it took, and the reply. -/
structure Answer where
  elapsed : Duration
  reply : Reply
  deriving DecidableEq, Inhabited

/-- What a client does, over a type of notes. -/
inductive Activity (Note : Type) (α : Type) where
  /-- The activity is over. -/
  | finish (result : α)
  /-- A request is sent and its answer awaited. -/
  | request (url : Url) (resume : Answer → Activity Note α)
  /-- Some time passes. -/
  | pause (length : Duration) (resume : Activity Note α)
  /-- Something is noted, which takes no time. -/
  | note (note : Note) (resume : Activity Note α)

namespace Activity

/-- Do one activity after another. -/
def bind (first : Activity Note α) (next : α → Activity Note β) : Activity Note β :=
  match first with
  | .finish result => next result
  | .request url resume => .request url fun answer => (resume answer).bind next
  | .pause length resume => .pause length (resume.bind next)
  | .note event resume => .note event (resume.bind next)

instance : Monad (Activity Note) where
  pure := .finish
  bind := bind

@[simp] theorem pure_eq_finish (result : α) :
    (pure result : Activity Note α) = .finish result := rfl

@[simp] theorem finish_bind
    (result : α)
    (next : α → Activity Note β) :
    (finish result : Activity Note α) >>= next = next result := rfl

@[simp] theorem request_bind
    (url : Url)
    (resume : Answer → Activity Note α)
    (next : α → Activity Note β) :
    request url resume >>= next = request url fun answer => resume answer >>= next := rfl

@[simp] theorem pause_bind
    (length : Duration)
    (resume : Activity Note α)
    (next : α → Activity Note β) :
    pause length resume >>= next = pause length (resume >>= next) := rfl

@[simp] theorem note_bind
    (event : Note)
    (resume : Activity Note α)
    (next : α → Activity Note β) :
    note event resume >>= next = note event (resume >>= next) := rfl

theorem bind_finish (activity : Activity Note α) : activity.bind finish = activity := by
  induction activity with
  | finish result => rfl
  | request url resume hypothesis => simp [bind, hypothesis]
  | pause length resume hypothesis => simp [bind, hypothesis]
  | note event resume hypothesis => simp [bind, hypothesis]

theorem bind_bind
    (activity : Activity Note α)
    (next : α → Activity Note β)
    (last : β → Activity Note γ) :
    (activity.bind next).bind last = activity.bind fun result => (next result).bind last := by
  induction activity with
  | finish result => rfl
  | request url resume hypothesis => simp [bind, hypothesis]
  | pause length resume hypothesis => simp [bind, hypothesis]
  | note event resume hypothesis => simp [bind, hypothesis]

instance : LawfulMonad (Activity Note) :=
  LawfulMonad.mk' _ bind_finish (fun _ _ => rfl) bind_bind

/-- Let some time pass. -/
def rest (length : Duration) : Activity Note Unit := .pause length (.finish ())

/-- Note something. -/
def tell (event : Note) : Activity Note Unit := .note event (.finish ())

/-! ## Alone -/

/-- What an activity carried out alone leaves: the time on the clock, in
milliseconds, the requests it sent, and its notes. -/
structure Trace (Note : Type) where
  now : Nat
  requests : Array Url
  notes : Array Note

/-- The trace of nothing. -/
def Trace.empty : Trace Note := ⟨0, #[], #[]⟩

/-- Carry out an activity alone. -/
def alone (api : Api) : Activity Note α → Trace Note → α × Trace Note
  | .finish result, trace => (result, trace)
  | .request url resume, trace =>
      let exchange := api trace.requests.size url
      let wait := exchange.latency.waitMilliseconds
      (resume ⟨.ofMilliseconds wait, exchange.reply⟩).alone api
        { trace with now := trace.now + wait, requests := trace.requests.push url }
  | .pause length resume, trace =>
      resume.alone api { trace with now := trace.now + length.waitMilliseconds }
  | .note event resume, trace =>
      resume.alone api { trace with notes := trace.notes.push event }

end Activity
end TransitLoad
