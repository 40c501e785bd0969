import TransitLoad.Duration
import TransitLoad.Fault

/-!
# Admission

At most so many slots are held at once, until a deadline passes.  A client asks for
a slot and is given one, is turned away, or waits.  A slot that is given back goes
to the client that has waited longest; it counts as held from then on, although the
client has yet to take it up.  At the deadline every waiting client is turned away,
also one that a slot has been assigned to at that very moment.
-/

namespace TransitLoad

/-- The slots of a test.  Times are milliseconds on its clock. -/
structure Admission where
  capacity : Nat
  deadline : Nat
  /-- Slots that nobody holds and that are assigned to nobody. -/
  available : Nat
  /-- Clients that wait, the one that has waited longest first. -/
  waiting : List Nat
  /-- Clients that a slot is assigned to and that have not taken it up. -/
  assigned : List Nat
  /-- The most slots found held when one was taken. -/
  peak : Nat
  deriving DecidableEq

/-- What a client is told. -/
inductive Verdict where
  | granted
  | refused
  | mustWait
  deriving DecidableEq

namespace Admission

/-- The largest number of slots that can be counted. -/
def largestCapacity : Nat := 2305843009213693951

/-- So many free slots. -/
def opened (capacity deadline : Nat) : Admission :=
  ⟨capacity, deadline, capacity, [], [], 0⟩

/-- Open an admission, unless it has more slots than can be counted. -/
def open? (capacity deadline : Nat) : Except Fault Admission :=
  if largestCapacity < capacity then .error .tooManySlots else .ok (opened capacity deadline)

/-- The slots that are held or assigned. -/
def inUse (admission : Admission) : Nat := admission.capacity - admission.available

/-- Whether the deadline has passed. -/
def isExpired (admission : Admission) (now : Nat) : Bool := admission.deadline ≤ now

/-- Note how many slots are held now that one is taken. -/
def notePeak (admission : Admission) : Admission :=
  { admission with peak := max admission.peak admission.inUse }

/-- A client asks for a slot. -/
def ask (admission : Admission) (now client : Nat) : Admission × Verdict :=
  if admission.isExpired now then (admission, .refused)
  else if admission.available = 0 then
    ({ admission with waiting := admission.waiting ++ [client] }, .mustWait)
  else ({ admission with available := admission.available - 1 }.notePeak, .granted)

/-- A slot is given back.  It is assigned to the first waiting client, or free if
nobody waits. -/
def giveBack (admission : Admission) : Admission :=
  match admission.waiting with
  | [] => { admission with available := admission.available + 1 }
  | client :: waiting =>
      { admission with waiting := waiting, assigned := admission.assigned ++ [client] }

/-- A client gives up; a slot assigned to it is given back. -/
def withdraw (admission : Admission) (client : Nat) : Admission :=
  if client ∈ admission.assigned then
    { admission with assigned := admission.assigned.erase client }.giveBack
  else { admission with waiting := admission.waiting.erase client }

/-- A client that was waiting looks again.  The deadline counts before a slot. -/
def resume (admission : Admission) (now client : Nat) : Admission × Verdict :=
  if admission.isExpired now then (admission.withdraw client, .refused)
  else if client ∈ admission.assigned then
    ({ admission with assigned := admission.assigned.erase client }.notePeak, .granted)
  else (admission, .mustWait)

/-! ## Many clients -/

/-- An admission in use on a clock: one client that asks directly and others that
wait in the background.  Slots that are granted, to whomever, form one stock. -/
structure Session where
  admission : Admission
  now : Nat
  stock : Nat
  newcomer : Nat
  background : List Nat
  gaveUp : Nat
  deriving DecidableEq

namespace Session

/-- Nobody has asked yet. -/
def start (admission : Admission) : Session := ⟨admission, 0, 0, 0, [], 0⟩

/-- Take in what a client is told; a client that must wait does so in the
background. -/
def heed (session : Session) (client : Nat) (admission : Admission) : Verdict → Session
  | .granted => { session with admission, stock := session.stock + 1 }
  | .refused => { session with admission, gaveUp := session.gaveUp + 1 }
  | .mustWait => { session with admission, background := session.background ++ [client] }

/-- Every client in the background looks again. -/
def settle (session : Session) : Session :=
  session.background.foldl
    (fun session client =>
      let (admission, verdict) := session.admission.resume session.now client
      session.heed client admission verdict)
    { session with background := [] }

/-- A new client asks in the background. -/
def join (session : Session) : Session :=
  let client := session.newcomer
  let (admission, verdict) := session.admission.ask session.now client
  { session with newcomer := client + 1 }.heed client admission verdict

/-- Some time passes.  Those who wait at the deadline give up. -/
def advance (session : Session) (length : Duration) : Session :=
  { session with now := session.now + length.waitMilliseconds }.settle

/-- Ask directly and wait for the verdict.  A slot can only come back while time
stands still, so waiting means waiting for the deadline. -/
def acquire (session : Session) : Session × Bool :=
  let client := session.newcomer
  let (admission, verdict) := session.admission.ask session.now client
  let session := { session with admission, newcomer := client + 1 }
  match verdict with
  | .granted => ({ session with stock := session.stock + 1 }, true)
  | .refused => (session, false)
  | .mustWait =>
      let session := { session with now := max session.now admission.deadline }
      ({ session with admission := session.admission.withdraw client }.settle, false)

/-- Give back up to so many slots of the stock, and say how many. -/
def giveBack (session : Session) (count : Nat) : Session × Nat :=
  let count := min count session.stock
  ({ session with
      admission := Nat.repeat Admission.giveBack count session.admission
      stock := session.stock - count }.settle, count)

/-- All clients in the background give up for good. -/
def cancel (session : Session) : Session :=
  { session with
    admission := session.background.foldl Admission.withdraw session.admission
    background := [] }

end Session
end Admission
end TransitLoad
