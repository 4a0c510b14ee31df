import TaskTree.Fault

/-!
# Telling subscribers about events

A hub tells subscribers about events, such as executed commands.  What an event
is does not matter to it.  Each subscription has a queue of
bounded size.  A producer takes the subscriptions that listen at that moment
and puts its event into their queues one after another; at a full queue it
waits until the subscriber takes an event or closes.  Nothing is thrown away.
A closed subscription gets no more events, but what is in its queue can still
be taken.

The functions are the atomic sections: subscribing, looking at the listeners,
one put, one take, and the two halves of closing.  `run` lets a producer go on
until it has finished or stands at a full queue.
-/

namespace TaskTree

/-- A subscription: its queue, the oldest event first, and whether it is closed. -/
structure Events.Subscription (α : Type) where
  queue : List α := []
  closed : Bool := false
  deriving DecidableEq, Repr

/-- A producer: the event that it is delivering, with the subscriptions whose turn is
still to come, and the events after it. -/
structure Events.Producer (α : Type) where
  current : Option (α × List Nat) := none
  todo : List α := []
  deriving DecidableEq, Repr

/-- A hub.  Subscriptions and producers are numbered in the order in which they came;
`listeners` are the numbers of the subscriptions that get events. -/
structure Events (α : Type) where
  capacity : Int
  subscriptions : List (Events.Subscription α) := []
  listeners : List Nat := []
  producers : List (Events.Producer α) := []
  deriving DecidableEq, Repr

namespace Events

variable {α : Type}

/-- A hub without subscriptions. -/
def withCapacity (capacity : Int) : Events α := ⟨capacity, [], [], []⟩

/-- A queue of this length takes no more events.  A capacity that is not positive is none. -/
def isFull (hub : Events α) (length : Nat) : Bool :=
  0 < hub.capacity && hub.capacity ≤ length

/-- Add a subscription; its number is the number of those before it. -/
def subscribe (hub : Events α) : Events α × Nat :=
  let id := hub.subscriptions.length
  ({ hub with
      subscriptions := hub.subscriptions ++ [{}]
      listeners := hub.listeners ++ [id] }, id)

/-- Change a subscription. -/
def change (hub : Events α) (id : Nat) (f : Subscription α → Subscription α) : Events α :=
  { hub with subscriptions := hub.subscriptions.modify id f }

/-- The first half of closing: no more events are put into the queue. -/
def shut (hub : Events α) (id : Nat) : Events α :=
  hub.change id fun s => { s with closed := true }

/-- The second half of closing: later producers no longer see the subscription. -/
def unlist (hub : Events α) (id : Nat) : Events α :=
  { hub with listeners := hub.listeners.filter (· ≠ id) }

/-- Close a subscription. -/
def close (hub : Events α) (id : Nat) : Events α :=
  (hub.shut id).unlist id

/-- Take the oldest event of a queue. -/
def take? (hub : Events α) (id : Nat) : Option (α × Events α) :=
  match hub.subscriptions[id]? with
  | some ⟨event :: rest, closed⟩ => some (event, hub.change id fun _ => ⟨rest, closed⟩)
  | _ => none

/-- The seconds that a value stands for; nothing is no limit.  Only numbers can be compared with
zero, and whole numbers have to be in the range of real ones if they are not negative. -/
def secondsOf (v : Json) : Except Mishap (Option Binary64) :=
  match v with
  | .null => .ok none
  | .bool b => .ok (some (.ofInt (if b then 1 else 0)))
  | .int n =>
    match Binary64.ofInt n with
    | .infinite false => .error .beyondReals
    | x => .ok (some x)
  | .float x => .ok (some x)
  | v => .error (.notComparable v)

/-- The least number of nanoseconds that no clock can tell. -/
def endOfTime : Int := 9223372036854775808

/-- Nobody can begin to wait for so many seconds. -/
def isEndless (seconds : Binary64) : Bool :=
  endOfTime ≤ seconds.countParts 1000000000

/-- Take the oldest event of a queue, waiting for one no longer than so many seconds.
Nobody can wait for less than no time, whatever the queue holds, nor begin to wait for longer
than a clock can tell. -/
def receive (hub : Events α) (id : Nat) (seconds? : Option Binary64) :
    Except Mishap (α × Events α) :=
  if seconds?.any Binary64.isNegative then .error .negativeWait
  else
    match hub.take? id with
    | none => .error (if seconds?.any isEndless then .waitTooLong else .noEvent)
    | some taken => .ok taken

/-- The number of events in a queue. -/
def pending (hub : Events α) (id : Nat) : Nat :=
  (hub.subscriptions[id]?.map (·.queue.length)).getD 0

/-- What happens to an event at the subscription whose turn it is. -/
inductive Turn where
  /-- The subscription is closed and is passed over. -/
  | skip
  /-- The event is put into the queue. -/
  | put
  /-- The queue is full. -/
  | wait
  deriving DecidableEq, Repr

/-- What happens to an event at this subscription. -/
def turn (hub : Events α) (id : Nat) : Turn :=
  match hub.subscriptions[id]? with
  | none => .skip
  | some s => if s.closed then .skip else if hub.isFull s.queue.length then .wait else .put

/-- Put an event into a queue. -/
def put (hub : Events α) (event : α) (id : Nat) : Events α :=
  hub.change id fun s => { s with queue := s.queue ++ [event] }

/-- Deliver an event to these subscriptions as far as possible.  The subscriptions that
are left start with the one whose queue is full. -/
def deliver (event : α) : List Nat → Events α → Events α × List Nat
  | [], hub => (hub, [])
  | id :: rest, hub =>
    match hub.turn id with
    | .skip => deliver event rest hub
    | .put => deliver event rest (hub.put event id)
    | .wait => (hub, id :: rest)

/-- Let a producer begin and deliver these events as far as possible. -/
def produce : List α → Events α → Events α × Producer α
  | [], hub => (hub, {})
  | event :: rest, hub =>
    match deliver event hub.listeners hub with
    | (hub, []) => produce rest hub
    | (hub, left) => (hub, ⟨some (event, left), rest⟩)

/-- Let a producer go on as far as possible. -/
def run (producer : Producer α) (hub : Events α) : Events α × Producer α :=
  match producer.current with
  | none => produce producer.todo hub
  | some (event, ids) =>
    match deliver event ids hub with
    | (hub, []) => produce producer.todo hub
    | (hub, left) => (hub, { producer with current := some (event, left) })

/-- Let all producers go on as far as possible. -/
def runAll (hub : Events α) : Events α :=
  hub.producers.foldl
    (fun hub producer =>
      let (hub, producer) := run producer hub
      { hub with producers := hub.producers ++ [producer] })
    { hub with producers := [] }

/-- Add a producer of these events, and let it begin. -/
def start (hub : Events α) (events : List α) : Events α :=
  runAll { hub with producers := hub.producers ++ [⟨none, events⟩] }

/-- A producer that has not finished. -/
def Producer.isBusy (producer : Producer α) : Bool :=
  producer.current.isSome || !producer.todo.isEmpty

/-- Some producer stands at a full queue. -/
def isBlocked (hub : Events α) : Bool :=
  hub.producers.any Producer.isBusy

/-- Tell all listeners about one event.  Whoever has no room makes the teller wait. -/
def announce (hub : Events α) (event : α) : Events α :=
  hub.start [event]

end Events

end TaskTree
