import TaskTree.Named

/-!
# A gate for readers and writers

Many readers or one writer may be inside a gate.  Who cannot enter falls asleep
and is woken by those who leave: the last reader to leave and every writer that
leaves notify all sleepers.  A notified sleeper tests again and enters or falls
asleep again.  A waiting writer keeps new readers out, so that readers cannot
starve it.

The gate keeps three counters and the place of each visitor.  The counters are
what the tests look at; that they agree with the places is a theorem about all
runs, not part of the definition.  `Step` is one atomic section of one visitor,
and `Reachable` collects what runs of any number of visitors can lead to.
-/

namespace TaskTree

/-- What a visitor wants to do inside. -/
inductive Gate.Role where
  | reader
  | writer
  deriving DecidableEq, Repr

/-- Where a visitor is. -/
inductive Gate.Place where
  /-- Outside the door, asleep; `notified` once somebody who left has woken it. -/
  | asleep (notified : Bool)
  | inside
  deriving DecidableEq, Repr

/-- A visitor that has come and not left. -/
structure Gate.Visitor where
  role : Gate.Role
  place : Gate.Place
  deriving DecidableEq, Repr

/-- The counters of a gate and its visitors. -/
structure Gate where
  readers : Nat := 0
  writing : Bool := false
  writersWaiting : Nat := 0
  visitors : Named Gate.Visitor := []
  deriving DecidableEq, Repr

namespace Gate

/-- A gate without visitors. -/
def empty : Gate := ⟨0, false, 0, []⟩

/-- The test that a visitor makes before it enters. -/
def admits (gate : Gate) : Role → Bool
  | .reader => !gate.writing && gate.writersWaiting == 0
  | .writer => !gate.writing && gate.readers == 0

/-- Set the place of a visitor. -/
def settle (gate : Gate) (name : String) (role : Role) (place : Place) : Gate :=
  { gate with visitors := Named.insert name ⟨role, place⟩ gate.visitors }

/-- A visitor goes inside. -/
def enter (gate : Gate) (name : String) : Role → Gate
  | .reader => { gate with readers := gate.readers + 1 }.settle name .reader .inside
  | .writer => { gate with writing := true }.settle name .writer .inside

/-- A visitor comes: it goes inside, or it falls asleep.  A sleeping writer is counted. -/
def arrive (gate : Gate) (name : String) (role : Role) : Gate :=
  if Named.has name gate.visitors then gate
  else if gate.admits role then gate.enter name role
  else
    match role with
    | .reader => gate.settle name .reader (.asleep false)
    | .writer =>
      { gate with writersWaiting := gate.writersWaiting + 1 }.settle name .writer (.asleep false)

/-- A notified sleeper tests again. -/
def wake (gate : Gate) (name : String) : Gate :=
  match Named.find? name gate.visitors with
  | some ⟨role, .asleep true⟩ =>
    if gate.admits role then
      match role with
      | .reader => gate.enter name .reader
      | .writer =>
        { gate with writersWaiting := gate.writersWaiting - 1 }.enter name .writer
    else gate.settle name role (.asleep false)
  | _ => gate

/-- Notify all sleepers. -/
def notifyAll (gate : Gate) : Gate :=
  { gate with
    visitors := gate.visitors.map fun (name, v) =>
      match v.place with
      | .asleep _ => (name, { v with place := .asleep true })
      | .inside => (name, v) }

/-- A visitor inside leaves. -/
def leave (gate : Gate) (name : String) : Gate :=
  match Named.find? name gate.visitors with
  | some ⟨.reader, .inside⟩ =>
    let rest := { gate with
      readers := gate.readers - 1, visitors := Named.erase name gate.visitors }
    if rest.readers = 0 then rest.notifyAll else rest
  | some ⟨.writer, .inside⟩ =>
    { gate with writing := false, visitors := Named.erase name gate.visitors }.notifyAll
  | _ => gate

/-- Let all notified sleepers test, in the order in which they came. -/
def wakeAll (gate : Gate) : Gate :=
  (Named.names gate.visitors).foldl wake gate

/-- The visitors inside. -/
def holding (gate : Gate) : List String :=
  (gate.visitors.filter fun entry => entry.2.place = .inside).map Prod.fst

/-- The visitors outside. -/
def waiting (gate : Gate) : List String :=
  (gate.visitors.filter fun entry => entry.2.place ≠ .inside).map Prod.fst

/-- One atomic section of one visitor. -/
inductive Step : Gate → Gate → Prop where
  | arrive (gate : Gate) (name : String) (role : Role) :
      Named.has name gate.visitors = false → Step gate (gate.arrive name role)
  | wake (gate : Gate) (name : String) (role : Role) :
      Named.find? name gate.visitors = some ⟨role, .asleep true⟩ → Step gate (gate.wake name)
  | leave (gate : Gate) (name : String) (role : Role) :
      Named.find? name gate.visitors = some ⟨role, .inside⟩ → Step gate (gate.leave name)

/-- The gates that runs lead to. -/
inductive Reachable : Gate → Prop where
  | start : Reachable Gate.empty
  | step {gate next : Gate} : Reachable gate → Step gate next → Reachable next

end Gate

end TaskTree
