import Mathlib.Data.List.Nodup
import Mathlib.Logic.Function.Basic
import Mathlib.Logic.Relation
import TaskTree.Proofs.Events.Announcement

/-!
# Producers and subscribers in any order

Producers and subscribers share a hub, and each of them takes its steps at any
time (`Traffic.Step`).  A producer looks at the listeners, gives its event to
them one by one, and goes on to its next event.  Subscribers come, take events
and leave meanwhile.  No step loses an event, delivers one twice or changes
the order in which one producer's events arrive, and a queue never grows
beyond its capacity (`InOrder.step`, `delivered_in_order`).

What the functions of a hub do they do by such steps (`brings_runAll`,
`reaches_start`, `step_receive`, `reaches_close`).
-/

namespace TaskTree.Events

variable {α : Type}

/-- An event, with the number of its producer and its own number among the events of that
producer. -/
structure Tagged (α : Type) where
  producer : Nat
  number : Nat
  event : α
  deriving DecidableEq, Repr

/-- What tells an event from all others. -/
def Tagged.key (e : Tagged α) : Nat × Nat :=
  (e.producer, e.number)

/-- The events of a producer, in their order. -/
def tag (p : Nat) (events : List α) : List (Tagged α) :=
  events.mapIdx fun number event => ⟨p, number, event⟩

/-- A producer in the place of another. -/
def withProducer (hub : Events α) (p : Nat) (producer : Producer α) : Events α :=
  { hub with producers := hub.producers.set p producer }

/-- A producer in its own place changes nothing. -/
theorem withProducer_self {hub : Events α} {p : Nat} {producer : Producer α}
    (hp : hub.producers[p]? = some producer) : hub.withProducer p producer = hub := by
  obtain ⟨hlt, rfl⟩ := List.getElem?_eq_some_iff.1 hp
  rw [withProducer, List.set_getElem_self]

/-- Of two producers in one place the second counts. -/
theorem withProducer_withProducer (hub : Events α) (p : Nat) (producer producer' : Producer α) :
    (hub.withProducer p producer).withProducer p producer' = hub.withProducer p producer' := by
  simp [withProducer]

/-- The producer that was put in a place is there. -/
theorem getElem?_withProducer {hub : Events α} {p : Nat} {producer : Producer α}
    (hp : hub.producers[p]? = some producer) (producer' : Producer α) :
    (hub.withProducer p producer').producers[p]? = some producer' :=
  List.getElem?_set_self (List.getElem?_eq_some_iff.1 hp).1

/-- Delivering an event does not look at the producers. -/
theorem deliver_withProducer (event : α) (ids : List Nat) (hub : Events α) (p : Nat)
    (producer : Producer α) :
    deliver event ids (hub.withProducer p producer) =
      ((deliver event ids hub).1.withProducer p producer, (deliver event ids hub).2) := by
  rw [withProducer, deliver_producers, withProducer, (deliver_spec event ids hub).producers]

/-- Running a producer does not look at the others. -/
theorem run_withProducer (next : Producer α) (hub : Events α) (p : Nat) (producer : Producer α) :
    run next (hub.withProducer p producer) =
      ((run next hub).1.withProducer p producer, (run next hub).2) := by
  rw [withProducer, run_producers, withProducer, producers_run]

/-- It is the subscription's turn later on in the delivery of this event. -/
def Producer.isAhead (producer : Producer (Tagged α)) (id : Nat) (key : Nat × Nat) : Bool :=
  producer.current.any fun (e, left) => e.key == key && left.contains id

/-- A hub in use.  Beside the hub stands what has happened so far. -/
structure Traffic (α : Type) where
  hub : Events (Tagged α)
  /-- All events that each producer announces sooner or later. -/
  programs : Nat → List α
  /-- The listeners that a producer saw when it began with an event. -/
  seen : Nat × Nat → Option (List Nat)
  /-- The events that were taken from each queue. -/
  taken : Nat → List (Tagged α)

namespace Traffic

/-- A new hub. -/
def opened (capacity : Int) : Traffic α :=
  ⟨.withCapacity capacity, fun _ => [], fun _ => none, fun _ => []⟩

/-- The events of one producer. -/
def eventsOf (x : Traffic α) (p : Nat) : List (Tagged α) :=
  tag p (x.programs p)

/-- The events that were put into a queue: those that were taken, and then those that wait. -/
def reached (x : Traffic α) (id : Nat) : List (Tagged α) :=
  x.taken id ++ x.hub.queueOf id

/-- The subscription's turn in the delivery of an event is still to come. -/
def isAhead (x : Traffic α) (id : Nat) (e : Tagged α) : Bool :=
  x.hub.producers[e.producer]?.any (·.isAhead id e.key)

/-- The producer saw the subscription when it began with this event, and the subscription's turn
has passed. -/
def isDue (x : Traffic α) (id : Nat) (e : Tagged α) : Bool :=
  (x.seen e.key).any (·.contains id) && !x.isAhead id e

/-- One step of somebody at a hub. -/
inductive Step : Traffic α → Traffic α → Prop
  /-- A producer comes, with all its events. -/
  | join (x : Traffic α) (events : List α) :
      Step x { x with
        hub := { x.hub with
          producers := x.hub.producers ++ [⟨none, tag x.hub.producers.length events⟩] }
        programs := Function.update x.programs x.hub.producers.length events }
  /-- A producer begins with its next event: it looks who listens. -/
  | look {x : Traffic α} {p : Nat} {e : Tagged α} {todo : List (Tagged α)}
      (h : x.hub.producers[p]? = some ⟨none, e :: todo⟩) :
      Step x { x with
        hub := x.hub.withProducer p ⟨some (e, x.hub.listeners), todo⟩
        seen := Function.update x.seen e.key (some x.hub.listeners) }
  /-- There is room in the queue whose turn it is.  The subscription was open when the producer
  came to it, but it can have been closed in between. -/
  | put {x : Traffic α} {p : Nat} {e : Tagged α} {id : Nat} {rest : List Nat}
      {todo : List (Tagged α)} (h : x.hub.producers[p]? = some ⟨some (e, id :: rest), todo⟩)
      (hroom : x.hub.isFull (x.hub.queueOf id).length = false) :
      Step x { x with hub := (x.hub.put e id).withProducer p ⟨some (e, rest), todo⟩ }
  /-- A closed subscription is passed over. -/
  | skip {x : Traffic α} {p : Nat} {e : Tagged α} {id : Nat} {rest : List Nat}
      {todo : List (Tagged α)} (h : x.hub.producers[p]? = some ⟨some (e, id :: rest), todo⟩)
      (hclosed : ¬ x.hub.IsOpen id) :
      Step x { x with hub := x.hub.withProducer p ⟨some (e, rest), todo⟩ }
  /-- All have had their turn. -/
  | finish {x : Traffic α} {p : Nat} {e : Tagged α} {todo : List (Tagged α)}
      (h : x.hub.producers[p]? = some ⟨some (e, []), todo⟩) :
      Step x { x with hub := x.hub.withProducer p ⟨none, todo⟩ }
  /-- A subscriber comes. -/
  | subscribe (x : Traffic α) : Step x { x with hub := x.hub.subscribe.1 }
  /-- A subscriber takes an event. -/
  | take {x : Traffic α} {id : Nat} {e : Tagged α} {hub : Events (Tagged α)}
      (h : x.hub.take? id = some (e, hub)) :
      Step x { x with hub, taken := Function.update x.taken id (x.taken id ++ [e]) }
  /-- The first half of closing. -/
  | shut (x : Traffic α) (id : Nat) : Step x { x with hub := x.hub.shut id }
  /-- The second half of closing. -/
  | unlist {x : Traffic α} {id : Nat} (hclosed : ¬ x.hub.IsOpen id) :
      Step x { x with hub := x.hub.unlist id }

/-- Any number of steps. -/
def Reaches : Traffic α → Traffic α → Prop :=
  Relation.ReflTransGen Step

variable {x x' : Traffic α}

/-! The events of a producer. -/

/-- The events of a producer have its number. -/
theorem producer_of_mem {p : Nat} {e : Tagged α} (h : e ∈ x.eventsOf p) : e.producer = p := by
  obtain ⟨number, hlt, rfl⟩ := List.mem_mapIdx.1 h
  rfl

/-- No two events of a producer have the same key. -/
theorem nodup_keys (x : Traffic α) (p : Nat) : ((x.eventsOf p).map Tagged.key).Nodup := by
  have hkeys : (x.eventsOf p).map Tagged.key =
      (List.range (x.programs p).length).map fun number => (p, number) := by
    unfold eventsOf tag
    apply List.ext_getElem
    · simp
    · intro number _ _
      simp [Tagged.key]
  rw [hkeys]
  refine List.Nodup.map (fun _ _ heq => ?_) List.nodup_range
  exact (Prod.mk.inj heq).2

/-- How far a producer has come with its events. -/
structure Progress (x : Traffic α) (p : Nat) (producer : Producer (Tagged α)) : Prop where
  split : ∃ done, x.eventsOf p = done ++ (producer.current.map Prod.fst).toList ++ producer.todo
  begun : ∀ e left, producer.current = some (e, left) →
    ∃ ids, x.seen e.key = some ids ∧ left <:+ ids
  still : ∀ e ∈ producer.todo, x.seen e.key = none

variable {p : Nat} {producer : Producer (Tagged α)}

/-- What a producer has still to do is one of its events. -/
theorem Progress.mem_todo (h : x.Progress p producer) {e : Tagged α} (he : e ∈ producer.todo) :
    e ∈ x.eventsOf p := by
  obtain ⟨done, hsplit⟩ := h.split
  rw [hsplit]
  exact List.mem_append_right _ he

/-- What a producer is delivering is one of its events. -/
theorem Progress.mem_current (h : x.Progress p producer) {e : Tagged α} {left : List Nat}
    (he : producer.current = some (e, left)) : e ∈ x.eventsOf p := by
  obtain ⟨done, hsplit⟩ := h.split
  rw [hsplit, he]
  simp

/-- What others begin does not count for a producer. -/
theorem Progress.of_others (h : x.Progress p producer) (hevents : x'.eventsOf p = x.eventsOf p)
    (hseen : ∀ key : Nat × Nat, key.1 = p → x'.seen key = x.seen key) :
    x'.Progress p producer := by
  refine ⟨hevents ▸ h.split, fun e left hcurrent => ?_, fun e he => ?_⟩
  · rw [hseen e.key (producer_of_mem (h.mem_current hcurrent))]
    exact h.begun e left hcurrent
  · rw [hseen e.key (producer_of_mem (h.mem_todo he))]
    exact h.still e he

/-- Any other event of a producer has another key. -/
theorem key_ne_of_split {done todo : List (Tagged α)} {e : Tagged α}
    (h : x.eventsOf p = done ++ [e] ++ todo) :
    (∀ f ∈ done, f.key ≠ e.key) ∧ ∀ f ∈ todo, f.key ≠ e.key := by
  have hnodup := x.nodup_keys p
  rw [h, List.map_append, List.map_append, List.append_assoc, List.nodup_append] at hnodup
  obtain ⟨-, hlater, hearlier⟩ := hnodup
  refine ⟨fun f hf heq => ?_, fun f hf heq => ?_⟩
  · refine hearlier f.key (List.mem_map_of_mem hf) e.key ?_ heq
    simp
  · have hnew := (List.nodup_cons.1 hlater).1
    exact hnew (heq ▸ List.mem_map_of_mem hf)

/-! Turns that are to come, and turns that have passed. -/

/-- What is due to a subscription from other producers stays the same. -/
theorem isDue_of_others {q : Nat} {e : Tagged α} (he : e.producer = q)
    (hproducer : x'.hub.producers[q]? = x.hub.producers[q]?)
    (hseen : x'.seen e.key = x.seen e.key) (id : Nat) : x'.isDue id e = x.isDue id e := by
  unfold isDue isAhead
  rw [he, hproducer, hseen]

/-- An event is not due before its producer begins with it. -/
theorem isDue_of_not_seen {e : Tagged α} (h : x.seen e.key = none) (id : Nat) :
    x.isDue id e = false := by
  unfold isDue
  rw [h]
  rfl

/-- What a subscription was told: from each producer the events that are due, in their order, and
all of them unless it was closed. -/
structure Told (x : Traffic α) (id : Nat) : Prop where
  ordered : ∀ p, ((x.reached id).filter fun e => e.producer = p).Sublist
    ((x.eventsOf p).filter (x.isDue id))
  whole : x.hub.IsOpen id → ∀ p, (x.reached id).filter (fun e => e.producer = p) =
    (x.eventsOf p).filter (x.isDue id)

/-- What holds at all times. -/
structure InOrder (x : Traffic α) : Prop where
  kept : x.hub.IsKept
  fits : 0 < x.hub.capacity → ∀ id, ((x.hub.queueOf id).length : Int) ≤ x.hub.capacity
  audience : ∀ key ids, x.seen key = some ids →
    ids.Nodup ∧ ∀ id ∈ ids, id < x.hub.subscriptions.length
  unborn : ∀ p, x.hub.producers.length ≤ p →
    x.programs p = [] ∧ ∀ number, x.seen (p, number) = none
  progress : ∀ p producer, x.hub.producers[p]? = some producer → x.Progress p producer
  told : ∀ id, x.Told id

/-- At a new hub everything is in order. -/
theorem inOrder_opened (capacity : Int) : (opened capacity : Traffic α).InOrder := by
  refine ⟨isKept_withCapacity capacity, fun hpositive id => ?_, fun key ids hseen => ?_,
    fun p _ => ⟨rfl, fun _ => rfl⟩, fun p producer hp => ?_,
    fun id => ⟨fun p => ?_, fun hopen => ?_⟩⟩
  · exact Int.le_of_lt hpositive
  · cases hseen
  · cases hp
  · exact List.nil_sublist _
  · exact absurd hopen.lt (Nat.not_lt_zero id)

/-- Nothing is due to a subscription that is still to come. -/
theorem InOrder.isDue_of_le (h : x.InOrder) {id : Nat} (hid : x.hub.subscriptions.length ≤ id)
    (e : Tagged α) : x.isDue id e = false := by
  unfold isDue
  cases hseen : x.seen e.key with
  | none => rfl
  | some ids =>
    have hnot : id ∉ ids := by
      intro hmem
      have hlt := (h.audience e.key ids hseen).2 id hmem
      omega
    simp [hnot]

/-- What was told stays told when nothing reaches the subscription and no turn passes. -/
theorem Told.same {id : Nat} (h : x.Told id) (hopen : x'.hub.IsOpen id → x.hub.IsOpen id)
    (hreached : x'.reached id = x.reached id)
    (hdue : ∀ p, (x'.eventsOf p).filter (x'.isDue id) = (x.eventsOf p).filter (x.isDue id)) :
    x'.Told id := by
  refine ⟨fun p => ?_, fun hid p => ?_⟩
  · rw [hreached, hdue p]
    exact h.ordered p
  · rw [hreached, hdue p]
    exact h.whole (hopen hid) p

/-! What the subscribers do. -/

/-- A subscriber that leaves the producers and their events alone keeps the order. -/
theorem InOrder.attended (h : x.InOrder) {hub : Events (Tagged α)} {taken : Nat → List (Tagged α)}
    (hkept : hub.IsKept) (hcapacity : hub.capacity = x.hub.capacity)
    (hproducers : hub.producers = x.hub.producers)
    (hcount : x.hub.subscriptions.length ≤ hub.subscriptions.length)
    (hshorter : ∀ id, (hub.queueOf id).length ≤ (x.hub.queueOf id).length)
    (hreached : ∀ id, taken id ++ hub.queueOf id = x.reached id)
    (hopen : ∀ id, hub.IsOpen id → x.hub.IsOpen id ∨ x.hub.subscriptions.length ≤ id) :
    InOrder { x with hub, taken } := by
  have hdue : ∀ id e, isDue { x with hub, taken } id e = x.isDue id e := by
    intro id e
    unfold isDue isAhead
    rw [hproducers]
  have hsame : ∀ id p, ((x.eventsOf p).filter (isDue { x with hub, taken } id)) =
      (x.eventsOf p).filter (x.isDue id) := fun id p =>
    List.filter_congr fun e _ => hdue id e
  refine ⟨hkept, fun hpositive id => ?_, fun key ids hseen => ?_, fun p hp => ?_,
    fun p producer hp => ?_, fun id => ⟨fun p => ?_, fun hid p => ?_⟩⟩
  · have hfits := h.fits (hcapacity ▸ hpositive) id
    have hlength := hshorter id
    change ((hub.queueOf id).length : Int) ≤ hub.capacity
    omega
  · obtain ⟨hdistinct, hbounded⟩ := h.audience key ids hseen
    exact ⟨hdistinct, fun id hmem => Nat.lt_of_lt_of_le (hbounded id hmem) hcount⟩
  · exact h.unborn p (hproducers ▸ hp)
  · exact (h.progress p producer (hproducers ▸ hp)).of_others rfl fun _ _ => rfl
  · change ((taken id ++ hub.queueOf id).filter _).Sublist ((x.eventsOf p).filter _)
    rw [hreached id, hsame id p]
    exact (h.told id).ordered p
  · change (taken id ++ hub.queueOf id).filter _ = (x.eventsOf p).filter _
    rw [hreached id, hsame id p]
    rcases hopen id hid with hbefore | hnew
    · exact (h.told id).whole hbefore p
    · have hnothing : (x.eventsOf p).filter (x.isDue id) = [] :=
        List.filter_eq_nil_iff.2 fun e _ => by simp [h.isDue_of_le hnew e]
      have hreach := (h.told id).ordered p
      rw [hnothing] at hreach ⊢
      exact List.sublist_nil.1 hreach

/-- A new subscription keeps the order. -/
theorem InOrder.subscribe (h : x.InOrder) : InOrder { x with hub := x.hub.subscribe.1 } := by
  have hgrown : x.hub.subscribe.1.subscriptions.length = x.hub.subscriptions.length + 1 :=
    List.length_append
  refine h.attended h.kept.subscribe rfl rfl (by omega)
    (fun id => Nat.le_of_eq (congrArg _ (queueOf_subscribe x.hub id))) (fun id => ?_)
    fun id hid => ?_
  · rw [queueOf_subscribe]
    rfl
  · rcases isOpen_subscribe hid with hnew | hbefore
    · exact .inr (Nat.le_of_eq hnew.symm)
    · exact .inl hbefore

/-- Taking an event keeps the order. -/
theorem InOrder.take (h : x.InOrder) {id : Nat} {e : Tagged α} {hub : Events (Tagged α)}
    (htake : x.hub.take? id = some (e, hub)) :
    InOrder { x with hub, taken := Function.update x.taken id (x.taken id ++ [e]) } := by
  obtain ⟨haudience, hproducers, -, hqueue, hother⟩ := take?_eq_some htake
  refine h.attended (h.kept.same haudience) (capacity_take? htake) hproducers
    (Nat.le_of_eq haudience.count.symm) (fun other => ?_) (fun other => ?_)
    fun other hopen => .inl ((haudience.isOpen other).1 hopen)
  · by_cases heq : other = id
    · subst heq
      rw [hqueue]
      exact Nat.le_succ _
    · exact Nat.le_of_eq (congrArg _ (hother other heq))
  · by_cases heq : other = id
    · subst heq
      rw [Function.update_self, List.append_assoc, reached, hqueue]
      rfl
    · rw [Function.update_of_ne heq, hother other heq]
      rfl

/-- The first half of closing keeps the order. -/
theorem InOrder.shut (h : x.InOrder) (id : Nat) : InOrder { x with hub := x.hub.shut id } := by
  have hcount : (x.hub.shut id).subscriptions.length = x.hub.subscriptions.length :=
    List.length_modify ..
  refine h.attended (h.kept.shut id) rfl rfl (Nat.le_of_eq hcount.symm)
    (fun other => Nat.le_of_eq (congrArg _ (queueOf_shut x.hub id other))) (fun other => ?_)
    fun other hopen => .inl (isOpen_shut hopen)
  rw [queueOf_shut]
  rfl

/-- The second half of closing keeps the order. -/
theorem InOrder.unlist (h : x.InOrder) {id : Nat} (hclosed : ¬ x.hub.IsOpen id) :
    InOrder { x with hub := x.hub.unlist id } :=
  h.attended (h.kept.unlist hclosed) rfl rfl (Nat.le_refl _) (fun _ => Nat.le_refl _)
    (fun _ => rfl) fun _ hopen => .inl hopen

/-! What a producer does. -/

/-- A producer that comes has announced nothing yet. -/
theorem InOrder.join (h : x.InOrder) (events : List α) :
    InOrder { x with
      hub := { x.hub with
        producers := x.hub.producers ++ [⟨none, tag x.hub.producers.length events⟩] }
      programs := Function.update x.programs x.hub.producers.length events } := by
  set x' : Traffic α := { x with
      hub := { x.hub with
        producers := x.hub.producers ++ [⟨none, tag x.hub.producers.length events⟩] }
      programs := Function.update x.programs x.hub.producers.length events } with hx'
  have hproducers : ∀ p, x'.hub.producers[p]? = if p = x.hub.producers.length then
      some ⟨none, tag x.hub.producers.length events⟩ else x.hub.producers[p]? :=
    getElem?_concat _ _
  have hevents : ∀ p, p ≠ x.hub.producers.length → x'.eventsOf p = x.eventsOf p := fun p hp =>
    congrArg (tag p) (Function.update_of_ne hp ..)
  have hnew : x'.eventsOf x.hub.producers.length = tag x.hub.producers.length events :=
    congrArg (tag _) (Function.update_self ..)
  obtain ⟨hnothing, hnotSeen⟩ := h.unborn _ (Nat.le_refl _)
  have haudience : SameAudience x.hub x'.hub := sameAudience_producers ..
  refine ⟨h.kept.same haudience, h.fits, h.audience, fun p hp => ?_, fun p producer hp => ?_,
    fun id => (h.told id).same (haudience.isOpen id).1 rfl fun p => ?_⟩
  · have hlater : x.hub.producers.length + 1 ≤ p := by
      simpa [hx'] using hp
    refine ⟨?_, (h.unborn p (by omega)).2⟩
    exact (Function.update_of_ne (by omega) ..).trans (h.unborn p (by omega)).1
  · rw [hproducers] at hp
    split at hp
    · next hp' =>
      cases hp
      subst hp'
      refine ⟨⟨[], hnew⟩, fun e left hcurrent => (Option.some_ne_none _ hcurrent.symm).elim,
        fun e he => ?_⟩
      have hkey : e.key = (x.hub.producers.length, e.number) :=
        Prod.ext (producer_of_mem (hnew ▸ he)) rfl
      rw [hkey]
      exact hnotSeen _
    · next hp' => exact (h.progress p producer hp).of_others (hevents p hp') fun _ _ => rfl
  · by_cases hp : p = x.hub.producers.length
    · subst hp
      have hbefore : x.eventsOf x.hub.producers.length = [] := by
        rw [eventsOf, hnothing]
        rfl
      rw [hbefore]
      refine List.filter_eq_nil_iff.2 fun e he => ?_
      have hkey : e.key = (x.hub.producers.length, e.number) := Prod.ext (producer_of_mem he) rfl
      simp [isDue_of_not_seen (show x'.seen e.key = none from hkey ▸ hnotSeen _) id]
    · rw [hevents p hp]
      have hsame : x'.hub.producers[p]? = x.hub.producers[p]? := by
        rw [hproducers, if_neg hp]
      exact List.filter_congr fun e he => isDue_of_others (producer_of_mem he) hsame rfl id

/-- A producer moves on, and nobody else does. -/
structure Moves (x x' : Traffic α) (p : Nat) (old new : Producer (Tagged α)) : Prop where
  before : x.hub.producers[p]? = some old
  producers : x'.hub.producers = x.hub.producers.set p new
  audience : SameAudience x.hub x'.hub
  capacity : x'.hub.capacity = x.hub.capacity
  programs : x'.programs = x.programs
  others : ∀ key : Nat × Nat, key.1 ≠ p → x'.seen key = x.seen key

/-- To put a new producer in the place of an old one is to move it on. -/
theorem moves_withProducer {old : Producer (Tagged α)} (hp : x.hub.producers[p]? = some old)
    (new : Producer (Tagged α)) :
    Moves x { x with hub := x.hub.withProducer p new } p old new :=
  ⟨hp, rfl, sameAudience_producers .., rfl, rfl, fun _ _ => rfl⟩

section Moves

variable {old new : Producer (Tagged α)}

/-- The producer that moved on is the new one. -/
theorem Moves.after (h : Moves x x' p old new) : x'.hub.producers[p]? = some new := by
  rw [h.producers, List.getElem?_set_self (List.getElem?_eq_some_iff.1 h.before).1]

/-- The other producers stay as they were. -/
theorem Moves.after_other (h : Moves x x' p old new) {q : Nat} (hq : q ≠ p) :
    x'.hub.producers[q]? = x.hub.producers[q]? := by
  rw [h.producers, List.getElem?_set_ne (Ne.symm hq)]

/-- The events of all producers stay as they were. -/
theorem Moves.eventsOf_eq (h : Moves x x' p old new) (q : Nat) :
    x'.eventsOf q = x.eventsOf q := by
  rw [eventsOf, h.programs, eventsOf]

/-- The same events of other producers are due afterwards. -/
theorem Moves.due_other (h : Moves x x' p old new) (id : Nat) {q : Nat} (hq : q ≠ p) :
    (x'.eventsOf q).filter (x'.isDue id) = (x.eventsOf q).filter (x.isDue id) := by
  rw [h.eventsOf_eq]
  refine List.filter_congr fun e he => ?_
  have hother := producer_of_mem he
  exact isDue_of_others hother (h.after_other hq)
    (h.others e.key fun heq => hq (hother.symm.trans heq)) id

/-- If the same events of the producer are due afterwards, the same events of all are. -/
theorem Moves.due_eq (h : Moves x x' p old new) {id : Nat}
    (hdue : ∀ e ∈ x.eventsOf p, x'.isDue id e = x.isDue id e) (q : Nat) :
    (x'.eventsOf q).filter (x'.isDue id) = (x.eventsOf q).filter (x.isDue id) := by
  by_cases hq : q = p
  · subst hq
    rw [h.eventsOf_eq]
    exact List.filter_congr hdue
  · exact h.due_other id hq

/-- Whether an event is due is told by its producer. -/
theorem isDue_eq (hp : x.hub.producers[p]? = some producer) {e : Tagged α}
    (he : e ∈ x.eventsOf p) (id : Nat) :
    x.isDue id e = ((x.seen e.key).any (·.contains id) && !producer.isAhead id e.key) := by
  unfold isDue isAhead
  rw [producer_of_mem he, hp]
  rfl

/-- A move keeps the order if it does so for the producer itself, and for the subscriptions. -/
theorem InOrder.moves (h : x.InOrder) (hmoves : Moves x x' p old new)
    (hfits : 0 < x.hub.capacity → ∀ id, ((x'.hub.queueOf id).length : Int) ≤ x.hub.capacity)
    (hseen : ∀ key ids, x'.seen key = some ids →
      ids.Nodup ∧ ∀ id ∈ ids, id < x.hub.subscriptions.length)
    (hprogress : x'.Progress p new) (htold : ∀ id, x'.Told id) : x'.InOrder := by
  refine ⟨h.kept.same hmoves.audience, hmoves.capacity ▸ hfits, hmoves.audience.count ▸ hseen,
    fun q hq => ?_, fun q producer hproducer => ?_, htold⟩
  · have hlt := (List.getElem?_eq_some_iff.1 hmoves.before).1
    rw [hmoves.producers, List.length_set] at hq
    obtain ⟨hnothing, hnotSeen⟩ := h.unborn q hq
    refine ⟨hmoves.programs ▸ hnothing, fun number => ?_⟩
    have hother : q ≠ p := by omega
    exact (hmoves.others (q, number) hother).trans (hnotSeen number)
  · by_cases hq : q = p
    · subst hq
      rw [hmoves.after] at hproducer
      cases hproducer
      exact hprogress
    · rw [hmoves.after_other hq] at hproducer
      exact (h.progress q producer hproducer).of_others (hmoves.eventsOf_eq q)
        fun key hkey => hmoves.others key (hkey ▸ hq)

end Moves

section Turns

variable {e : Tagged α} {id : Nat} {left rest : List Nat} {todo : List (Tagged α)}

/-- A producer that delivers one event has no turn ahead for the others. -/
theorem isAhead_other {key : Nat × Nat} (hkey : key ≠ e.key) :
    Producer.isAhead ⟨some (e, left), todo⟩ id key = false := by
  have hne : (e.key == key) = false := beq_false_of_ne (Ne.symm hkey)
  simp [Producer.isAhead, hne]

/-- For a producer the turns that are left are still to come. -/
theorem isAhead_self (e : Tagged α) (id : Nat) (left : List Nat) (todo : List (Tagged α)) :
    Producer.isAhead ⟨some (e, left), todo⟩ id e.key = left.contains id := by
  simp [Producer.isAhead]

/-- A producer begins with its next event: all turns are still to come. -/
theorem InOrder.look (h : x.InOrder) (hp : x.hub.producers[p]? = some ⟨none, e :: todo⟩) :
    InOrder { x with
      hub := x.hub.withProducer p ⟨some (e, x.hub.listeners), todo⟩
      seen := Function.update x.seen e.key (some x.hub.listeners) } := by
  set x' : Traffic α := { x with
    hub := x.hub.withProducer p ⟨some (e, x.hub.listeners), todo⟩
    seen := Function.update x.seen e.key (some x.hub.listeners) } with hx'
  have hbefore := h.progress p _ hp
  have he : e ∈ x.eventsOf p := hbefore.mem_todo (List.mem_cons_self ..)
  have hseenSelf : x'.seen e.key = some x.hub.listeners := Function.update_self ..
  have hseenOther : ∀ key, key ≠ e.key → x'.seen key = x.seen key := fun key hkey =>
    Function.update_of_ne hkey ..
  have hmoves : Moves x x' p ⟨none, e :: todo⟩ ⟨some (e, x.hub.listeners), todo⟩ := by
    refine ⟨hp, rfl, sameAudience_producers .., rfl, rfl, fun key hkey => hseenOther key ?_⟩
    intro heq
    rw [heq] at hkey
    exact hkey (producer_of_mem he)
  obtain ⟨done, hsplit⟩ := hbefore.split
  have hsplit' : x.eventsOf p = done ++ [e] ++ todo := by simpa using hsplit
  refine h.moves hmoves h.fits (fun key ids hids => ?_) ⟨⟨done, hsplit'⟩, ?_, fun f hf => ?_⟩
    fun id => (h.told id).same (hmoves.audience.isOpen id).1 rfl (hmoves.due_eq fun f hf => ?_)
  · by_cases hkey : key = e.key
    · subst hkey
      rw [hseenSelf] at hids
      cases hids
      exact ⟨h.kept.distinct, h.kept.bounded⟩
    · rw [hseenOther key hkey] at hids
      exact h.audience key ids hids
  · intro f left hcurrent
    cases hcurrent
    exact ⟨x.hub.listeners, hseenSelf, List.suffix_refl _⟩
  · rw [hseenOther f.key ((key_ne_of_split hsplit').2 f hf)]
    exact hbefore.still f (List.mem_cons_of_mem _ hf)
  · rw [isDue_eq hmoves.after hf, isDue_eq hp hf]
    by_cases hkey : f.key = e.key
    · rw [hkey, hseenSelf, hbefore.still e (List.mem_cons_self ..), isAhead_self]
      simp
    · rw [hseenOther f.key hkey, isAhead_other hkey]
      rfl

/-- A producer has done with an event: no turn is to come any more. -/
theorem InOrder.finish (h : x.InOrder) (hp : x.hub.producers[p]? = some ⟨some (e, []), todo⟩) :
    InOrder { x with hub := x.hub.withProducer p ⟨none, todo⟩ } := by
  have hbefore := h.progress p _ hp
  have hmoves := moves_withProducer hp ⟨none, todo⟩
  obtain ⟨done, hsplit⟩ := hbefore.split
  have hsplit' : x.eventsOf p = (done ++ [e]) ++ [] ++ todo := by simpa using hsplit
  refine h.moves hmoves h.fits h.audience ⟨⟨done ++ [e], hsplit'⟩, ?_, hbefore.still⟩ fun id =>
    (h.told id).same (hmoves.audience.isOpen id).1 rfl (hmoves.due_eq fun f hf => ?_)
  · intro f left hcurrent
    cases hcurrent
  · rw [isDue_eq hmoves.after hf, isDue_eq hp hf]
    by_cases hkey : f.key = e.key
    · rw [hkey, isAhead_self]
      rfl
    · rw [isAhead_other hkey]
      rfl

/-- When a turn passes, nothing changes for other events or other subscriptions. -/
theorem Moves.isDue_pass (h : Moves x x' p ⟨some (e, id :: rest), todo⟩ ⟨some (e, rest), todo⟩)
    (hseen : x'.seen = x.seen) {other : Nat} {f : Tagged α} (hf : f ∈ x.eventsOf p)
    (hne : f.key ≠ e.key ∨ other ≠ id) : x'.isDue other f = x.isDue other f := by
  rw [isDue_eq h.after (h.eventsOf_eq p ▸ hf), isDue_eq h.before hf, hseen]
  by_cases hkey : f.key = e.key
  · have hother : other ≠ id := hne.resolve_left (not_not_intro hkey)
    rw [hkey, isAhead_self, isAhead_self, List.contains_cons, beq_false_of_ne hother,
      Bool.false_or]
  · rw [isAhead_other hkey, isAhead_other hkey]

/-- When a turn passes, one more event of the producer is due. -/
theorem InOrder.due_pass (h : x.InOrder)
    (hmoves : Moves x x' p ⟨some (e, id :: rest), todo⟩ ⟨some (e, rest), todo⟩)
    (hseen : x'.seen = x.seen) :
    (x'.eventsOf p).filter (x'.isDue id) = (x.eventsOf p).filter (x.isDue id) ++ [e] := by
  have hbefore := h.progress p _ hmoves.before
  have he : e ∈ x.eventsOf p := hbefore.mem_current rfl
  obtain ⟨done, hsplit⟩ := hbefore.split
  have hsplit' : x.eventsOf p = done ++ [e] ++ todo := hsplit
  obtain ⟨ids, hids, hleft⟩ := hbefore.begun e (id :: rest) rfl
  have hahead : x.isDue id e = false := by
    rw [isDue_eq hmoves.before he, isAhead_self, List.contains_cons, beq_self_eq_true]
    simp
  have hpassed : x'.isDue id e = true := by
    have hmem : id ∈ ids := hleft.subset (List.mem_cons_self ..)
    have hnew : id ∉ rest := (List.nodup_cons.1 (hleft.sublist.nodup (h.audience _ _ hids).1)).1
    rw [isDue_eq hmoves.after (hmoves.eventsOf_eq p ▸ he), hseen, hids, isAhead_self]
    simp [hmem, hnew]
  have hdone : done.filter (x'.isDue id) = done.filter (x.isDue id) := by
    refine List.filter_congr fun f hf => hmoves.isDue_pass hseen ?_ ?_
    · rw [hsplit']
      exact List.mem_append_left _ (List.mem_append_left _ hf)
    · exact .inl ((key_ne_of_split hsplit').1 f hf)
  have hstill : ∀ f ∈ todo, x.seen f.key = none := hbefore.still
  have htodo : todo.filter (x.isDue id) = [] :=
    List.filter_eq_nil_iff.2 fun f hf => by simp [isDue_of_not_seen (hstill f hf)]
  have htodo' : todo.filter (x'.isDue id) = [] :=
    List.filter_eq_nil_iff.2 fun f hf => by simp [isDue_of_not_seen (hseen ▸ hstill f hf)]
  rw [hmoves.eventsOf_eq, hsplit']
  simp only [List.filter_append, hdone, htodo, htodo', List.filter_cons, hpassed, hahead,
    List.filter_nil, List.append_nil, if_true, Bool.false_eq_true, if_false]

/-- A subscription is told about an event whose turn passes, or it is closed. -/
theorem Told.pass (h : x.Told id)
    (hmoves : Moves x x' p ⟨some (e, id :: rest), todo⟩ ⟨some (e, rest), todo⟩)
    (hproducer : e.producer = p)
    (hdue : (x'.eventsOf p).filter (x'.isDue id) = (x.eventsOf p).filter (x.isDue id) ++ [e])
    (hgot : x'.reached id = x.reached id ++ [e] ∨
      x'.reached id = x.reached id ∧ ¬ x.hub.IsOpen id) : x'.Told id := by
  have hdues : ∀ q, (x'.eventsOf q).filter (x'.isDue id) =
      (x.eventsOf q).filter (x.isDue id) ++ [e].filter fun e => e.producer = q := by
    intro q
    by_cases hq : q = p
    · subst hq
      simp [hdue, hproducer]
    · have hother : e.producer ≠ q := fun heq => hq (heq.symm.trans hproducer)
      simp [hmoves.due_other id hq, hother]
  rcases hgot with hgot | ⟨hgot, hclosed⟩
  · refine ⟨fun q => ?_, fun hopen q => ?_⟩
    · rw [hgot, List.filter_append, hdues]
      exact (h.ordered q).append_right _
    · rw [hgot, List.filter_append, hdues, h.whole ((hmoves.audience.isOpen id).1 hopen) q]
  · refine ⟨fun q => ?_, fun hopen => absurd ((hmoves.audience.isOpen id).1 hopen) hclosed⟩
    rw [hgot, hdues]
    exact (h.ordered q).trans (List.sublist_append_left _ _)

/-- A turn has passed: the event is put into the queue, or the subscription is closed. -/
theorem InOrder.pass (h : x.InOrder)
    (hmoves : Moves x x' p ⟨some (e, id :: rest), todo⟩ ⟨some (e, rest), todo⟩)
    (hfits : 0 < x.hub.capacity → ∀ id, ((x'.hub.queueOf id).length : Int) ≤ x.hub.capacity)
    (hseen : x'.seen = x.seen)
    (hgot : x'.reached id = x.reached id ++ [e] ∨ x'.reached id = x.reached id ∧ ¬ x.hub.IsOpen id)
    (hother : ∀ other, other ≠ id → x'.reached other = x.reached other) : x'.InOrder := by
  have hbefore := h.progress p _ hmoves.before
  obtain ⟨done, hsplit⟩ := hbefore.split
  obtain ⟨ids, hids, hleft⟩ := hbefore.begun e (id :: rest) rfl
  refine h.moves hmoves hfits (hseen ▸ h.audience)
    ⟨⟨done, (hmoves.eventsOf_eq p).trans hsplit⟩, ?_, hseen ▸ hbefore.still⟩ fun other => ?_
  · intro f left hcurrent
    cases hcurrent
    exact ⟨ids, hseen ▸ hids, (List.suffix_cons id rest).trans hleft⟩
  · by_cases heq : other = id
    · subst heq
      have hproducer := producer_of_mem (hbefore.mem_current rfl)
      exact (h.told other).pass hmoves hproducer (h.due_pass hmoves hseen) hgot
    · refine (h.told other).same (hmoves.audience.isOpen other).1 (hother other heq) ?_
      exact hmoves.due_eq fun f hf => hmoves.isDue_pass hseen hf (.inr heq)

/-- An event is put into a queue that has room. -/
theorem InOrder.put (h : x.InOrder) (hp : x.hub.producers[p]? = some ⟨some (e, id :: rest), todo⟩)
    (hroom : x.hub.isFull (x.hub.queueOf id).length = false) :
    InOrder { x with hub := (x.hub.put e id).withProducer p ⟨some (e, rest), todo⟩ } := by
  have hthere : id < x.hub.subscriptions.length := by
    obtain ⟨ids, hids, hleft⟩ := (h.progress p _ hp).begun e (id :: rest) rfl
    exact (h.audience _ _ hids).2 id (hleft.subset (List.mem_cons_self ..))
  have hself : (x.hub.put e id).queueOf id = x.hub.queueOf id ++ [e] := by
    rw [queueOf_put hthere, if_pos rfl]
  have hother : ∀ other, other ≠ id → (x.hub.put e id).queueOf other = x.hub.queueOf other := by
    intro other hne
    rw [queueOf_put hthere, if_neg hne, List.append_nil]
  have haudience : SameAudience x.hub ((x.hub.put e id).withProducer p ⟨some (e, rest), todo⟩) :=
    (sameAudience_put x.hub e id).trans (sameAudience_producers ..)
  refine h.pass ⟨hp, rfl, haudience, rfl, rfl, fun _ _ => rfl⟩ (fun hpositive other => ?_) rfl
    (.inl ?_) fun other hne => congrArg (x.taken other ++ ·) (hother other hne)
  · change (((x.hub.put e id).queueOf other).length : Int) ≤ x.hub.capacity
    by_cases heq : other = id
    · subst heq
      simp only [isFull, Bool.and_eq_false_iff, decide_eq_false_iff_not] at hroom
      rw [hself, List.length_append, List.length_singleton]
      omega
    · rw [hother other heq]
      exact h.fits hpositive other
  · change x.taken id ++ (x.hub.put e id).queueOf id = _
    rw [hself, ← List.append_assoc]
    rfl

/-- A closed subscription is passed over. -/
theorem InOrder.skip (h : x.InOrder) (hp : x.hub.producers[p]? = some ⟨some (e, id :: rest), todo⟩)
    (hclosed : ¬ x.hub.IsOpen id) :
    InOrder { x with hub := x.hub.withProducer p ⟨some (e, rest), todo⟩ } :=
  h.pass (moves_withProducer hp _) h.fits rfl (.inr ⟨rfl, hclosed⟩) fun _ _ => rfl

end Turns

/-! Any number of steps. -/

/-- Every step keeps the order. -/
theorem InOrder.step (h : x.InOrder) (hstep : x.Step x') : x'.InOrder := by
  cases hstep with
  | join events => exact h.join events
  | look hp => exact h.look hp
  | put hp hroom => exact h.put hp hroom
  | skip hp hclosed => exact h.skip hp hclosed
  | finish hp => exact h.finish hp
  | subscribe => exact h.subscribe
  | take htake => exact h.take htake
  | shut id => exact h.shut id
  | unlist hclosed => exact h.unlist hclosed

/-- Any number of steps keep the order. -/
theorem InOrder.reaches (h : x.InOrder) (hreaches : x.Reaches x') : x'.InOrder := by
  induction hreaches with
  | refl => exact h
  | tail _ hstep ih => exact ih.step hstep

/-- A step does not change the capacity. -/
theorem Step.capacity_eq (h : x.Step x') : x'.hub.capacity = x.hub.capacity := by
  cases h with
  | take htake => exact capacity_take? htake
  | _ => rfl

/-- No number of steps changes the capacity. -/
theorem Reaches.capacity_eq (h : x.Reaches x') : x'.hub.capacity = x.hub.capacity := by
  induction h with
  | refl => rfl
  | tail _ hstep ih => exact hstep.capacity_eq.trans ih

/-- What a producer saw when it began with an event stays what it saw. -/
theorem InOrder.seen_step (h : x.InOrder) (hstep : x.Step x') {key : Nat × Nat} {ids : List Nat}
    (hseen : x.seen key = some ids) : x'.seen key = some ids := by
  cases hstep with
  | @look p e todo hp =>
    have hnew : x.seen e.key = none := (h.progress p _ hp).still e (List.mem_cons_self ..)
    have hne : key ≠ e.key := by
      intro heq
      subst heq
      rw [hnew] at hseen
      cases hseen
    exact (Function.update_of_ne hne ..).trans hseen
  | _ => exact hseen

/-- What a producer saw when it began with an event, it has seen for good. -/
theorem InOrder.seen_reaches (h : x.InOrder) (hreaches : x.Reaches x') {key : Nat × Nat}
    {ids : List Nat} (hseen : x.seen key = some ids) : x'.seen key = some ids := by
  induction hreaches with
  | refl => exact hseen
  | tail hreaches hstep ih => exact (h.reaches hreaches).seen_step hstep ih

/-- Whatever reaches a subscription, its producer saw the subscription when it began with it. -/
theorem InOrder.seen_of_reached (h : x.InOrder) {id : Nat} {e : Tagged α}
    (he : e ∈ x.reached id) : ∃ ids, x.seen e.key = some ids ∧ id ∈ ids := by
  have hfrom : e ∈ (x.reached id).filter fun f => f.producer = e.producer :=
    List.mem_filter.2 ⟨he, by simp⟩
  have hdue := (List.mem_filter.1 (((h.told id).ordered e.producer).subset hfrom)).2
  rw [isDue, Bool.and_eq_true, Option.any_eq_true] at hdue
  obtain ⟨⟨ids, hids, hmem⟩, -⟩ := hdue
  exact ⟨ids, hids, by simpa using hmem⟩

/-- No subscription is lost. -/
theorem Step.count_le (h : x.Step x') :
    x.hub.subscriptions.length ≤ x'.hub.subscriptions.length := by
  cases h with
  | subscribe =>
    have hgrown : x.hub.subscribe.1.subscriptions.length = x.hub.subscriptions.length + 1 :=
      List.length_append
    exact Nat.le_of_succ_le (Nat.le_of_eq hgrown.symm)
  | put => exact Nat.le_of_eq (sameAudience_put ..).count.symm
  | take htake => exact Nat.le_of_eq (take?_eq_some htake).1.count.symm
  | shut => exact Nat.le_of_eq (List.length_modify ..).symm
  | _ => exact Nat.le_refl _

/-- A subscription that is open was open before. -/
theorem Step.isOpen (h : x.Step x') {id : Nat} (hid : id < x.hub.subscriptions.length)
    (hopen : x'.hub.IsOpen id) : x.hub.IsOpen id := by
  cases h with
  | put => exact ((sameAudience_put ..).isOpen id).1 hopen
  | subscribe =>
    rcases isOpen_subscribe hopen with hnew | hbefore
    · omega
    · exact hbefore
  | take htake => exact ((take?_eq_some htake).1.isOpen id).1 hopen
  | shut => exact isOpen_shut hopen
  | _ => exact hopen

/-- A subscription that is open has never been closed. -/
theorem Reaches.isOpen (h : x.Reaches x') {id : Nat} (hid : id < x.hub.subscriptions.length)
    (hopen : x'.hub.IsOpen id) : x.hub.IsOpen id := by
  induction h using Relation.ReflTransGen.head_induction_on with
  | refl => exact hopen
  | head hstep _ ih => exact hstep.isOpen hid (ih (Nat.lt_of_lt_of_le hid hstep.count_le))

/-- **Nothing is lost, doubled or brought out of order.**  Whatever producers and subscribers do at
a hub, no queue grows beyond the capacity.  What an open subscription took and what waits for it
are, from each producer, exactly the events whose producer saw the subscription and has passed its
turn, in the order of the producer.  No event that a producer began with before the subscription
came reaches it later. -/
theorem delivered_in_order {capacity : Int} (hx : (opened capacity : Traffic α).Reaches x) :
    (0 < capacity → ∀ id, ((x.hub.queueOf id).length : Int) ≤ capacity) ∧
    (∀ id, x.hub.IsOpen id → ∀ p, (x.reached id).filter (fun e => e.producer = p) =
      (x.eventsOf p).filter (x.isDue id)) ∧
    (∀ x', x.Reaches x' → ∀ id, x.hub.subscriptions.length ≤ id → ∀ e ∈ x'.reached id,
      x.seen e.key = none) := by
  have h : x.InOrder := (inOrder_opened capacity).reaches hx
  have hcapacity : x.hub.capacity = capacity := hx.capacity_eq
  refine ⟨hcapacity ▸ h.fits, fun id hopen => (h.told id).whole hopen, ?_⟩
  intro x' hlater id hnew e he
  cases hseen : x.seen e.key with
  | none => rfl
  | some ids =>
    obtain ⟨ids', hids', hmem⟩ := (h.reaches hlater).seen_of_reached he
    rw [h.seen_reaches hlater hseen] at hids'
    cases hids'
    have hlt := (h.audience e.key ids hseen).2 id hmem
    omega

/-- The second of two producers has to wait for room, and another subscription comes meanwhile: the
event is delivered afterwards, but not to the one that came. -/
theorem delivered_in_order_waiting :
    let programs := Function.update (Function.update (fun _ => []) 0 [10]) 1 [20]
    let seen :=
      Function.update (Function.update (fun _ => none) (0, 0) (some [0])) (1, 0) (some [0])
    let first : Tagged Nat := ⟨0, 0, 10⟩
    let second : Tagged Nat := ⟨1, 0, 20⟩
    let x : Traffic Nat := ⟨⟨1, [⟨[first], false⟩], [0],
      [⟨some (first, []), []⟩, ⟨some (second, [0]), []⟩]⟩, programs, seen, fun _ => []⟩
    let y : Traffic Nat := ⟨⟨1, [⟨[second], false⟩, ⟨[], false⟩], [0, 1],
      [⟨some (first, []), []⟩, ⟨some (second, []), []⟩]⟩, programs, seen,
      Function.update (fun _ => []) 0 [first]⟩
    (opened 1).Reaches x ∧ x.Reaches y ∧ (∀ id, ((y.hub.queueOf id).length : Int) ≤ 1) ∧
      (y.reached 0).filter (fun e => e.producer = 1) = [second] ∧
      y.hub.IsOpen 1 ∧ second ∉ y.reached 1 := by
  intro programs seen first second x y
  have hopened : (opened 1).Reaches ⟨⟨1, [⟨[], false⟩], [0], [⟨none, [first]⟩, ⟨none, [second]⟩]⟩,
      programs, fun _ => none, fun _ => []⟩ :=
    ((Relation.ReflTransGen.single (.join _ [10])).tail (.join _ [20])).tail (.subscribe _)
  have hwaits : (opened 1).Reaches x :=
    ((hopened.tail (.look (p := 0) rfl)).tail (.put (p := 0) rfl rfl)).tail (.look (p := 1) rfl)
  have htaken : x.Reaches ⟨⟨1, [⟨[], false⟩, ⟨[], false⟩], [0, 1], x.hub.producers⟩, programs, seen,
      y.taken⟩ :=
    (Relation.ReflTransGen.single (.subscribe x)).tail (@Step.take _ _ 0 first _ rfl)
  have hgone : x.Reaches y := htaken.tail (@Step.put _ _ 1 second 0 [] [] rfl rfl)
  obtain ⟨hfits, hwhole, -⟩ := delivered_in_order (hwaits.trans hgone)
  refine ⟨hwaits, hgone, hfits (by decide), hwhole 0 ⟨_, rfl, rfl⟩ 1, ⟨_, rfl, rfl⟩, fun hin => ?_⟩
  have hlate := (delivered_in_order hwaits).2.2 y hgone 1 (Nat.le_refl _) second hin
  cases hlate

/-! What the functions of a hub do. -/

/-- The producers can bring the hub to this. -/
def Brings (x : Traffic α) (hub : Events (Tagged α)) : Prop :=
  ∃ seen, x.Reaches { x with hub, seen }

/-- The producers bring a hub to itself. -/
theorem brings_self (x : Traffic α) : x.Brings x.hub :=
  ⟨x.seen, .refl⟩

theorem Brings.trans {hub hub' : Events (Tagged α)} (h : x.Brings hub)
    (h' : ∀ seen, Brings { x with hub, seen } hub') : x.Brings hub' := by
  obtain ⟨seen, hreaches⟩ := h
  obtain ⟨seen', hreaches'⟩ := h' seen
  exact ⟨seen', Relation.ReflTransGen.trans hreaches hreaches'⟩

/-- One step of a producer brings the hub on. -/
theorem Step.brings {hub : Events (Tagged α)} {seen : Nat × Nat → Option (List Nat)}
    (h : x.Step { x with hub, seen }) : x.Brings hub :=
  ⟨seen, .single h⟩

/-- A producer delivers an event as far as possible. -/
theorem brings_deliver {e : Tagged α} {ids : List Nat} {todo : List (Tagged α)}
    (hp : x.hub.producers[p]? = some ⟨some (e, ids), todo⟩) :
    x.Brings
      ((deliver e ids x.hub).1.withProducer p ⟨some (e, (deliver e ids x.hub).2), todo⟩) := by
  induction ids generalizing x with
  | nil =>
    unfold deliver
    rw [withProducer_self hp]
    exact x.brings_self
  | cons id rest ih =>
    unfold deliver
    cases hturn : x.hub.turn id with
    | skip =>
      refine (Step.skip hp (not_isOpen_of_skip hturn)).brings.trans fun seen => ?_
      have hnext := @ih { x with hub := x.hub.withProducer p ⟨some (e, rest), todo⟩, seen }
        (getElem?_withProducer hp _)
      rwa [deliver_withProducer, withProducer_withProducer] at hnext
    | put =>
      refine (Step.put hp (hasRoom_of_put hturn)).brings.trans fun seen => ?_
      have hnext := @ih
        { x with hub := (x.hub.put e id).withProducer p ⟨some (e, rest), todo⟩, seen }
        (getElem?_withProducer hp _)
      rwa [deliver_withProducer, withProducer_withProducer] at hnext
    | wait =>
      simp only [withProducer_self hp]
      exact x.brings_self

/-- A producer goes on with an event, and then with the events after it. -/
theorem brings_goOn {e : Tagged α} {ids : List Nat} {todo : List (Tagged α)}
    (hp : x.hub.producers[p]? = some ⟨some (e, ids), todo⟩)
    (hafter : ∀ y : Traffic α, y.hub.producers[p]? = some ⟨none, todo⟩ →
      y.Brings ((run ⟨none, todo⟩ y.hub).1.withProducer p (run ⟨none, todo⟩ y.hub).2)) :
    x.Brings ((run ⟨some (e, ids), todo⟩ x.hub).1.withProducer p
      (run ⟨some (e, ids), todo⟩ x.hub).2) := by
  have hdelivered := brings_deliver hp
  have hkept := (deliver_spec e ids x.hub).producers
  unfold run
  simp only
  split
  · next hub hdeliver =>
    rw [hdeliver] at hdelivered hkept
    have hhub : hub.producers[p]? = some ⟨some (e, ids), todo⟩ := hkept ▸ hp
    refine hdelivered.trans fun seen => ?_
    refine (Step.finish (getElem?_withProducer hhub _)).brings.trans fun seen => ?_
    rw [withProducer_withProducer]
    have hmore := hafter { x with hub := hub.withProducer p ⟨none, todo⟩, seen }
      (getElem?_withProducer hhub _)
    rwa [run_withProducer, withProducer_withProducer] at hmore
  · next hub left _ hdeliver =>
    rw [hdeliver] at hdelivered
    exact hdelivered

/-- A producer begins and delivers its events as far as possible. -/
theorem brings_begin {events : List (Tagged α)}
    (hp : x.hub.producers[p]? = some ⟨none, events⟩) :
    x.Brings ((run ⟨none, events⟩ x.hub).1.withProducer p (run ⟨none, events⟩ x.hub).2) := by
  induction events generalizing x with
  | nil =>
    have hdone : run ⟨none, []⟩ x.hub = (x.hub, ⟨none, []⟩) := rfl
    rw [hdone, withProducer_self hp]
    exact x.brings_self
  | cons e rest ih =>
    refine (Step.look hp).brings.trans fun seen => ?_
    have hnext := @brings_goOn α
      { x with hub := x.hub.withProducer p ⟨some (e, x.hub.listeners), rest⟩, seen } p e
      x.hub.listeners rest (getElem?_withProducer hp _) fun y hy => @ih y hy
    rwa [run_withProducer, withProducer_withProducer] at hnext

/-- A producer goes on as far as possible. -/
theorem brings_run (hp : x.hub.producers[p]? = some producer) :
    x.Brings ((run producer x.hub).1.withProducer p (run producer x.hub).2) := by
  obtain ⟨current, todo⟩ := producer
  cases current with
  | none => exact brings_begin hp
  | some current =>
    obtain ⟨e, ids⟩ := current
    exact brings_goOn hp fun y hy => brings_begin hy

/-- **Producers take no other steps.**  What the producers of a hub do when all go on as far as
possible, they do step by step. -/
theorem brings_runAll (x : Traffic α) : x.Brings x.hub.runAll := by
  have hfold : ∀ (later gone : List (Producer (Tagged α))) (x : Traffic α),
      x.hub.producers = gone ++ later →
        x.Brings (later.foldl goOn { x.hub with producers := gone }) := by
    intro later
    induction later with
    | nil =>
      intro gone x hx
      rw [List.append_nil] at hx
      subst hx
      exact x.brings_self
    | cons producer rest ih =>
      intro gone x hx
      have hp : x.hub.producers[gone.length]? = some producer := by
        rw [hx, List.getElem?_append_right (Nat.le_refl _), Nat.sub_self]
        rfl
      refine (brings_run hp).trans fun seen => ?_
      have hnext := ih (gone ++ [(run producer x.hub).2])
        { x with
          hub := (run producer x.hub).1.withProducer gone.length (run producer x.hub).2, seen } ?_
      · rw [List.foldl_cons, goOn_producers]
        exact hnext
      · simp [withProducer, producers_run, hx]
  rw [runAll_eq]
  exact hfold x.hub.producers [] x rfl

/-- Telling the listeners about some events. -/
theorem reaches_start (x : Traffic α) (events : List α) :
    ∃ seen, x.Reaches { x with
      hub := x.hub.start (tag x.hub.producers.length events)
      programs := Function.update x.programs x.hub.producers.length events
      seen } := by
  obtain ⟨seen, hreaches⟩ := brings_runAll { x with
    hub := { x.hub with
      producers := x.hub.producers ++ [⟨none, tag x.hub.producers.length events⟩] }
    programs := Function.update x.programs x.hub.producers.length events }
  exact ⟨seen, .head (.join x events) hreaches⟩

/-- Closing is reached in two steps. -/
theorem reaches_close (x : Traffic α) (id : Nat) :
    x.Reaches { x with hub := x.hub.close id } :=
  .tail (.single (.shut x id)) (.unlist (not_isOpen_shut x.hub id))

/-- Whoever receives an event has taken it, however long it was to wait. -/
theorem step_receive {id : Nat} {seconds? : Option Binary64} {e : Tagged α}
    {hub : Events (Tagged α)} (h : x.hub.receive id seconds? = .ok (e, hub)) :
    x.Step { x with hub, taken := Function.update x.taken id (x.taken id ++ [e]) } := by
  unfold receive at h
  split at h
  · cases h
  · split at h
    · cases h
    · next taken htake =>
      cases h
      exact .take htake

end Traffic

end TaskTree.Events
