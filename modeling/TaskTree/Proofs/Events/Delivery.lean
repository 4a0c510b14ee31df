import TaskTree.Events

/-!
# Putting events into queues

A producer that delivers an event passes over closed subscriptions, puts the
event into the queues of the others, and stops at the first that is full
(`deliver_spec`).  It never closes, adds or removes a subscription
(`SameAudience`), and neither does any number of producers that go on
(`sameAudience_runAll`).
-/

namespace TaskTree.Events

variable {α : Type} {hub hub' : Events α}

/-- The events that wait for a subscriber, the oldest first. -/
def queueOf (hub : Events α) (id : Nat) : List α :=
  (hub.subscriptions[id]?.map (·.queue)).getD []

/-- The subscription is there and has not been closed. -/
def IsOpen (hub : Events α) (id : Nat) : Prop :=
  ∃ s, hub.subscriptions[id]? = some s ∧ s.closed = false

/-- An open subscription is one of those that came. -/
theorem IsOpen.lt {id : Nat} (h : hub.IsOpen id) : id < hub.subscriptions.length := by
  obtain ⟨s, hs, -⟩ := h
  exact (List.getElem?_eq_some_iff.1 hs).1

/-- A subscription that has not come has no queue. -/
theorem queueOf_of_le {id : Nat} (h : hub.subscriptions.length ≤ id) : hub.queueOf id = [] := by
  rw [queueOf, List.getElem?_eq_none h]
  rfl

/-! Changing one subscription. -/

/-- A change of one subscription leaves the others. -/
theorem subscriptions_change (hub : Events α) (id : Nat) (f : Subscription α → Subscription α)
    (other : Nat) : (hub.change id f).subscriptions[other]? =
      if id = other then hub.subscriptions[other]?.map f else hub.subscriptions[other]? := by
  rw [change, List.getElem?_modify]
  by_cases h : id = other
  · simp [h]
  · simp [h]

/-- Nobody has come, and nobody has left. -/
structure SameAudience (hub hub' : Events α) : Prop where
  listeners : hub'.listeners = hub.listeners
  count : hub'.subscriptions.length = hub.subscriptions.length
  isOpen : ∀ id, hub'.IsOpen id ↔ hub.IsOpen id

theorem SameAudience.refl (hub : Events α) : SameAudience hub hub :=
  ⟨rfl, rfl, fun _ => Iff.rfl⟩

theorem SameAudience.trans {hub'' : Events α} (h : SameAudience hub hub')
    (h' : SameAudience hub' hub'') : SameAudience hub hub'' :=
  ⟨h'.listeners.trans h.listeners, h'.count.trans h.count,
    fun id => (h'.isOpen id).trans (h.isOpen id)⟩

/-- Producers are no audience. -/
theorem sameAudience_producers (hub : Events α) (producers : List (Producer α)) :
    SameAudience hub { hub with producers } :=
  ⟨rfl, rfl, fun _ => Iff.rfl⟩

/-- A change of a queue closes nothing. -/
theorem sameAudience_change (hub : Events α) (id : Nat) {f : Subscription α → Subscription α}
    (hclosed : ∀ s, hub.subscriptions[id]? = some s → (f s).closed = s.closed) :
    SameAudience hub (hub.change id f) := by
  refine ⟨rfl, by simp [change], fun other => ?_⟩
  unfold IsOpen
  rw [subscriptions_change]
  by_cases h : id = other
  · subst h
    rw [if_pos rfl]
    cases hs : hub.subscriptions[id]? with
    | none => simp
    | some s => simp [hclosed s hs]
  · rw [if_neg h]

/-- A change of one subscription changes its queue only. -/
theorem queueOf_change {id : Nat} {f : Subscription α → Subscription α} {s : Subscription α}
    (hs : hub.subscriptions[id]? = some s) (other : Nat) :
    (hub.change id f).queueOf other = if id = other then (f s).queue else hub.queueOf other := by
  unfold queueOf
  rw [subscriptions_change]
  by_cases h : id = other
  · subst h
    simp [hs]
  · rw [if_neg h, if_neg h]

/-! Delivering one event. -/

/-- A subscription that is skipped is not open. -/
theorem not_isOpen_of_skip {id : Nat} (h : hub.turn id = .skip) : ¬ hub.IsOpen id := by
  intro hthere
  obtain ⟨s, hs, hopen⟩ := hthere
  unfold turn at h
  rw [hs] at h
  simp only [hopen, Bool.false_eq_true, if_false] at h
  split at h
  · cases h
  · cases h

/-- A subscription that gets an event is open. -/
theorem isOpen_of_put {id : Nat} (h : hub.turn id = .put) : hub.IsOpen id := by
  unfold turn at h
  split at h
  · cases h
  · next s hs =>
    refine ⟨s, hs, ?_⟩
    split at h
    · cases h
    · next hopen => simpa using hopen

/-- A subscription that gets an event has room for it. -/
theorem hasRoom_of_put {id : Nat} (h : hub.turn id = .put) :
    hub.isFull (hub.queueOf id).length = false := by
  unfold turn at h
  split at h
  · cases h
  · next s hs =>
    rw [queueOf, hs]
    split at h
    · cases h
    · split at h
      · cases h
      · next hroom => simpa using hroom

/-- An event is put at the end of one queue. -/
theorem queueOf_put {id : Nat} (h : id < hub.subscriptions.length) (event : α) (other : Nat) :
    (hub.put event id).queueOf other = hub.queueOf other ++ if other = id then [event] else [] := by
  have hs := List.getElem?_eq_getElem h
  rw [put, queueOf_change hs]
  by_cases hother : id = other
  · subst hother
    simp [queueOf, hs]
  · rw [if_neg hother, if_neg (Ne.symm hother), List.append_nil]

/-- Putting an event keeps the audience. -/
theorem sameAudience_put (hub : Events α) (event : α) (id : Nat) :
    SameAudience hub (hub.put event id) :=
  sameAudience_change hub id fun _ _ => rfl

/-- What has come of delivering an event to some subscriptions, of which `left` are still to
come. -/
structure Delivered (event : α) (ids : List Nat) (hub hub' : Events α) (left : List Nat) :
    Prop where
  audience : SameAudience hub hub'
  producers : hub'.producers = hub.producers
  toCome : left <:+ ids
  queues : ids.Nodup → ∀ id, hub.IsOpen id →
    hub'.queueOf id = hub.queueOf id ++ if id ∈ ids ∧ id ∉ left then [event] else []

/-- **Delivery.**  Each open subscription whose turn has come gets the event once, and no other
queue is touched. -/
theorem deliver_spec (event : α) (ids : List Nat) (hub : Events α) :
    Delivered event ids hub (deliver event ids hub).1 (deliver event ids hub).2 := by
  induction ids generalizing hub with
  | nil => exact ⟨.refl hub, rfl, List.suffix_refl _, fun _ id _ => by simp [deliver]⟩
  | cons id rest ih =>
    unfold deliver
    cases hturn : hub.turn id with
    | skip =>
      have hclosed := not_isOpen_of_skip hturn
      obtain ⟨haudience, hproducers, hleft, hqueues⟩ := ih hub
      refine ⟨haudience, hproducers, hleft.trans (List.suffix_cons id rest), ?_⟩
      intro hdistinct other hopen
      have hne : other ≠ id := by
        intro heq
        subst heq
        exact hclosed hopen
      have hqueue := hqueues (List.nodup_cons.1 hdistinct).2 other hopen
      simpa [hne] using hqueue
    | put =>
      have hopens := isOpen_of_put hturn
      have hput := sameAudience_put hub event id
      obtain ⟨haudience, hproducers, hleft, hqueues⟩ := ih (hub.put event id)
      refine ⟨hput.trans haudience, hproducers, hleft.trans (List.suffix_cons id rest), ?_⟩
      intro hdistinct other hopen
      obtain ⟨hnew, hrest⟩ := List.nodup_cons.1 hdistinct
      have hqueue := hqueues hrest other ((hput.isOpen other).2 hopen)
      rw [queueOf_put hopens.lt] at hqueue
      by_cases hother : other = id
      · subst hother
        have hpassed : other ∉ (deliver event rest (hub.put event other)).2 :=
          fun hmem => hnew (hleft.subset hmem)
        simpa [hnew, hpassed] using hqueue
      · simpa [hother] using hqueue
    | wait =>
      refine ⟨.refl hub, rfl, List.suffix_refl _, fun _ other _ => ?_⟩
      have hnobody : ¬ (other ∈ id :: rest ∧ other ∉ id :: rest) := fun h => h.2 h.1
      rw [if_neg hnobody, List.append_nil]

/-! Producers do not look at each other. -/

/-- Delivering an event does not look at the producers. -/
theorem deliver_producers (event : α) (ids : List Nat) (hub : Events α)
    (producers : List (Producer α)) :
    deliver event ids { hub with producers } =
      ({ (deliver event ids hub).1 with producers }, (deliver event ids hub).2) := by
  induction ids generalizing hub with
  | nil => rfl
  | cons id rest ih =>
    unfold deliver
    have hturn : turn { hub with producers } id = hub.turn id := rfl
    rw [hturn]
    cases hub.turn id with
    | skip => exact ih hub
    | put => exact ih (hub.put event id)
    | wait => rfl

/-- Producing events does not look at the other producers. -/
theorem produce_producers (events : List α) (hub : Events α) (producers : List (Producer α)) :
    produce events { hub with producers } =
      ({ (produce events hub).1 with producers }, (produce events hub).2) := by
  induction events generalizing hub with
  | nil => rfl
  | cons event rest ih =>
    unfold produce
    rw [deliver_producers]
    obtain ⟨hub', left⟩ := deliver event hub.listeners hub
    cases left with
    | nil => exact ih hub'
    | cons id left => rfl

/-- A producer that goes on does not look at the others. -/
theorem run_producers (producer : Producer α) (hub : Events α) (producers : List (Producer α)) :
    run producer { hub with producers } =
      ({ (run producer hub).1 with producers }, (run producer hub).2) := by
  unfold run
  split
  · exact produce_producers producer.todo hub producers
  · next event ids _ =>
    rw [deliver_producers]
    obtain ⟨hub', left⟩ := deliver event ids hub
    cases left with
    | nil => exact produce_producers producer.todo hub' producers
    | cons id left => rfl

/-- A producer that goes on leaves the others as they were. -/
theorem producers_run (producer : Producer α) (hub : Events α) :
    (run producer hub).1.producers = hub.producers :=
  congrArg (·.1.producers) (run_producers producer hub hub.producers)

/-! Producers that go on. -/

/-- Producing events keeps the audience. -/
theorem sameAudience_produce (events : List α) (hub : Events α) :
    SameAudience hub (produce events hub).1 := by
  induction events generalizing hub with
  | nil => exact .refl hub
  | cons event rest ih =>
    have haudience := (deliver_spec event hub.listeners hub).audience
    unfold produce
    split
    · next hdeliver =>
      rw [hdeliver] at haudience
      exact haudience.trans (ih _)
    · next hdeliver =>
      rw [hdeliver] at haudience
      exact haudience

/-- A producer that goes on keeps the audience. -/
theorem sameAudience_run (producer : Producer α) (hub : Events α) :
    SameAudience hub (run producer hub).1 := by
  unfold run
  split
  · exact sameAudience_produce producer.todo hub
  · next event ids _ =>
    have haudience := (deliver_spec event ids hub).audience
    split
    · next hdeliver =>
      rw [hdeliver] at haudience
      exact haudience.trans (sameAudience_produce producer.todo _)
    · next hdeliver =>
      rw [hdeliver] at haudience
      exact haudience

/-- Let a producer go on that comes after those which the hub has. -/
def goOn (hub : Events α) (producer : Producer α) : Events α :=
  let (hub, producer) := run producer hub
  { hub with producers := hub.producers ++ [producer] }

/-- A producer that goes on comes after those which the hub has. -/
theorem goOn_producers (hub : Events α) (producers : List (Producer α)) (producer : Producer α) :
    goOn { hub with producers } producer =
      { (run producer hub).1 with producers := producers ++ [(run producer hub).2] } := by
  rw [goOn, run_producers]

/-- All producers go on one after another. -/
theorem runAll_eq (hub : Events α) :
    hub.runAll = hub.producers.foldl goOn { hub with producers := [] } := rfl

/-- Going on keeps the audience. -/
theorem sameAudience_goOn (hub : Events α) (producer : Producer α) :
    SameAudience hub (hub.goOn producer) :=
  (sameAudience_run producer hub).trans (sameAudience_producers _ _)

/-- Producers that go on leave the audience as it is. -/
theorem sameAudience_runAll (hub : Events α) : SameAudience hub hub.runAll := by
  have hfold : ∀ (producers : List (Producer α)) (hub : Events α),
      SameAudience hub (producers.foldl goOn hub) := by
    intro producers
    induction producers with
    | nil => exact fun hub => .refl hub
    | cons producer rest ih => exact fun hub => (sameAudience_goOn hub producer).trans (ih _)
  rw [runAll_eq]
  exact (sameAudience_producers hub []).trans (hfold hub.producers _)

end TaskTree.Events
