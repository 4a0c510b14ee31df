import TaskTree.Proofs.Events.Delivery

/-!
# Announcements

While a hub announces an event, subscribers come, take events and leave, and
the announcement goes on when there is room (`Attended`).  At every moment each
open subscription has either got the event, or its turn is still to come, or it
came too late (`Underway`).  So when the announcement is over, everyone who
listened before and has not left has got the event once, and nobody has got
anything else (`Announced`, `announced_announce`).
-/

namespace TaskTree.Events

variable {α : Type} {hub hub' : Events α}

/-! Hubs whose listeners are the open subscriptions. -/

/-- Listeners are subscriptions, each once, and among them are all that are open. -/
structure IsKept (hub : Events α) : Prop where
  distinct : hub.listeners.Nodup
  bounded : ∀ id ∈ hub.listeners, id < hub.subscriptions.length
  listed : ∀ id, hub.IsOpen id → id ∈ hub.listeners

/-- A hub without subscriptions knows all who listen. -/
theorem isKept_withCapacity (capacity : Int) : (withCapacity capacity : Events α).IsKept :=
  ⟨List.nodup_nil, fun _ hmem => (List.not_mem_nil hmem).elim,
    fun _ hopen => (Nat.not_lt_zero _ hopen.lt).elim⟩

/-- Hubs with the same audience both know it. -/
theorem IsKept.same (h : hub.IsKept) (haudience : SameAudience hub hub') : hub'.IsKept := by
  obtain ⟨hlisteners, hcount, hopen⟩ := haudience
  refine ⟨hlisteners ▸ h.distinct, fun id hmem => ?_, fun id hid => ?_⟩
  · rw [hcount]
    exact h.bounded id (hlisteners ▸ hmem)
  · rw [hlisteners]
    exact h.listed id ((hopen id).1 hid)

theorem getElem?_concat {β : Type} (l : List β) (b : β) (i : Nat) :
    (l ++ [b])[i]? = if i = l.length then some b else l[i]? := by
  by_cases hnew : i = l.length
  · subst hnew
    simp
  · rw [if_neg hnew]
    by_cases hold : i < l.length
    · rw [List.getElem?_append_left hold]
    · rw [List.getElem?_eq_none (by simp; omega), List.getElem?_eq_none (by omega)]

/-- A new subscription comes last, with nothing in its queue. -/
theorem subscriptions_subscribe (hub : Events α) (id : Nat) :
    hub.subscribe.1.subscriptions[id]? =
      if id = hub.subscriptions.length then some ⟨[], false⟩ else hub.subscriptions[id]? :=
  getElem?_concat hub.subscriptions ⟨[], false⟩ id

/-- A new subscription leaves the queues as they were. -/
theorem queueOf_subscribe (hub : Events α) (id : Nat) :
    hub.subscribe.1.queueOf id = hub.queueOf id := by
  by_cases hnew : id = hub.subscriptions.length
  · rw [queueOf_of_le (Nat.le_of_eq hnew.symm), queueOf, subscriptions_subscribe, if_pos hnew]
    rfl
  · rw [queueOf, subscriptions_subscribe, if_neg hnew, queueOf]

/-- What is open after a subscription is the new one or was open before. -/
theorem isOpen_subscribe {id : Nat} (h : hub.subscribe.1.IsOpen id) :
    id = hub.subscriptions.length ∨ hub.IsOpen id := by
  obtain ⟨s, hs, hopen⟩ := h
  rw [subscriptions_subscribe] at hs
  split at hs
  · next hnew => exact .inl hnew
  · exact .inr ⟨s, hs, hopen⟩

/-- A hub knows a new subscription. -/
theorem IsKept.subscribe (h : hub.IsKept) : hub.subscribe.1.IsKept := by
  have hlisteners : hub.subscribe.1.listeners = hub.listeners ++ [hub.subscriptions.length] := rfl
  have hcount : hub.subscribe.1.subscriptions.length = hub.subscriptions.length + 1 :=
    List.length_append
  refine ⟨?_, fun id hmem => ?_, fun id hid => ?_⟩
  · rw [hlisteners]
    refine List.nodup_append.2 ⟨h.distinct, by simp, fun id hid new hnew => ?_⟩
    have hlt := h.bounded id hid
    rw [List.mem_singleton.1 hnew]
    omega
  · rw [hlisteners] at hmem
    rw [hcount]
    rcases List.mem_append.1 hmem with hold | hnew
    · have hlt := h.bounded id hold
      omega
    · rw [List.mem_singleton.1 hnew]
      omega
  · rw [hlisteners]
    rcases isOpen_subscribe hid with hnew | hold
    · exact List.mem_append_right _ (List.mem_singleton.2 hnew)
    · exact List.mem_append_left _ (h.listed id hold)

/-- Shutting a subscription opens none. -/
theorem isOpen_shut {id other : Nat} (h : (hub.shut id).IsOpen other) : hub.IsOpen other := by
  obtain ⟨s, hs, hopen⟩ := h
  rw [shut, subscriptions_change] at hs
  split at hs
  · obtain ⟨s', -, rfl⟩ := Option.map_eq_some_iff.1 hs
    cases hopen
  · exact ⟨s, hs, hopen⟩

/-- A subscription that was shut is not open. -/
theorem not_isOpen_shut (hub : Events α) (id : Nat) : ¬ (hub.shut id).IsOpen id := by
  intro h
  obtain ⟨s, hs, hopen⟩ := h
  rw [shut, subscriptions_change, if_pos rfl] at hs
  obtain ⟨s', -, rfl⟩ := Option.map_eq_some_iff.1 hs
  cases hopen

/-- Shutting a subscription leaves all queues as they were. -/
theorem queueOf_shut (hub : Events α) (id other : Nat) :
    (hub.shut id).queueOf other = hub.queueOf other := by
  unfold queueOf
  rw [shut, subscriptions_change]
  split
  · rw [Option.map_map]
    rfl
  · rfl

/-- A hub that knows all who listen still does when one is shut. -/
theorem IsKept.shut (h : hub.IsKept) (id : Nat) : (hub.shut id).IsKept := by
  refine ⟨h.distinct, fun other hmem => ?_, fun other hid => h.listed other (isOpen_shut hid)⟩
  have hcount : (hub.shut id).subscriptions.length = hub.subscriptions.length :=
    List.length_modify ..
  rw [hcount]
  exact h.bounded other hmem

/-- A hub that knows all who listen still does when a closed one is taken from the list. -/
theorem IsKept.unlist (h : hub.IsKept) {id : Nat} (hclosed : ¬ hub.IsOpen id) :
    (hub.unlist id).IsKept := by
  refine ⟨h.distinct.filter _, fun other hmem => h.bounded other (List.mem_filter.1 hmem).1, ?_⟩
  intro other hid
  have hopen : hub.IsOpen other := hid
  refine List.mem_filter.2 ⟨h.listed other hopen, ?_⟩
  have hne : other ≠ id := by
    intro heq
    subst heq
    exact hclosed hopen
  simpa using hne

/-- A subscriber takes the oldest event of one queue, and that is all. -/
theorem take?_eq_some {id : Nat} {event : α} (h : hub.take? id = some (event, hub')) :
    SameAudience hub hub' ∧ hub'.producers = hub.producers ∧ id < hub.subscriptions.length ∧
      hub.queueOf id = event :: hub'.queueOf id ∧
      ∀ other, other ≠ id → hub'.queueOf other = hub.queueOf other := by
  unfold take? at h
  split at h
  · next rest closed hs =>
    cases h
    have hlt := (List.getElem?_eq_some_iff.1 hs).1
    refine ⟨sameAudience_change hub id fun s hs' => ?_, rfl, hlt, ?_, fun other hother => ?_⟩
    · rw [hs] at hs'
      cases hs'
      rfl
    · rw [queueOf_change hs, if_pos rfl, queueOf, hs]
      rfl
    · rw [queueOf_change hs, if_neg (Ne.symm hother)]
  · cases h

/-- Taking an event leaves the capacity. -/
theorem capacity_take? {id : Nat} {event : α} (h : hub.take? id = some (event, hub')) :
    hub'.capacity = hub.capacity := by
  unfold take? at h
  split at h
  · cases h
    rfl
  · cases h

/-! What goes on around a hub. -/

/-- What subscribers do at a hub, with the events that they take, each with the number of its
subscription; the producers that wait go on at any time.  A subscription that is taken from the
listeners has been shut. -/
inductive Attended (hub : Events α) : List (Nat × α) → Events α → Prop
  | start : Attended hub [] hub
  | subscribe {taken : List (Nat × α)} {next : Events α} (h : Attended hub taken next) :
      Attended hub taken next.subscribe.1
  | take {taken : List (Nat × α)} {next after : Events α} {id : Nat} {event : α}
      (h : Attended hub taken next) (htake : next.take? id = some (event, after)) :
      Attended hub (taken ++ [(id, event)]) after
  | shut {taken : List (Nat × α)} {next : Events α} (id : Nat) (h : Attended hub taken next) :
      Attended hub taken (next.shut id)
  | unlist {taken : List (Nat × α)} {next : Events α} {id : Nat} (h : Attended hub taken next)
      (hclosed : ¬ next.IsOpen id) : Attended hub taken (next.unlist id)
  | goOn {taken : List (Nat × α)} {next : Events α} (h : Attended hub taken next) :
      Attended hub taken next.runAll

/-- The events that were taken from one queue. -/
def takenFrom (id : Nat) (taken : List (Nat × α)) : List α :=
  (taken.filter fun entry => entry.1 = id).map Prod.snd

/-- Whatever subscribers do, the hub knows all who listen. -/
theorem IsKept.attended (h : hub.IsKept) {taken : List (Nat × α)}
    (hattended : Attended hub taken hub') : hub'.IsKept := by
  induction hattended with
  | start => exact h
  | subscribe _ ih => exact ih.subscribe
  | take _ htake ih => exact ih.same (take?_eq_some htake).1
  | shut id _ ih => exact ih.shut id
  | unlist _ hclosed ih => exact ih.unlist hclosed
  | goOn _ ih => exact ih.same (sameAudience_runAll _)

/-- When the announcement of an event is over, each subscription that was there before and is
still open has got it after all that waited before, and the ones that came later have not. -/
def Announced (before after : Events α) (event : α) : Prop :=
  ∀ taken hub, Attended after taken hub → hub.isBlocked = false → ∀ id, hub.IsOpen id →
    takenFrom id taken ++ hub.queueOf id =
      before.queueOf id ++ if id < before.subscriptions.length then [event] else []

/-! An announcement that is under way. -/

/-- The producer of one event that is still to come to some subscriptions. -/
def teller (event : α) : List Nat → Producer α
  | [] => {}
  | id :: rest => ⟨some (event, id :: rest), []⟩

/-- A teller that goes on delivers its event as far as possible. -/
theorem run_teller (event : α) (left : List Nat) (hub : Events α) :
    run (teller event left) hub =
      ((deliver event left hub).1, teller event (deliver event left hub).2) := by
  cases left with
  | nil => rfl
  | cons id rest =>
    unfold teller run
    simp only
    split
    · next hdeliver =>
      rw [hdeliver]
      rfl
    · next left _ hdeliver =>
      rw [hdeliver]
      cases left with
      | nil => contradiction
      | cons next more => rfl

/-- A producer of one event begins as its teller. -/
theorem run_announcer (event : α) (hub : Events α) :
    run ⟨none, [event]⟩ hub =
      ((deliver event hub.listeners hub).1, teller event (deliver event hub.listeners hub).2) := by
  unfold run produce
  simp only
  split
  · next hdeliver =>
    rw [hdeliver]
    rfl
  · next left _ hdeliver =>
    rw [hdeliver]
    cases left with
    | nil => contradiction
    | cons next more => rfl

/-- Producers that have finished do nothing. -/
theorem foldl_goOn_idle {idle : List (Producer α)} (hidle : ∀ p ∈ idle, p = {})
    (hub : Events α) :
    idle.foldl goOn hub = { hub with producers := hub.producers ++ idle } := by
  induction idle generalizing hub with
  | nil => simp
  | cons p rest ih =>
    have hp := hidle p (List.mem_cons_self ..)
    subst hp
    have hstep : goOn hub {} = { hub with producers := hub.producers ++ [{}] } := rfl
    rw [List.foldl_cons, hstep, ih fun p hp => hidle p (List.mem_cons_of_mem _ hp)]
    simp

/-- A producer that has finished has nothing left. -/
theorem eq_idle_of_not_busy {p : Producer α} (h : p.isBusy = false) : p = {} := by
  obtain ⟨current, todo⟩ := p
  simp only [Producer.isBusy, Bool.or_eq_false_iff, Option.isSome_eq_false_iff,
    Option.isNone_iff_eq_none, Bool.not_eq_false', List.isEmpty_iff] at h
  rw [h.1, h.2]

/-- Where nobody is blocked all producers have finished. -/
theorem idle_of_not_blocked (h : hub.isBlocked = false) : ∀ p ∈ hub.producers, p = {} := by
  intro p hp
  refine eq_idle_of_not_busy ?_
  simpa using List.any_eq_false.1 h p hp

/-- Only the teller can be waiting, and it goes on. -/
theorem runAll_of_teller {idle : List (Producer α)} (hidle : ∀ p ∈ idle, p = {}) {event : α}
    {left : List Nat} (h : hub.producers = idle ++ [teller event left]) :
    hub.runAll =
      { (deliver event left { hub with producers := idle }).1 with
        producers := idle ++ [teller event (deliver event left { hub with producers := idle }).2] }
    := by
  have hproducers := (deliver_spec event left { hub with producers := idle }).producers
  rw [runAll_eq, h, List.foldl_append, foldl_goOn_idle hidle]
  simp only [List.nil_append, List.foldl_cons, List.foldl_nil]
  rw [goOn, run_teller]
  simp only [hproducers]

/-- Where all others have finished an announcement is one delivery. -/
theorem announce_of_idle (hidle : ∀ p ∈ hub.producers, p = {}) (event : α) :
    hub.announce event =
      { (deliver event hub.listeners hub).1 with
        producers := hub.producers ++ [teller event (deliver event hub.listeners hub).2] } := by
  have hproducers := (deliver_spec event hub.listeners hub).producers
  rw [announce, Events.start, runAll_eq, List.foldl_append, foldl_goOn_idle hidle]
  simp only [List.nil_append, List.foldl_cons, List.foldl_nil]
  rw [goOn, run_announcer]
  simp only [hproducers]

/-- What has come of the announcement of an event at a hub `before`, of which the turns `left`
are still to come. -/
structure Underway (before : Events α) (event : α) (taken : List (Nat × α)) (hub : Events α)
    (left : List Nat) : Prop where
  producers : ∃ idle, (∀ p ∈ idle, p = {}) ∧ hub.producers = idle ++ [teller event left]
  distinct : left.Nodup
  bounded : ∀ id ∈ left, id < before.subscriptions.length
  count : before.subscriptions.length ≤ hub.subscriptions.length
  takers : ∀ entry ∈ taken, entry.1 < hub.subscriptions.length
  told : ∀ id, hub.IsOpen id → takenFrom id taken ++ hub.queueOf id =
    before.queueOf id ++ if id < before.subscriptions.length ∧ id ∉ left then [event] else []

/-- An announcement begins. -/
theorem underway_announce (hkept : hub.IsKept) (hidle : ∀ p ∈ hub.producers, p = {}) (event : α) :
    ∃ left, Underway hub event [] (hub.announce event) left := by
  obtain ⟨haudience, -, hleft, hqueues⟩ := deliver_spec event hub.listeners hub
  rw [announce_of_idle hidle]
  refine ⟨_, ⟨hub.producers, hidle, rfl⟩, hleft.sublist.nodup hkept.distinct,
    fun id hmem => hkept.bounded id (hleft.subset hmem), Nat.le_of_eq haudience.count.symm,
    fun entry hentry => (List.not_mem_nil hentry).elim, fun id hopen => ?_⟩
  have hbefore : hub.IsOpen id := (haudience.isOpen id).1 hopen
  have hqueue := hqueues hkept.distinct id hbefore
  have hlisted := hkept.listed id hbefore
  have hlt := hbefore.lt
  simp only [hlisted, true_and] at hqueue
  simp only [hlt, true_and]
  exact hqueue

/-- Nothing was taken from a queue that was not there. -/
theorem takenFrom_of_le {taken : List (Nat × α)} {count id : Nat}
    (h : ∀ entry ∈ taken, entry.1 < count) (hle : count ≤ id) : takenFrom id taken = [] := by
  have hnone : taken.filter (fun entry => entry.1 = id) = [] := by
    refine List.filter_eq_nil_iff.2 fun entry hentry => ?_
    have hlt := h entry hentry
    simp only [decide_eq_true_eq]
    omega
  rw [takenFrom, hnone, List.map_nil]

/-- What is taken last is taken last from its queue. -/
theorem takenFrom_concat (id : Nat) (taken : List (Nat × α)) (other : Nat) (event : α) :
    takenFrom id (taken ++ [(other, event)]) =
      takenFrom id taken ++ if other = id then [event] else [] := by
  unfold takenFrom
  rw [List.filter_append, List.map_append]
  by_cases h : other = id
  · simp [h]
  · simp [h]

/-! What one act does to an announcement. -/

section Acts

variable {before : Events α} {event : α} {taken : List (Nat × α)} {left : List Nat}

/-- A new subscription comes too late. -/
theorem Underway.subscribe (h : Underway before event taken hub left) :
    Underway before event taken hub.subscribe.1 left := by
  have hcount : hub.subscribe.1.subscriptions.length = hub.subscriptions.length + 1 :=
    List.length_append
  have hgrown := h.count
  refine ⟨h.producers, h.distinct, h.bounded, by omega, fun entry hentry => ?_,
    fun id hopen => ?_⟩
  · have hlt := h.takers entry hentry
    omega
  · rw [queueOf_subscribe]
    rcases isOpen_subscribe hopen with rfl | hold
    · have hlate : ¬ hub.subscriptions.length < before.subscriptions.length := by omega
      rw [takenFrom_of_le h.takers (Nat.le_refl _), queueOf_of_le (Nat.le_refl _),
        queueOf_of_le h.count, if_neg (fun hearly => hlate hearly.1)]
    · exact h.told id hold

/-- What is taken from a queue is not lost. -/
theorem Underway.take (h : Underway before event taken hub left) {id : Nat} {e : α}
    (htake : hub.take? id = some (e, hub')) :
    Underway before event (taken ++ [(id, e)]) hub' left := by
  obtain ⟨haudience, hproducers, hlt, hqueue, hother⟩ := take?_eq_some htake
  refine ⟨hproducers ▸ h.producers, h.distinct, h.bounded, haudience.count ▸ h.count,
    fun entry hentry => ?_, fun other hopen => ?_⟩
  · rw [haudience.count]
    rcases List.mem_append.1 hentry with hold | hnew
    · exact h.takers entry hold
    · rw [List.mem_singleton.1 hnew]
      exact hlt
  · have htold := h.told other ((haudience.isOpen other).1 hopen)
    rw [takenFrom_concat]
    by_cases heq : id = other
    · subst heq
      rw [hqueue] at htold
      rw [if_pos rfl, List.append_assoc]
      exact htold
    · rw [if_neg heq, List.append_nil, hother other (Ne.symm heq)]
      exact htold

/-- An announcement goes on when a subscription is shut. -/
theorem Underway.shut (h : Underway before event taken hub left) (id : Nat) :
    Underway before event taken (hub.shut id) left := by
  have hcount : (hub.shut id).subscriptions.length = hub.subscriptions.length :=
    List.length_modify ..
  refine ⟨h.producers, h.distinct, h.bounded, hcount ▸ h.count, hcount ▸ h.takers,
    fun other hopen => ?_⟩
  rw [queueOf_shut]
  exact h.told other (isOpen_shut hopen)

/-- An announcement goes on when a subscription is taken from the list. -/
theorem Underway.unlist (h : Underway before event taken hub left) (id : Nat) :
    Underway before event taken (hub.unlist id) left :=
  ⟨h.producers, h.distinct, h.bounded, h.count, h.takers, h.told⟩

/-- The teller goes on: the turns that are no longer to come have come now. -/
theorem Underway.goOn (h : Underway before event taken hub left) :
    ∃ left', Underway before event taken hub.runAll left' := by
  obtain ⟨idle, hidle, hproducers⟩ := h.producers
  obtain ⟨haudience, -, hleft, hqueues⟩ := deliver_spec event left { hub with producers := idle }
  rw [runAll_of_teller hidle hproducers]
  refine ⟨_, ⟨idle, hidle, rfl⟩, hleft.sublist.nodup h.distinct,
    fun id hmem => h.bounded id (hleft.subset hmem), haudience.count ▸ h.count,
    haudience.count ▸ h.takers, fun id hopen => ?_⟩
  have hbefore : hub.IsOpen id := (haudience.isOpen id).1 hopen
  have htold := h.told id hbefore
  have hqueue := hqueues h.distinct id hbefore
  generalize (deliver event left { hub with producers := idle }).2 = left' at hleft hqueue ⊢
  have hsame : takenFrom id taken ++ (hub.queueOf id ++
      if id ∈ left ∧ id ∉ left' then [event] else []) =
      before.queueOf id ++ if id < before.subscriptions.length ∧ id ∉ left' then [event] else []
      := by
    rw [← List.append_assoc, htold]
    by_cases hturn : id ∈ left
    · have hearly := h.bounded id hturn
      simp [hturn, hearly]
    · have hpassed : id ∉ left' := fun hmem => hturn (hleft.subset hmem)
      simp [hturn, hpassed]
  exact hqueue ▸ hsame

end Acts

/-- An announcement goes on as it should whatever the subscribers do. -/
theorem Underway.attended {before start : Events α} {event : α} {left : List Nat}
    (h : Underway before event [] start left) {taken : List (Nat × α)}
    (hattended : Attended start taken hub) :
    ∃ left', Underway before event taken hub left' := by
  induction hattended with
  | start => exact ⟨left, h⟩
  | subscribe _ ih =>
    obtain ⟨left', hnow⟩ := ih
    exact ⟨left', hnow.subscribe⟩
  | take _ htake ih =>
    obtain ⟨left', hnow⟩ := ih
    exact ⟨left', hnow.take htake⟩
  | shut id _ ih =>
    obtain ⟨left', hnow⟩ := ih
    exact ⟨left', hnow.shut id⟩
  | unlist _ _ ih =>
    obtain ⟨left', hnow⟩ := ih
    exact ⟨left', hnow.unlist _⟩
  | goOn _ ih =>
    obtain ⟨left', hnow⟩ := ih
    exact hnow.goOn

/-- **Announcements reach their audience.**  On a hub where no producer waits, an event is put
once into each queue that is open for it, whatever the subscribers do in the meantime. -/
theorem announced_announce (hkept : hub.IsKept) (hquiet : hub.isBlocked = false) (event : α) :
    Announced hub (hub.announce event) event := by
  intro taken after hattended hover id hopen
  obtain ⟨left, hbegun⟩ := underway_announce hkept (idle_of_not_blocked hquiet) event
  obtain ⟨left', hnow⟩ := hbegun.attended hattended
  obtain ⟨idle, -, hproducers⟩ := hnow.producers
  have hteller : teller event left' = {} := by
    refine idle_of_not_blocked hover _ ?_
    rw [hproducers]
    exact List.mem_append_right _ (List.mem_singleton.2 rfl)
  have hleft : left' = [] := by
    cases left' with
    | nil => rfl
    | cons id rest => cases hteller
  subst hleft
  have htold := hnow.told id hopen
  simpa using htold

end TaskTree.Events
