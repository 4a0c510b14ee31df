import TaskTree.Gate
import TaskTree.Proofs.Named

/-!
# What a gate keeps at all times

Whatever visitors come, wake and leave, in whatever order, the counters of a gate agree with the
places of its visitors, a writer inside is alone, and a sleeper that nobody has woken could not
enter (`IsSound`).  The last is what keeps wake-ups from getting lost: once nobody is inside,
everybody who could enter has been woken (`exclusive_and_awake`).

A visitor leaves in the same way whether or not what it did inside came to a good end.
-/

namespace TaskTree.Gate

variable {gate next : Gate} {name : String} {role : Role}

/-! Visitors and their numbers. -/

/-- The place is inside. -/
def Place.isInside : Place → Bool
  | .inside => true
  | .asleep _ => false

/-- The visitor has a role and is inside, or outside. -/
def Visitor.counts (visitor : Visitor) (role : Role) (inside : Bool) : Bool :=
  visitor.role = role && visitor.place.isInside = inside

/-- The number of visitors with a role that are inside, or outside. -/
def number (visitors : Named Visitor) (role : Role) (inside : Bool) : Nat :=
  visitors.countP fun entry => entry.2.counts role inside

/-- A visitor that was put in is counted besides the others. -/
theorem number_insert {visitors : Named Visitor} (hd : Named.IsDistinct visitors) (name : String)
    (visitor : Visitor) (role : Role) (inside : Bool) :
    number (Named.insert name visitor visitors) role inside =
      number (Named.erase name visitors) role inside +
        if visitor.counts role inside then 1 else 0 :=
  Named.countP_insert hd name visitor _

/-- A visitor that is there is counted besides the others. -/
theorem number_of_find? {visitors : Named Visitor} (hd : Named.IsDistinct visitors)
    {visitor : Visitor} (h : Named.find? name visitors = some visitor) (role : Role)
    (inside : Bool) : number visitors role inside =
      number (Named.erase name visitors) role inside +
        if visitor.counts role inside then 1 else 0 :=
  Named.countP_of_find? hd h _

/-- A visitor that is there is counted. -/
theorem number_pos {visitors : Named Visitor} {place : Place}
    (h : Named.find? name visitors = some ⟨role, place⟩) :
    0 < number visitors role place.isInside :=
  List.countP_pos_iff.2 ⟨_, Named.mem_of_find? h, by simp [Visitor.counts]⟩

/-- Where visitors are counted there is one. -/
theorem exists_of_number_pos {visitors : Named Visitor} (hd : Named.IsDistinct visitors)
    {inside : Bool} (h : 0 < number visitors role inside) :
    ∃ name place, Named.find? name visitors = some ⟨role, place⟩ ∧ place.isInside = inside := by
  obtain ⟨⟨name, role', place⟩, hmem, hcounts⟩ := List.countP_pos_iff.1 h
  simp only [Visitor.counts, Bool.and_eq_true, decide_eq_true_eq] at hcounts
  obtain ⟨rfl, hplace⟩ := hcounts
  exact ⟨name, place, Named.find?_of_mem hd hmem, hplace⟩

/-! Notified sleepers. -/

/-- A visitor after everybody was notified. -/
def Visitor.notified (visitor : Visitor) : Visitor :=
  match visitor.place with
  | .asleep _ => { visitor with place := .asleep true }
  | .inside => visitor

/-- A visitor counts after a notice as before. -/
theorem Visitor.counts_notified (visitor : Visitor) (role : Role) (inside : Bool) :
    visitor.notified.counts role inside = visitor.counts role inside := by
  obtain ⟨role', place⟩ := visitor
  cases place with
  | asleep woken => rfl
  | inside => rfl

/-- A notified visitor does not sleep unwoken. -/
theorem Visitor.notified_ne (visitor : Visitor) (role : Role) :
    visitor.notified ≠ ⟨role, .asleep false⟩ := by
  obtain ⟨role', place⟩ := visitor
  cases place with
  | asleep woken => simp [Visitor.notified]
  | inside => simp [Visitor.notified]

/-- Everybody is notified. -/
theorem visitors_notifyAll (gate : Gate) :
    gate.notifyAll.visitors = Named.mapThings Visitor.notified gate.visitors := by
  unfold notifyAll Named.mapThings
  refine List.map_congr_left fun entry _ => ?_
  obtain ⟨name, role, place⟩ := entry
  cases place with
  | asleep woken => rfl
  | inside => rfl

/-- As many visitors are counted after a notice as before. -/
theorem number_notified (visitors : Named Visitor) (role : Role) (inside : Bool) :
    number (Named.mapThings Visitor.notified visitors) role inside =
      number visitors role inside := by
  simp only [number, Named.mapThings, List.countP_map, Function.comp_def, Visitor.counts_notified]

/-! Gates that are sound. -/

/-- A reader is admitted if nobody writes and no writer waits. -/
theorem admits_reader_iff :
    gate.admits .reader = true ↔ gate.writing = false ∧ gate.writersWaiting = 0 := by
  simp [admits]

/-- A writer is admitted if nobody writes and nobody reads. -/
theorem admits_writer_iff :
    gate.admits .writer = true ↔ gate.writing = false ∧ gate.readers = 0 := by
  simp [admits]

/-- The counters are the numbers of visitors that they stand for, and readers and writers are
apart. -/
structure IsCounted (gate : Gate) : Prop where
  distinct : Named.IsDistinct gate.visitors
  readers : gate.readers = number gate.visitors .reader true
  writing : gate.writing.toNat = number gate.visitors .writer true
  waiting : gate.writersWaiting = number gate.visitors .writer false
  apart : gate.writing = true → gate.readers = 0

/-- Moreover, nobody sleeps unwoken who could enter. -/
structure IsSound (gate : Gate) : Prop extends IsCounted gate where
  unwoken : ∀ {name role}, Named.find? name gate.visitors = some ⟨role, .asleep false⟩ →
    gate.admits role = false

/-- A gate without visitors is sound. -/
theorem isSound_empty : IsSound empty where
  distinct := Named.isDistinct_nil
  readers := rfl
  writing := rfl
  waiting := rfl
  apart := by simp [empty]
  unwoken h := by cases h

/-- Once everybody was notified, nobody sleeps unwoken. -/
theorem IsCounted.notifyAll (h : IsCounted gate) : IsSound gate.notifyAll where
  distinct := visitors_notifyAll gate ▸ h.distinct.mapThings _
  readers := by
    rw [visitors_notifyAll, number_notified]
    exact h.readers
  writing := by
    rw [visitors_notifyAll, number_notified]
    exact h.writing
  waiting := by
    rw [visitors_notifyAll, number_notified]
    exact h.waiting
  apart := h.apart
  unwoken := by
    intro name role hfound
    rw [visitors_notifyAll, Named.find?_mapThings, Option.map_eq_some_iff] at hfound
    obtain ⟨visitor, -, hnotified⟩ := hfound
    exact (visitor.notified_ne role hnotified).elim

@[simp] theorem visitors_settle (gate : Gate) (name : String) (role : Role) (place : Place) :
    (gate.settle name role place).visitors = Named.insert name ⟨role, place⟩ gate.visitors := rfl

/-- A visitor is settled in a place, and the counters with it.  The gate stays sound if nobody can
enter then who could not before. -/
theorem IsSound.settle (h : IsSound gate) {counted : Gate} {place : Place}
    (hvisitors : counted.visitors = gate.visitors)
    (hreaders : counted.readers = number (Named.erase name gate.visitors) .reader true +
      if Visitor.counts ⟨role, place⟩ .reader true then 1 else 0)
    (hwriting : counted.writing.toNat = number (Named.erase name gate.visitors) .writer true +
      if Visitor.counts ⟨role, place⟩ .writer true then 1 else 0)
    (hwaiting : counted.writersWaiting = number (Named.erase name gate.visitors) .writer false +
      if Visitor.counts ⟨role, place⟩ .writer false then 1 else 0)
    (hapart : counted.writing = true → counted.readers = 0)
    (hkept : ∀ role, gate.admits role = false → counted.admits role = false)
    (hplace : place = .asleep false → counted.admits role = false) :
    IsSound (counted.settle name role place) where
  distinct := by
    rw [visitors_settle, hvisitors]
    exact h.distinct.insert name _
  readers := by
    rw [visitors_settle, hvisitors, number_insert h.distinct]
    exact hreaders
  writing := by
    rw [visitors_settle, hvisitors, number_insert h.distinct]
    exact hwriting
  waiting := by
    rw [visitors_settle, hvisitors, number_insert h.distinct]
    exact hwaiting
  apart := hapart
  unwoken := by
    intro other role' hfound
    rw [visitors_settle, hvisitors, Named.find?_insert] at hfound
    change counted.admits role' = false
    split at hfound
    · cases hfound
      exact hplace rfl
    · exact hkept role' (h.unwoken hfound)

/-! One step. -/

/-- A visitor is not inside, and so many writers wait besides it. -/
structure IsOutside (gate : Gate) (name : String) (waiting : Nat) : Prop where
  readers : number (Named.erase name gate.visitors) .reader true = gate.readers
  writing : number (Named.erase name gate.visitors) .writer true = gate.writing.toNat
  waiting : number (Named.erase name gate.visitors) .writer false = waiting

/-- A visitor that is not there is outside, and no writer. -/
theorem IsSound.isOutside_of_new (h : IsSound gate)
    (hnew : Named.find? name gate.visitors = none) :
    IsOutside gate name gate.writersWaiting := by
  have hsame := Named.erase_of_find?_none hnew
  exact ⟨by rw [hsame, h.readers], by rw [hsame, h.writing], by rw [hsame, h.waiting]⟩

/-- A sleeper is outside, and it is one of those who wait if it is a writer. -/
theorem IsSound.isOutside_of_asleep (h : IsSound gate) {woken : Bool}
    (hfound : Named.find? name gate.visitors = some ⟨role, .asleep woken⟩) :
    ∃ waiting, IsOutside gate name waiting ∧
      gate.writersWaiting = waiting + if role = .writer then 1 else 0 := by
  have hnumber := number_of_find? h.distinct hfound
  refine ⟨_, ⟨?_, ?_, rfl⟩, ?_⟩
  · rw [h.readers, hnumber]
    simp [Visitor.counts, Place.isInside]
  · rw [h.writing, hnumber]
    simp [Visitor.counts, Place.isInside]
  · rw [h.waiting, hnumber]
    simp [Visitor.counts, Place.isInside]

/-- A visitor that is admitted goes inside.  A writer that has slept is no longer waited for. -/
theorem IsSound.enter (h : IsSound gate) {waiting : Nat} (hout : IsOutside gate name waiting)
    (hadmits : gate.admits role = true) (hrole : role = .reader → waiting = gate.writersWaiting) :
    IsSound ({ gate with writersWaiting := waiting }.enter name role) := by
  cases role with
  | reader =>
    obtain rfl := hrole rfl
    obtain ⟨hfree, -⟩ := admits_reader_iff.1 hadmits
    refine h.settle rfl ?_ ?_ ?_ ?_ ?_ ?_
    · simp [hout.readers, Visitor.counts, Place.isInside]
    · simp [hout.writing, Visitor.counts, Place.isInside]
    · simp [hout.waiting, Visitor.counts, Place.isInside]
    · simp [hfree]
    · intro role hrefused
      cases role with
      | reader => exact hrefused
      | writer => simp [admits]
    · intro hasleep
      cases hasleep
  | writer =>
    obtain ⟨hfree, hempty⟩ := admits_writer_iff.1 hadmits
    refine h.settle rfl ?_ ?_ ?_ ?_ ?_ ?_
    · simp [hout.readers, Visitor.counts, Place.isInside]
    · simp [hout.writing, hfree, Visitor.counts, Place.isInside]
    · simp [hout.waiting, Visitor.counts, Place.isInside]
    · simp [hempty]
    · intro role _
      cases role with
      | reader => simp [admits]
      | writer => simp [admits]
    · intro hasleep
      cases hasleep

/-- A visitor that is not admitted falls asleep. -/
theorem IsSound.sleep (h : IsSound gate) {waiting : Nat} (hout : IsOutside gate name waiting)
    (hrefused : gate.admits role = false)
    (hmore : gate.writersWaiting ≤ waiting + if role = .writer then 1 else 0) :
    IsSound ({ gate with writersWaiting := waiting + if role = Role.writer then 1 else 0 }.settle name
      role (.asleep false)) := by
  have hkept : ∀ role', gate.admits role' = false →
      admits { gate with writersWaiting := waiting + if role = Role.writer then 1 else 0 } role' =
        false := by
    intro role' hrole'
    cases role' with
    | reader =>
      simp only [admits, Bool.and_eq_false_iff, beq_eq_false_iff_ne, ne_eq] at hrole' ⊢
      exact hrole'.imp_right fun hsome hnone => hsome (by omega)
    | writer => exact hrole'
  refine h.settle rfl ?_ ?_ ?_ h.apart hkept fun _ => hkept role hrefused
  · simp [hout.readers, Visitor.counts, Place.isInside]
  · simp [hout.writing, Visitor.counts, Place.isInside]
  · simp [hout.waiting, Visitor.counts, Place.isInside]

/-- A gate stays sound when a visitor comes. -/
theorem IsSound.arrive (h : IsSound gate) (hnew : Named.has name gate.visitors = false)
    (role : Role) : IsSound (gate.arrive name role) := by
  have hout := h.isOutside_of_new (Option.not_isSome_iff_eq_none.1 (Bool.not_eq_true _ ▸ hnew))
  unfold Gate.arrive
  rw [if_neg (by simp [hnew])]
  split
  · next hadmits => exact h.enter hout hadmits fun _ => rfl
  · next hrefused =>
    have hasleep := h.sleep hout (Bool.eq_false_iff.2 hrefused) (Nat.le_add_right ..)
    cases role with
    | reader => exact hasleep
    | writer => exact hasleep

/-- A gate stays sound when a woken sleeper tests again. -/
theorem IsSound.wake (h : IsSound gate)
    (hfound : Named.find? name gate.visitors = some ⟨role, .asleep true⟩) :
    IsSound (gate.wake name) := by
  obtain ⟨waiting, hout, hwaiting⟩ := h.isOutside_of_asleep hfound
  simp only [Gate.wake, hfound]
  split
  · next hadmits =>
    cases role with
    | reader => exact h.enter (hwaiting ▸ hout) hadmits fun _ => rfl
    | writer =>
      have hless : gate.writersWaiting - 1 = waiting := by simp [hwaiting]
      rw [hless]
      exact h.enter hout hadmits fun hrole => by cases hrole
  · next hrefused =>
    have hasleep := h.sleep hout (Bool.eq_false_iff.2 hrefused) (Nat.le_of_eq hwaiting)
    rw [← hwaiting] at hasleep
    exact hasleep

/-- A gate stays sound when a reader leaves. -/
theorem IsSound.leave_reader (h : IsSound gate)
    (hfound : Named.find? name gate.visitors = some ⟨.reader, .inside⟩) :
    IsSound (gate.leave name) := by
  have hnumber := number_of_find? h.distinct hfound
  have hreaders : gate.readers = number (Named.erase name gate.visitors) .reader true + 1 := by
    rw [h.readers, hnumber]
    rfl
  have hcounted : IsCounted { gate with
      readers := gate.readers - 1, visitors := Named.erase name gate.visitors } :=
    ⟨h.distinct.erase name, by simp [hreaders], by rw [h.writing, hnumber]; rfl,
      by rw [h.waiting, hnumber]; rfl, fun hwriting => by simp [h.apart hwriting]⟩
  simp only [leave, hfound]
  split
  · exact hcounted.notifyAll
  · next hmore =>
    refine ⟨hcounted, fun {other role} hother => ?_⟩
    rw [Named.find?_erase] at hother
    split at hother
    · cases hother
    · have hrefused := h.unwoken hother
      cases role with
      | reader => exact hrefused
      | writer => simp [admits, hmore]

/-- A gate stays sound when a writer leaves. -/
theorem IsSound.leave_writer (h : IsSound gate)
    (hfound : Named.find? name gate.visitors = some ⟨.writer, .inside⟩) :
    IsSound (gate.leave name) := by
  have hnumber := number_of_find? h.distinct hfound
  have hwriting : gate.writing.toNat = number (Named.erase name gate.visitors) .writer true + 1 := by
    rw [h.writing, hnumber]
    rfl
  have hcounted : IsCounted { gate with
      writing := false, visitors := Named.erase name gate.visitors } := by
    refine ⟨h.distinct.erase name, by rw [h.readers, hnumber]; rfl, ?_,
      by rw [h.waiting, hnumber]; rfl, fun hwriting => by cases hwriting⟩
    have hone := gate.writing.toNat_le
    simp only [Bool.toNat_false]
    omega
  simp only [leave, hfound]
  exact hcounted.notifyAll

/-- Each step leaves a gate sound. -/
theorem IsSound.step (h : IsSound gate) (hstep : Step gate next) : IsSound next := by
  cases hstep with
  | arrive name role hnew => exact h.arrive hnew role
  | wake name role hfound => exact h.wake hfound
  | leave name role hfound =>
    cases role with
    | reader => exact h.leave_reader hfound
    | writer => exact h.leave_writer hfound

/-- Every gate that runs lead to is sound. -/
theorem Reachable.isSound (h : Reachable gate) : IsSound gate := by
  induction h with
  | start => exact isSound_empty
  | step _ hstep ih => exact ih.step hstep

/-! Who is inside, and who comes there. -/

/-- A writer is inside exactly if the gate says so. -/
theorem IsCounted.writing_iff (h : IsCounted gate) :
    gate.writing = true ↔ ∃ name, Named.find? name gate.visitors = some ⟨.writer, .inside⟩ := by
  rw [← Bool.toNat_eq_one, h.writing]
  have hone := h.writing ▸ gate.writing.toNat_le
  constructor
  · intro hwriting
    obtain ⟨name, place, hfound, hinside⟩ := exists_of_number_pos h.distinct
      (show 0 < number gate.visitors .writer true by omega)
    cases place with
    | inside => exact ⟨name, hfound⟩
    | asleep woken => cases hinside
  · intro hwriter
    obtain ⟨name, hfound⟩ := hwriter
    have hsome : 0 < number gate.visitors .writer true := number_pos hfound
    omega

/-- A writer inside is alone. -/
theorem IsCounted.alone (h : IsCounted gate)
    (hwriter : Named.find? name gate.visitors = some ⟨.writer, .inside⟩) {other : String}
    (hother : Named.find? other gate.visitors = some ⟨role, .inside⟩) : other = name := by
  apply Decidable.byContradiction
  intro hne
  have hnumber := number_of_find? h.distinct hwriter
  have hone := h.writing ▸ gate.writing.toNat_le
  have hnoReader := h.readers.symm.trans (h.apart (h.writing_iff.2 ⟨name, hwriter⟩))
  have hnobody : number (Named.erase name gate.visitors) role true = 0 := by
    cases role with
    | reader =>
      rw [hnumber] at hnoReader
      exact hnoReader
    | writer =>
      rw [hnumber] at hone
      simp only [Visitor.counts, Place.isInside, decide_true, Bool.and_self, if_true] at hone
      omega
  have hthere : Named.find? other (Named.erase name gate.visitors) = some ⟨role, .inside⟩ := by
    rw [Named.find?_erase, if_neg (Ne.symm hne), hother]
  have hsome : 0 < number (Named.erase name gate.visitors) role true := number_pos hthere
  omega

/-- Where the test sends a visitor. -/
def placeFor (gate : Gate) (role : Role) : Place :=
  if gate.admits role then .inside else .asleep false

/-- A visitor is sent inside exactly if it is admitted. -/
theorem placeFor_eq_inside_iff : gate.placeFor role = .inside ↔ gate.admits role = true := by
  unfold placeFor
  split
  · next hadmits => simp [hadmits]
  · next hrefused => simp [hrefused]

/-- A visitor that comes goes where the test sends it. -/
theorem visitors_arrive (hnew : Named.has name gate.visitors = false) (role : Role) :
    (gate.arrive name role).visitors =
      Named.insert name ⟨role, gate.placeFor role⟩ gate.visitors := by
  unfold arrive placeFor
  rw [if_neg (by simp [hnew])]
  split
  · cases role with
    | reader => rfl
    | writer => rfl
  · cases role with
    | reader => rfl
    | writer => rfl

/-- A woken sleeper goes where the test sends it. -/
theorem visitors_wake (hfound : Named.find? name gate.visitors = some ⟨role, .asleep true⟩) :
    (gate.wake name).visitors = Named.insert name ⟨role, gate.placeFor role⟩ gate.visitors := by
  simp only [wake, hfound, placeFor]
  split
  · cases role with
    | reader => rfl
    | writer => rfl
  · rfl

/-- Nobody comes inside when a visitor leaves. -/
theorem find?_of_leave {leaver : String}
    (hinside : Named.find? name (gate.leave leaver).visitors = some ⟨role, .inside⟩) :
    Named.find? name gate.visitors = some ⟨role, .inside⟩ := by
  have hkept : ∀ {visitors : Named Visitor},
      Named.find? name (Named.mapThings Visitor.notified visitors) = some ⟨role, .inside⟩ →
        Named.find? name visitors = some ⟨role, .inside⟩ := by
    intro visitors hnotified
    rw [Named.find?_mapThings, Option.map_eq_some_iff] at hnotified
    obtain ⟨⟨role', place⟩, hfound, hsame⟩ := hnotified
    cases place with
    | asleep woken => cases hsame
    | inside => exact hfound.trans (congrArg some hsame)
  have hstayed : Named.find? name (Named.erase leaver gate.visitors) = some ⟨role, .inside⟩ →
      Named.find? name gate.visitors = some ⟨role, .inside⟩ := by
    intro hthere
    rw [Named.find?_erase] at hthere
    split at hthere
    · cases hthere
    · exact hthere
  unfold leave at hinside
  split at hinside
  · simp only at hinside
    split at hinside
    · rw [visitors_notifyAll] at hinside
      exact hstayed (hkept hinside)
    · exact hstayed hinside
  · rw [visitors_notifyAll] at hinside
    exact hstayed (hkept hinside)
  · exact hinside

/-- Who comes inside was admitted. -/
theorem Step.admits (hstep : Step gate next)
    (hinside : Named.find? name next.visitors = some ⟨role, .inside⟩)
    (hbefore : Named.find? name gate.visitors ≠ some ⟨role, .inside⟩) :
    gate.admits role = true := by
  have htested : ∀ {other : String} {role' : Role},
      Named.find? name (Named.insert other ⟨role', gate.placeFor role'⟩ gate.visitors) =
        some ⟨role, .inside⟩ → gate.admits role = true := by
    intro other role' hfound
    rw [Named.find?_insert] at hfound
    split at hfound
    · obtain ⟨rfl, hplace⟩ := Visitor.mk.inj (Option.some.inj hfound)
      exact placeFor_eq_inside_iff.1 hplace
    · exact (hbefore hfound).elim
  cases hstep with
  | arrive other role' hnew =>
    rw [visitors_arrive hnew] at hinside
    exact htested hinside
  | wake other role' hfound =>
    rw [visitors_wake hfound] at hinside
    exact htested hinside
  | leave other role' hfound => exact (hbefore (find?_of_leave hinside)).elim

/-! Who is outside, and what wakes them. -/

/-- Who sleeps and would be admitted has been woken, and comes inside when it tests again. -/
theorem IsSound.wakes (h : IsSound gate) {woken : Bool}
    (hfound : Named.find? name gate.visitors = some ⟨role, .asleep woken⟩)
    (hadmits : gate.admits role = true) :
    Named.find? name gate.visitors = some ⟨role, .asleep true⟩ ∧
      Named.find? name (gate.wake name).visitors = some ⟨role, .inside⟩ := by
  have hwoken : woken = true := by
    cases woken with
    | true => rfl
    | false => exact absurd (h.unwoken hfound) (by simp [hadmits])
  subst hwoken
  refine ⟨hfound, ?_⟩
  rw [visitors_wake hfound, Named.find?_insert_self, placeFor_eq_inside_iff.2 hadmits]

/-- Nobody is inside if nobody holds the gate. -/
theorem not_inside_of_holding (h : gate.holding = []) (name : String) (role : Role) :
    Named.find? name gate.visitors ≠ some ⟨role, .inside⟩ := by
  intro hfound
  have hmem : name ∈ gate.holding :=
    List.mem_map.2 ⟨_, List.mem_filter.2 ⟨Named.mem_of_find? hfound, by simp⟩, rfl⟩
  rw [h] at hmem
  cases hmem

/-- Where visitors wait there is a sleeper. -/
theorem exists_asleep_of_waiting (hd : Named.IsDistinct gate.visitors) (h : gate.waiting ≠ []) :
    ∃ name role woken, Named.find? name gate.visitors = some ⟨role, .asleep woken⟩ := by
  obtain ⟨name, hname⟩ := List.exists_mem_of_ne_nil _ h
  obtain ⟨⟨name, role, place⟩, hentry, -⟩ := List.mem_map.1 hname
  obtain ⟨hmem, houtside⟩ := List.mem_filter.1 hentry
  cases place with
  | inside => simp at houtside
  | asleep woken => exact ⟨name, role, woken, Named.find?_of_mem hd hmem⟩

/-- If nobody is inside, somebody who waits would be admitted: any writer, or else any reader. -/
theorem IsCounted.exists_admitted (h : IsCounted gate) (hnobody : gate.holding = [])
    (hsomebody : gate.waiting ≠ []) :
    ∃ name role woken, Named.find? name gate.visitors = some ⟨role, .asleep woken⟩ ∧
      gate.admits role = true := by
  have hinside := not_inside_of_holding hnobody
  have hwriting : gate.writing = false := by
    rw [Bool.eq_false_iff, ne_eq, h.writing_iff]
    intro hwriter
    obtain ⟨name, hfound⟩ := hwriter
    exact hinside name .writer hfound
  have hreaders : gate.readers = 0 := by
    apply Nat.eq_zero_of_not_pos
    intro hsome
    obtain ⟨name, place, hfound, hplace⟩ := exists_of_number_pos h.distinct (h.readers ▸ hsome)
    cases place with
    | inside => exact hinside name .reader hfound
    | asleep woken => cases hplace
  by_cases hwaits : gate.writersWaiting = 0
  · obtain ⟨name, role, woken, hfound⟩ := exists_asleep_of_waiting h.distinct hsomebody
    cases role with
    | reader => exact ⟨name, .reader, woken, hfound, admits_reader_iff.2 ⟨hwriting, hwaits⟩⟩
    | writer =>
      have hsome : 0 < number gate.visitors .writer false := number_pos hfound
      have hwaiting := h.waiting
      omega
  · obtain ⟨name, place, hfound, hplace⟩ := exists_of_number_pos h.distinct
      (h.waiting ▸ Nat.pos_of_ne_zero hwaits)
    cases place with
    | inside => cases hplace
    | asleep woken => exact ⟨name, .writer, woken, hfound, admits_writer_iff.2 ⟨hwriting, hreaders⟩⟩

/-- **Exclusion, and no sleep without reason.**  In every gate that a run leads to, a writer inside
is alone, the counters are the numbers that they stand for, and no step brings a reader inside
while a writer waits.  Nobody oversleeps: whoever waits and would be admitted has been woken and
comes inside when it tests again, and when nobody is inside, somebody who waits is such a one. -/
theorem exclusive_and_awake (h : Reachable gate) :
    (∀ name other role, Named.find? name gate.visitors = some ⟨.writer, .inside⟩ →
      Named.find? other gate.visitors = some ⟨role, .inside⟩ → other = name) ∧
    gate.readers = number gate.visitors .reader true ∧
    (gate.writing = true ↔ ∃ name, Named.find? name gate.visitors = some ⟨.writer, .inside⟩) ∧
    gate.writersWaiting = number gate.visitors .writer false ∧
    (∀ next name, Step gate next → Named.find? name next.visitors = some ⟨.reader, .inside⟩ →
      Named.find? name gate.visitors ≠ some ⟨.reader, .inside⟩ →
      ∀ writer woken, Named.find? writer gate.visitors ≠ some ⟨.writer, .asleep woken⟩) ∧
    (∀ name role woken, Named.find? name gate.visitors = some ⟨role, .asleep woken⟩ →
      gate.admits role = true → woken = true ∧
        Named.find? name (gate.wake name).visitors = some ⟨role, .inside⟩) ∧
    (gate.holding = [] → gate.waiting ≠ [] →
      ∃ name role, Named.find? name gate.visitors = some ⟨role, .asleep true⟩ ∧
        Named.find? name (gate.wake name).visitors = some ⟨role, .inside⟩) := by
  have hsound := h.isSound
  refine ⟨fun name other role hwriter hother => hsound.alone hwriter hother, hsound.readers,
    hsound.writing_iff, hsound.waiting, ?_, ?_, ?_⟩
  · intro next name hstep hinside hbefore writer woken hwaits
    obtain ⟨-, hnone⟩ := admits_reader_iff.1 (hstep.admits hinside hbefore)
    have hsome : 0 < number gate.visitors .writer false := number_pos hwaits
    have hwaiting := hsound.waiting
    omega
  · intro name role woken hfound hadmits
    obtain ⟨hwoken, hinside⟩ := hsound.wakes hfound hadmits
    rw [hfound] at hwoken
    cases hwoken
    exact ⟨rfl, hinside⟩
  · intro hnobody hsomebody
    obtain ⟨name, role, woken, hfound, hadmits⟩ := hsound.exists_admitted hnobody hsomebody
    exact ⟨name, role, hsound.wakes hfound hadmits⟩

/-- A reader that tests too early sleeps on, behind a writer that has been woken. -/
theorem exclusive_and_awake_early :
    let left := (((empty.arrive "a" .reader).arrive "b" .writer).arrive "c" .reader).leave "a"
    let gate := left.wake "c"
    Reachable gate ∧ gate.holding = [] ∧ gate.waiting = ["b", "c"] ∧
      Named.find? "c" gate.visitors = some ⟨.reader, .asleep false⟩ ∧
      ∃ name role, Named.find? name gate.visitors = some ⟨role, .asleep true⟩ ∧
        Named.find? name (gate.wake name).visitors = some ⟨role, .inside⟩ := by
  intro left gate
  have hreach : Reachable gate := Reachable.start
    |>.step (.arrive _ "a" .reader rfl)
    |>.step (.arrive _ "b" .writer rfl)
    |>.step (.arrive _ "c" .reader rfl)
    |>.step (.leave _ "a" .reader rfl)
    |>.step (.wake _ "c" .reader rfl)
  obtain ⟨-, -, -, -, -, -, hwakes⟩ := exclusive_and_awake hreach
  exact ⟨hreach, rfl, rfl, rfl, hwakes rfl (by decide)⟩

/-! When everybody who has been woken tests. -/

/-- Who was not woken does not test. -/
theorem wake_of_not_woken
    (h : ∀ role, Named.find? name gate.visitors ≠ some ⟨role, .asleep true⟩) :
    gate.wake name = gate := by
  unfold wake
  split
  · next role hfound => exact (h role hfound).elim
  · rfl

/-- A test leads to a reachable gate, also one that nobody makes. -/
theorem Reachable.wake (h : Reachable gate) (name : String) : Reachable (gate.wake name) := by
  by_cases hwoken : ∃ role, Named.find? name gate.visitors = some ⟨role, .asleep true⟩
  · obtain ⟨role, hfound⟩ := hwoken
    exact h.step (.wake gate name role hfound)
  · rw [wake_of_not_woken (not_exists.1 hwoken)]
    exact h

/-- Who has tested is not woken any more, and its test wakes nobody. -/
theorem woken_of_wake {other : String}
    (h : Named.find? other (gate.wake name).visitors = some ⟨role, .asleep true⟩) :
    other ≠ name ∧ Named.find? other gate.visitors = some ⟨role, .asleep true⟩ := by
  by_cases hwoken : ∃ role, Named.find? name gate.visitors = some ⟨role, .asleep true⟩
  · obtain ⟨role', hfound⟩ := hwoken
    rw [visitors_wake hfound, Named.find?_insert] at h
    split at h
    · have hplace := (Visitor.mk.inj (Option.some.inj h)).2
      unfold placeFor at hplace
      split at hplace
      · cases hplace
      · cases hplace
    · next hne => exact ⟨Ne.symm hne, h⟩
  · rw [wake_of_not_woken (not_exists.1 hwoken)] at h
    refine ⟨fun heq => hwoken ⟨role, ?_⟩, h⟩
    rw [← heq, h]

/-- Any number of tests lead to a reachable gate. -/
theorem Reachable.foldl_wake (h : Reachable gate) (names : List String) :
    Reachable (names.foldl Gate.wake gate) := by
  induction names generalizing gate with
  | nil => exact h
  | cons name rest ih => exact ih (h.wake name)

/-- Who is still woken after some tests made none of them, and was woken before. -/
theorem woken_of_foldl_wake {names : List String} {other : String}
    (h : Named.find? other (names.foldl Gate.wake gate).visitors = some ⟨role, .asleep true⟩) :
    other ∉ names ∧ Named.find? other gate.visitors = some ⟨role, .asleep true⟩ := by
  induction names generalizing gate with
  | nil => exact ⟨List.not_mem_nil, h⟩
  | cons name rest ih =>
    obtain ⟨hrest, hafter⟩ := ih h
    obtain ⟨hne, hbefore⟩ := woken_of_wake hafter
    exact ⟨fun hmem => (List.mem_cons.1 hmem).elim hne hrest, hbefore⟩

/-- **Nobody waits before an empty gate.**  Once all who have been woken have tested, somebody is
inside, or nobody waits. -/
theorem waiting_wakeAll (h : Reachable gate) (hnobody : gate.wakeAll.holding = []) :
    gate.wakeAll.waiting = [] := by
  have hsound := (h.foldl_wake (Named.names gate.visitors)).isSound
  apply Decidable.byContradiction
  intro hsomebody
  obtain ⟨name, role, woken, hfound, hadmits⟩ := hsound.exists_admitted hnobody hsomebody
  obtain ⟨hunheard, hthere⟩ := woken_of_foldl_wake (hsound.wakes hfound hadmits).1
  exact hunheard (List.mem_map_of_mem (Named.mem_of_find? hthere))

end TaskTree.Gate
