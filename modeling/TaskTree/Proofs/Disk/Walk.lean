import TaskTree.Disk.Walk

/-!
# Ways over a disk

A walk looks at one entry for each name (`walk_cons`), so whether it comes to a
place can be told step by step (`Walks`, `walk_eq_ok_iff`).  A walk that has
come to a folder has come there over folders only (`IsWay`), hence never ends
at a link that it should have followed (`Walks.not_link`).  It does not look at
anything but folders and links on its way, so entries of other kinds may come
and go (`Walks.keep`).
-/

namespace TaskTree

namespace Location

/-- A location is covered exactly if it goes on from the other one. -/
theorem covers_iff {loc other : Location} :
    loc.covers other = true ↔ ∃ names, other = ⟨loc.anchor, loc.names ++ names⟩ := by
  obtain ⟨anchor, names⟩ := loc
  obtain ⟨anchor', names'⟩ := other
  simp only [covers, Bool.and_eq_true, decide_eq_true_eq, List.isPrefixOf_iff_prefix,
    Location.mk.injEq]
  constructor
  · intro hin
    obtain ⟨rfl, more, rfl⟩ := hin
    exact ⟨more, rfl, rfl⟩
  · intro hin
    obtain ⟨more, rfl, rfl⟩ := hin
    exact ⟨rfl, more, rfl⟩

end Location

namespace Disk

variable {disk disk' : Disk} {follow : Bool}

/-! One name of a walk. -/

/-- The entries that a walk keeps as it goes down to a name. -/
theorem under_below (disk : Disk) (folder : Location) (name : String) :
    (disk.below folder).under name = disk.below (folder.child name) := by
  unfold below Below.under
  rw [List.filterMap_filterMap]
  refine congrArg (fun f => disk.entries.filterMap f) (funext fun entry => ?_)
  obtain ⟨place, e, time⟩ := entry
  by_cases hcovers : folder.covers place = true
  · obtain ⟨more, rfl⟩ := Location.covers_iff.1 hcovers
    simp only [if_pos hcovers, Option.bind_some, List.drop_left]
    cases more with
    | nil =>
      have hnot : ¬ (folder.child name).covers ⟨folder.anchor, folder.names ++ []⟩ = true := by
        intro hchild
        obtain ⟨rest, heq⟩ := Location.covers_iff.1 hchild
        simp [Location.child] at heq
      rw [if_neg hnot]
    | cons first rest =>
      by_cases hfirst : first = name
      · subst hfirst
        have hchild : (folder.child first).covers ⟨folder.anchor, folder.names ++ first :: rest⟩ =
            true := Location.covers_iff.2 ⟨rest, by simp [Location.child]⟩
        have hdrop : (folder.names ++ first :: rest).drop (folder.child first).names.length =
            rest := by
          have hsplit : folder.names ++ first :: rest = (folder.child first).names ++ rest := by
            simp [Location.child]
          rw [hsplit, List.drop_left]
        simp only [if_true, if_pos hchild, hdrop]
      · have hnot : ¬ (folder.child name).covers
            ⟨folder.anchor, folder.names ++ first :: rest⟩ = true := by
          intro hchild
          obtain ⟨more, heq⟩ := Location.covers_iff.1 hchild
          simp only [Location.child, List.append_assoc, List.cons_append, List.nil_append,
            Location.mk.injEq, true_and] at heq
          exact hfirst (List.cons.inj (List.append_cancel_left heq)).1
        simp only [if_neg hfirst, if_neg hnot]
  · have hnot : ¬ (folder.child name).covers place = true := by
      intro hchild
      obtain ⟨more, rfl⟩ := Location.covers_iff.1 hchild
      exact hcovers (Location.covers_iff.2 ⟨name :: more, by simp [Location.child]⟩)
    simp only [if_neg hcovers, Option.bind_none, if_neg hnot]

theorem lookup_below_nil (disk : Disk) (place : Location) :
    (disk.below place).lookup [] = (disk.entries.lookup place).map Prod.fst := by
  unfold below
  generalize disk.entries = entries
  induction entries with
  | nil => rfl
  | cons entry rest ih =>
    obtain ⟨place', e, time⟩ := entry
    by_cases heq : place' = place
    · subst heq
      have hcovers : place'.covers place' = true :=
        Location.covers_iff.2 ⟨[], by rw [List.append_nil]⟩
      simp [hcovers]
    · have hne : (place == place') = false := by simpa using Ne.symm heq
      rw [List.lookup_cons, hne, ← ih]
      by_cases hcovers : place.covers place' = true
      · obtain ⟨more, rfl⟩ := Location.covers_iff.1 hcovers
        cases more with
        | nil => exact (heq (by rw [List.append_nil])).elim
        | cons first more => simp [hcovers, List.lookup_cons]
      · simp [hcovers]

/-- What a walk finds at a name is the entry that stands there. -/
theorem lookup_under (disk : Disk) (folder : Location) (name : String) :
    ((disk.below folder).under name).lookup [] = disk.entry? (folder.child name) := by
  have hnames : ¬ (folder.child name).names = [] := by simp [Location.child]
  rw [under_below, lookup_below_nil, entry?, stamped?, if_neg hnames]

/-- The folder from which the names of a link are gone, the link standing in `folder`. -/
def origin (folder target : Location) : Location :=
  if target.anchor = .here then folder else ⟨target.anchor, []⟩

theorem walk_nil (disk : Disk) (follow : Bool) (links : Nat) (folder : Location) :
    disk.walk follow links folder [] = .ok folder := by
  unfold walk
  rfl

/-- A walk, name by name. -/
theorem walk_cons (disk : Disk) (follow : Bool) (links : Nat) (folder : Location) (name : String)
    (rest : List String) :
    disk.walk follow links folder (name :: rest) =
      if name = ".." then disk.walk follow links folder.parent rest
      else if maxName < name.utf8ByteSize then .error .nameTooLong
      else
        match disk.entry? (folder.child name) with
        | some .folder => disk.walk follow links (folder.child name) rest
        | some (.link target) =>
          if rest = [] ∧ !follow then .ok (folder.child name)
          else
            match links with
            | 0 => .error .tooManyLinks
            | links + 1 => disk.walk follow links (origin folder target) (target.names ++ rest)
        | some _ => if rest = [] then .ok (folder.child name) else .error .notFolder
        | none => if rest = [] then .ok (folder.child name) else .error .notFound := by
  have hinside := lookup_under disk folder name
  conv => lhs; unfold walk
  rw [leg]
  by_cases hup : name = ".."
  · simp only [if_pos hup]
    conv => rhs; unfold walk
  by_cases hlong : maxName < name.utf8ByteSize
  · simp only [if_neg hup, if_pos hlong]
  simp only [if_neg hup, if_neg hlong, hinside]
  cases hentry : disk.entry? (folder.child name) with
  | none =>
    by_cases hrest : rest = []
    · simp only [if_pos hrest]
    · simp only [if_neg hrest]
  | some e =>
    cases e with
    | folder =>
      simp only [under_below]
      conv => rhs; unfold walk
    | link target =>
      by_cases hrest : rest = [] ∧ !follow
      · simp only [if_pos hrest]
      · simp only [if_neg hrest]
        rfl
    | _ =>
      by_cases hrest : rest = []
      · simp only [if_pos hrest]
      · simp only [if_neg hrest]

/-! Whole walks. -/

/-- A walk from a folder over these names, over so many links at most, comes to a place. -/
inductive Walks (disk : Disk) (follow : Bool) : Nat → Location → List String → Location → Prop
  | here {links : Nat} {folder : Location} : Walks disk follow links folder [] folder
  | up {links : Nat} {folder place : Location} {rest : List String}
      (more : Walks disk follow links folder.parent rest place) :
      Walks disk follow links folder (".." :: rest) place
  | down {links : Nat} {folder place : Location} {name : String} {rest : List String}
      (hname : name ≠ "..") (hsize : name.utf8ByteSize ≤ maxName)
      (hentry : disk.entry? (folder.child name) = some .folder)
      (more : Walks disk follow links (folder.child name) rest place) :
      Walks disk follow links folder (name :: rest) place
  | jump {links : Nat} {folder place target : Location} {name : String} {rest : List String}
      (hname : name ≠ "..") (hsize : name.utf8ByteSize ≤ maxName)
      (hentry : disk.entry? (folder.child name) = some (.link target))
      (hfollow : rest = [] → follow = true)
      (more : Walks disk follow links (origin folder target) (target.names ++ rest) place) :
      Walks disk follow (links + 1) folder (name :: rest) place
  | last {links : Nat} {folder : Location} {name : String}
      (hname : name ≠ "..") (hsize : name.utf8ByteSize ≤ maxName)
      (hentry : disk.entry? (folder.child name) ≠ some .folder)
      (hfollow : ∀ target, disk.entry? (folder.child name) = some (.link target) →
        follow = false) :
      Walks disk follow links folder [name] (folder.child name)

/-- Every walk that comes to a place goes by the rules.  The induction is on the links that may
still be followed, and for each number of them on the names. -/
theorem walks_of_walk {links : Nat} {folder place : Location} {names : List String}
    (h : disk.walk follow links folder names = .ok place) :
    Walks disk follow links folder names place := by
  induction links using Nat.strongRecOn generalizing folder names with
  | ind links ihLinks =>
    induction names generalizing folder with
    | nil =>
      rw [walk_nil] at h
      cases h
      exact .here
    | cons name rest ih =>
      rw [walk_cons] at h
      split at h
      · next hup =>
        subst hup
        exact .up (ih h)
      · next hname =>
        split at h
        · cases h
        · next hlong =>
          have hsize : name.utf8ByteSize ≤ maxName := Nat.le_of_not_lt hlong
          split at h
          · next hentry => exact .down hname hsize hentry (ih h)
          · next target hentry =>
            split at h
            · next hlast =>
              obtain ⟨rfl, hfollow⟩ := hlast
              cases h
              exact .last hname hsize (by simp [hentry]) fun _ _ => by simpa using hfollow
            · next hlast =>
              cases links with
              | zero => cases h
              | succ links =>
                refine .jump hname hsize hentry (fun hrest => ?_) (ihLinks links (by omega) h)
                simpa [hrest] using hlast
          · next e hfolder hlink hentry =>
            split at h
            · next hrest =>
              subst hrest
              cases h
              refine .last hname hsize (fun heq => hfolder ?_) fun target heq => ?_
              · exact Option.some.inj (hentry.symm.trans heq)
              · exact (hlink target (Option.some.inj (hentry.symm.trans heq))).elim
            · cases h
          · next hentry =>
            split at h
            · next hrest =>
              subst hrest
              cases h
              refine .last hname hsize (by simp [hentry]) fun target heq => ?_
              rw [hentry] at heq
              cases heq
            · cases h

/-- **Walks, told step by step.** -/
theorem walk_eq_ok_iff {links : Nat} {folder place : Location} {names : List String} :
    disk.walk follow links folder names = .ok place ↔
      Walks disk follow links folder names place := by
  refine ⟨walks_of_walk, fun h => ?_⟩
  induction h with
  | here => exact walk_nil ..
  | up more ih => rw [walk_cons, if_pos rfl, ih]
  | down hname hsize hentry more ih =>
    rw [walk_cons, if_neg hname, if_neg (Nat.not_lt.2 hsize), hentry]
    exact ih
  | @jump links folder place target name rest hname hsize hentry hfollow more ih =>
    have hgoes : ¬ (rest = [] ∧ (!follow) = true) := by
      intro hends
      obtain ⟨hrest, hstays⟩ := hends
      rw [hfollow hrest] at hstays
      cases hstays
    rw [walk_cons, if_neg hname, if_neg (Nat.not_lt.2 hsize), hentry]
    simp only [if_neg hgoes]
    exact ih
  | @last links folder name hname hsize hentry hfollow =>
    rw [walk_cons, if_neg hname, if_neg (Nat.not_lt.2 hsize)]
    cases hfound : disk.entry? (folder.child name) with
    | none => simp only [if_true]
    | some e =>
      cases e with
      | folder => exact (hentry hfound).elim
      | link target => simp [hfollow target hfound]
      | _ => simp only [if_true]

/-! Where a walk can be. -/

/-- The anchor, the place, and all between them are folders. -/
def IsWay (disk : Disk) (place : Location) : Prop :=
  ∀ names, names <+: place.names → disk.entry? ⟨place.anchor, names⟩ = some .folder

theorem entry?_anchor (disk : Disk) (anchor : Location.Anchor) :
    disk.entry? ⟨anchor, []⟩ = some .folder := rfl

/-- A walk can always be at the anchor. -/
theorem isWay_anchor (disk : Disk) (anchor : Location.Anchor) : IsWay disk ⟨anchor, []⟩ := by
  intro names hnames
  rw [List.prefix_nil.1 hnames]
  exact entry?_anchor disk anchor

/-- Where a walk can be is a folder. -/
theorem IsWay.entry {place : Location} (h : IsWay disk place) :
    disk.entry? place = some .folder :=
  h place.names (List.prefix_refl _)

/-- From where a walk can be it can go up. -/
theorem IsWay.parent {place : Location} (h : IsWay disk place) : IsWay disk place.parent :=
  fun names hnames => h names (hnames.trans (List.dropLast_prefix _))

/-- From where a walk can be it can go into a folder. -/
theorem IsWay.child {place : Location} (h : IsWay disk place) {name : String}
    (hentry : disk.entry? (place.child name) = some .folder) : IsWay disk (place.child name) := by
  intro names hnames
  rcases List.prefix_concat_iff.1 hnames with rfl | hnames
  · exact hentry
  · exact h names hnames

/-- From where a walk can be it can go on to where the names of a link are gone from. -/
theorem IsWay.origin {folder : Location} (h : IsWay disk folder) (target : Location) :
    IsWay disk (origin folder target) := by
  unfold Disk.origin
  split
  · exact h
  · exact isWay_anchor disk _

/-- A walk that follows links does not end at one. -/
theorem Walks.not_link {links : Nat} {folder place : Location} {names : List String}
    (h : Walks disk true links folder names place) (hway : IsWay disk folder)
    (target : Location) : disk.entry? place ≠ some (.link target) := by
  induction h with
  | here =>
    rw [hway.entry]
    exact fun heq => by cases heq
  | up more ih => exact ih hway.parent
  | down hname hsize hentry more ih => exact ih (hway.child hentry)
  | jump hname hsize hentry hfollow more ih => exact ih (hway.origin _)
  | last hname hsize hentry hfollow => exact fun heq => by cases hfollow target heq

/-- A walk to a name comes to a folder before it, links at the end of which are followed. -/
theorem Walks.above {links : Nat} {folder place : Location} {names : List String} {name : String}
    (h : Walks disk follow links folder (names ++ [name]) place) (hway : IsWay disk folder) :
    ∃ holder, Walks disk true links folder names holder ∧ disk.entry? holder = some .folder := by
  generalize hlist : names ++ [name] = list at h
  induction h generalizing names with
  | here => simp at hlist
  | up more ih =>
    cases names with
    | nil => exact ⟨_, .here, hway.entry⟩
    | cons first names =>
      obtain ⟨rfl, hrest⟩ := List.cons.inj hlist
      obtain ⟨holder, hwalk, hholder⟩ := ih hway.parent hrest
      exact ⟨holder, .up hwalk, hholder⟩
  | down hfirst hsize hentry more ih =>
    cases names with
    | nil => exact ⟨_, .here, hway.entry⟩
    | cons first names =>
      obtain ⟨rfl, hrest⟩ := List.cons.inj hlist
      obtain ⟨holder, hwalk, hholder⟩ := ih (hway.child hentry) hrest
      exact ⟨holder, .down hfirst hsize hentry hwalk, hholder⟩
  | @jump links folder place target _ rest hfirst hsize hentry hfollow more ih =>
    cases names with
    | nil => exact ⟨_, .here, hway.entry⟩
    | cons first names =>
      obtain ⟨rfl, hrest⟩ := List.cons.inj hlist
      have hlonger : target.names ++ names ++ [name] = target.names ++ rest := by
        rw [List.append_assoc, ← hrest]
        rfl
      obtain ⟨holder, hwalk, hholder⟩ := ih (hway.origin target) hlonger
      exact ⟨holder, .jump hfirst hsize hentry (fun _ => rfl) hwalk, hholder⟩
  | last hfirst hsize hentry hfollow =>
    cases names with
    | nil => exact ⟨_, .here, hway.entry⟩
    | cons first names => simp at hlist

/-- What a walk finds that follows links is found, or else a link to it, without following the
link at the end. -/
theorem Walks.unfollowed {links : Nat} {folder place : Location} {names : List String}
    (h : Walks disk true links folder names place) (hfound : (disk.entry? place).isSome = true) :
    ∃ place', Walks disk false links folder names place' ∧
      (disk.entry? place').isSome = true := by
  induction h with
  | here => exact ⟨_, .here, hfound⟩
  | up more ih =>
    obtain ⟨place', hwalk, hfound'⟩ := ih hfound
    exact ⟨place', .up hwalk, hfound'⟩
  | down hname hsize hentry more ih =>
    obtain ⟨place', hwalk, hfound'⟩ := ih hfound
    exact ⟨place', .down hname hsize hentry hwalk, hfound'⟩
  | @jump links folder place target name rest hname hsize hentry hfollow more ih =>
    by_cases hrest : rest = []
    · subst hrest
      exact ⟨folder.child name, .last hname hsize (by simp [hentry]) fun _ _ => rfl,
        by rw [hentry]; rfl⟩
    · obtain ⟨place', hwalk, hfound'⟩ := ih hfound
      exact ⟨place', .jump hname hsize hentry (fun hnil => (hrest hnil).elim) hwalk, hfound'⟩
  | last hname hsize hentry hfollow =>
    exact ⟨_, .last hname hsize hentry fun _ _ => rfl, hfound⟩

/-- A walk can go on from such an entry. -/
def LeadsOn (e? : Option Entry) : Prop :=
  e? = some .folder ∨ ∃ target, e? = some (.link target)

/-- Two disks differ in entries only from which no walk goes on. -/
def SameWays (disk disk' : Disk) : Prop :=
  ∀ place, disk'.entry? place = disk.entry? place ∨
    (¬ LeadsOn (disk.entry? place) ∧ ¬ LeadsOn (disk'.entry? place))

/-- **Walks stay.**  A walk does not see a difference in entries from which no walk goes on. -/
theorem Walks.keep {links : Nat} {folder place : Location} {names : List String}
    (h : Walks disk follow links folder names place) (hsame : SameWays disk disk') :
    Walks disk' follow links folder names place := by
  have hleads : ∀ {place e}, disk.entry? place = some e → LeadsOn (some e) →
      disk'.entry? place = some e := by
    intro place e hentry hlead
    rcases hsame place with heq | ⟨hnot, -⟩
    · exact heq.trans hentry
    · exact (hnot (hentry ▸ hlead)).elim
  induction h with
  | here => exact .here
  | up more ih => exact .up ih
  | down hname hsize hentry more ih => exact .down hname hsize (hleads hentry (.inl rfl)) ih
  | jump hname hsize hentry hfollow more ih =>
    exact .jump hname hsize (hleads hentry (.inr ⟨_, rfl⟩)) hfollow ih
  | @last links folder name hname hsize hentry hfollow =>
    rcases hsame (folder.child name) with heq | ⟨-, hnot⟩
    · exact .last hname hsize (heq ▸ hentry) (heq ▸ hfollow)
    · exact .last hname hsize (fun hfolder => hnot (.inl hfolder))
        fun target hlink => (hnot (.inr ⟨target, hlink⟩)).elim

/-! Locations. -/

/-- A location means the place to which the walk by its names leads, if its text is not too long. -/
theorem find_eq_ok_iff {loc place : Location} :
    disk.find follow loc = .ok place ↔
      loc.text.utf8ByteSize ≤ maxText ∧
        Walks disk follow maxLinks ⟨loc.anchor, []⟩ loc.names place := by
  unfold find
  by_cases hlong : maxText < loc.text.utf8ByteSize
  · rw [if_pos hlong]
    constructor
    · intro h
      cases h
    · intro hfound
      obtain ⟨hshort, -⟩ := hfound
      omega
  · rw [if_neg hlong, ← walk_eq_ok_iff]
    cases hwalk : disk.walk follow maxLinks ⟨loc.anchor, []⟩ loc.names with
    | error code => simp
    | ok found => simpa using fun _ => Nat.le_of_not_lt hlong

/-- A location is a folder when a folder stands at the place it means. -/
theorem isFolder_iff {loc : Location} :
    disk.isFolder loc = true ↔
      ∃ place, disk.find true loc = .ok place ∧ disk.entry? place = some .folder := by
  unfold isFolder look
  cases hfind : disk.find true loc with
  | error r => simp [Except.map]
  | ok place =>
    cases hentry : disk.entry? place with
    | none => simp [Except.map, hentry]
    | some e => cases e <;> simp [Except.map, hentry]

end Disk

end TaskTree
