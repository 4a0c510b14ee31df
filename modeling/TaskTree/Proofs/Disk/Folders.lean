import Mathlib.Data.List.Induction
import TaskTree.Proofs.Disk.Sound

/-!
# Making folders

A walk to a name goes to the folder of the name first (`walk_concat`), so where an entry of a
folder that is there would be is known without another walk (`find_child`).

To make a folder, with the folders on the way to it, has three ends (`makes_ensureFolder`).  The way
can be barred by an entry that is no folder (`IsBarred`), and then nothing is changed.  The system
can refuse for another reason.  Else the folder is there, and if it was not there before, nothing is
in it.  This is so for locations without detours (`IsStraight`), since `..` after a folder that is
only to be made can lead to an entry that was not on the way before.
-/

namespace TaskTree

namespace Location

/-- A location with names is that of the last name in a folder. -/
theorem exists_eq_child {loc : Location} (hne : loc.names ≠ []) :
    ∃ name, loc = loc.parent.child name := by
  refine ⟨loc.names.getLast hne, ?_⟩
  rw [parent, child, List.dropLast_concat_getLast hne]

end Location

namespace Disk

variable {disk disk' made : Disk} {loc place : Location}

/-! The last name of a walk. -/

/-- Where the last name of a walk leads, from the place that the walk has come to.  A link of that
name is not followed. -/
def lastLeg (disk : Disk) (place : Location) (name : String) : Except Code Location :=
  match disk.entry? place with
  | some .folder =>
    if name = ".." then .ok place.parent
    else if maxName < name.utf8ByteSize then .error .nameTooLong
    else .ok (place.child name)
  | some _ => .error .notFolder
  | none => .error .notFound

/-- A walk that ends at a name and does not follow a link there is a walk to the folder of the
name, on which every link is followed, with one name more.  By induction on the links that may be
followed, then on the names, since a link may lead to more names than were left. -/
theorem walk_concat {folder : Location} (hway : IsWay disk folder) (links : Nat)
    (names : List String) (name : String) :
    disk.walk false links folder (names ++ [name]) =
      (disk.walk true links folder names).bind fun place => disk.lastLeg place name := by
  induction links using Nat.strongRecOn generalizing folder names with
  | ind links ihLinks =>
    induction names generalizing folder with
    | nil =>
      rw [List.nil_append, walk_cons, walk_nil, walk_nil, walk_nil, Except.bind, lastLeg,
        hway.entry]
      by_cases hup : name = ".."
      · simp only [if_pos hup]
      by_cases hlong : maxName < name.utf8ByteSize
      · simp only [if_neg hup, if_pos hlong]
      simp only [if_neg hup, if_neg hlong]
      cases disk.entry? (folder.child name) with
      | none => rfl
      | some e => cases e <;> rfl
    | cons first rest ih =>
      have hmore : rest ++ [name] ≠ [] := by simp
      rw [List.cons_append, walk_cons, walk_cons]
      by_cases hup : first = ".."
      · simp only [if_pos hup]
        exact ih hway.parent
      by_cases hlong : maxName < first.utf8ByteSize
      · simp only [if_neg hup, if_pos hlong]
        rfl
      simp only [if_neg hup, if_neg hlong]
      cases hentry : disk.entry? (folder.child first) with
      | none =>
        by_cases hrest : rest = []
        · simp [if_pos hrest, Except.bind, lastLeg, hentry]
        · simp [if_neg hrest, Except.bind]
      | some e =>
        cases e with
        | folder => exact ih (hway.child hentry)
        | link target =>
          cases links with
          | zero => simp [hmore, Except.bind]
          | succ links =>
            have hon := ihLinks links (Nat.lt_succ_self links) (hway.origin target)
              (target.names ++ rest)
            rw [List.append_assoc] at hon
            simpa [hmore] using hon
        | _ =>
          by_cases hrest : rest = []
          · simp [if_pos hrest, Except.bind, lastLeg, hentry]
          · simp [if_neg hrest, Except.bind]

/-- A location whose text is short enough is walked name by name. -/
theorem find_of_short {follow : Bool} (h : loc.text.utf8ByteSize ≤ maxText) :
    disk.find follow loc =
      (disk.walk follow maxLinks ⟨loc.anchor, []⟩ loc.names).mapError fun code => ⟨code, loc⟩ := by
  rw [find, if_neg (Nat.not_lt.2 h)]
  cases disk.walk follow maxLinks ⟨loc.anchor, []⟩ loc.names with
  | error code => rfl
  | ok place => rfl

/-- A location whose text is too long is refused before any walk. -/
theorem find_of_long {follow : Bool} (h : maxText < loc.text.utf8ByteSize) :
    disk.find follow loc = .error ⟨.nameTooLong, loc⟩ :=
  if_pos h

/-- **What a folder holds**, if its location is not too long, is found from where the folder is. -/
theorem find_child {name : String} (hshort : (loc.child name).text.utf8ByteSize ≤ maxText) :
    disk.find false (loc.child name) =
      (((disk.find true loc).mapError Refusal.code).bind fun place =>
        disk.lastLeg place name).mapError fun code => ⟨code, loc.child name⟩ := by
  rw [find_of_short hshort, find_of_short (short_of_child hshort)]
  refine congrArg _ ((walk_concat (isWay_anchor disk loc.anchor) maxLinks loc.names name).trans ?_)
  cases disk.walk true maxLinks ⟨loc.anchor, []⟩ loc.names with
  | error code => rfl
  | ok place => rfl

/-- What a folder that is there holds would be at a place in it, unless it cannot have a name. -/
theorem find_child_of_folder (hfind : disk.find true loc = .ok place)
    (hfolder : disk.entry? place = some .folder) (name : String) :
    disk.find false (loc.child name) = .error ⟨.nameTooLong, loc.child name⟩ ∨
      disk.find false (loc.child name) =
        .ok (if name = ".." then place.parent else place.child name) := by
  by_cases hlong : maxText < (loc.child name).text.utf8ByteSize
  · exact .inl (find_of_long hlong)
  · rw [find_child (Nat.le_of_not_lt hlong), hfind]
    by_cases hup : name = ".."
    · exact .inr (by simp [Except.mapError, Except.bind, lastLeg, hfolder, hup])
    by_cases hname : maxName < name.utf8ByteSize
    · exact .inl (by simp [Except.mapError, Except.bind, lastLeg, hfolder, hup, hname])
    · exact .inr (by simp [Except.mapError, Except.bind, lastLeg, hfolder, hup, hname])

/-! Refusals. -/

/-- A walk is never refused because something is there. -/
theorem walk_ne_exists {follow : Bool} {links : Nat} {folder : Location} {names : List String}
    {code : Code} (h : disk.walk follow links folder names = .error code) : code ≠ .exists := by
  induction links using Nat.strongRecOn generalizing folder names with
  | ind links ihLinks =>
    induction names generalizing folder with
    | nil =>
      rw [walk_nil] at h
      cases h
    | cons name rest ih =>
      rw [walk_cons] at h
      split at h
      · exact ih h
      · split at h
        · cases h
          decide
        · split at h
          · exact ih h
          · split at h
            · cases h
            · cases links with
              | zero =>
                cases h
                decide
              | succ links => exact ihLinks links (Nat.lt_succ_self links) h
          · split at h
            · cases h
            · cases h
              decide
          · split at h
            · cases h
            · cases h
              decide

/-- Finding is never refused because something exists. -/
theorem find_ne_exists {follow : Bool} {r : Refusal} (h : disk.find follow loc = .error r) :
    r.code ≠ .exists := by
  unfold find at h
  split at h
  · cases h
    intro heq
    cases heq
  · split at h
    · cases h
    · next hwalk =>
      cases h
      exact walk_ne_exists hwalk

/-- An entry is not made because something is there, or because there is no place for it. -/
theorem create_error {e : Entry} {r : Refusal} (h : disk.create loc e = .error r) :
    (r.code = .exists ∧ disk.holds loc = true) ∨
      r.code ≠ .exists ∧ disk.find false loc = .error r := by
  unfold create at h
  cases hfind : disk.find false loc with
  | error r' =>
    simp only [hfind, Except.error.injEq] at h
    subst h
    exact .inr ⟨find_ne_exists hfind, rfl⟩
  | ok place =>
    cases hentry : disk.entry? place with
    | none => simp [hfind, hentry] at h
    | some old =>
      simp only [hfind, hentry, Except.error.injEq] at h
      subst h
      refine .inl ⟨rfl, ?_⟩
      rw [holds, hfind]
      simp only [hentry, Option.isSome_some]

/-- Where something could be created nothing was. -/
theorem not_holds_of_create {e : Entry} (h : disk.create loc e = .ok disk') :
    disk.holds loc = false := by
  obtain ⟨place, hfind, hnone, -⟩ := entry?_of_create h
  rw [holds, hfind]
  simp only [hnone, Option.isSome_none]

/-! What is at a location, and what stands there. -/

/-- Nothing is at a location, through links. -/
def IsAbsent (disk : Disk) (loc : Location) : Prop :=
  disk.look loc = .ok none ∨ ∃ r, disk.look loc = .error r ∧ r.code = .notFound

/-- A link stands at a location, and what it leads to is not there. -/
structure LeadsNowhere (disk : Disk) (loc : Location) : Prop where
  holds : disk.holds loc = true
  absent : disk.IsAbsent loc

/-- Where something is seen it is not absent. -/
theorem not_isAbsent_of_look {e : Entry} (h : disk.look loc = .ok (some e)) :
    ¬ disk.IsAbsent loc := by
  rintro (hnone | ⟨r, hrefused, -⟩)
  · cases h.symm.trans hnone
  · cases h.symm.trans hrefused

/-- A folder is seen as one. -/
theorem look_of_isFolder (h : disk.isFolder loc = true) :
    disk.look loc = .ok (some .folder) := by
  obtain ⟨place, hfind, hfolder⟩ := isFolder_iff.1 h
  rw [look, hfind, Except.map, hfolder]

/-- Something that is at a location, through links, stands there, or a link to it does. -/
theorem holds_of_look {e : Entry} (h : disk.look loc = .ok (some e)) : disk.holds loc = true := by
  unfold look at h
  cases hfind : disk.find true loc with
  | error r => simp [hfind, Except.map] at h
  | ok place =>
    have hentry : disk.entry? place = some e := by simpa [hfind, Except.map] using h
    obtain ⟨hshort, hwalk⟩ := find_eq_ok_iff.1 hfind
    obtain ⟨place', hwalk', hfound⟩ := hwalk.unfollowed (by rw [hentry]; rfl)
    rw [holds, find_eq_ok_iff.2 ⟨hshort, hwalk'⟩]
    exact hfound

/-- Where a folder is, something is held. -/
theorem holds_of_isFolder (h : disk.isFolder loc = true) : disk.holds loc = true :=
  holds_of_look (look_of_isFolder h)

/-- Where finding is refused nothing is held. -/
theorem holds_of_refused {r : Refusal} (h : disk.find false loc = .error r) :
    disk.holds loc = false := by
  rw [holds, h]

/-- In something that is no folder, nothing can be found; if it is not there, for this reason. -/
theorem find_child_of_other (hother : disk.isFolder loc = false) {name : String}
    (hshort : (loc.child name).text.utf8ByteSize ≤ maxText) :
    ∃ r, disk.find false (loc.child name) = .error r ∧
      (r.code = .notFound ↔ disk.IsAbsent loc) := by
  rw [find_child hshort]
  unfold IsAbsent look
  unfold isFolder look at hother
  cases hfind : disk.find true loc with
  | error r => exact ⟨⟨r.code, loc.child name⟩, rfl, by simp [Except.map]⟩
  | ok place =>
    rw [hfind] at hother
    cases hentry : disk.entry? place with
    | none =>
      refine ⟨⟨.notFound, loc.child name⟩, ?_, by simp [Except.map, hentry]⟩
      simp [Except.mapError, Except.bind, lastLeg, hentry]
    | some e =>
      cases e with
      | folder => simp [Except.map, hentry] at hother
      | _ =>
        refine ⟨⟨.notFolder, loc.child name⟩, ?_, by simp [Except.map, hentry]⟩
        simp [Except.mapError, Except.bind, lastLeg, hentry]

/-! Making the folders on the way. -/

/-- Whatever stands before a `..` in a location is a folder that is there, so the location means
what it says even before its folders are made. -/
def IsStraight (disk : Disk) (loc : Location) : Prop :=
  ∀ front rest, loc.names = front ++ ".." :: rest → disk.isFolder ⟨loc.anchor, front⟩ = true

/-- The way to a folder is barred by an entry that is no folder.  It stands where the folder should
be; or else nothing can be there, for want of a folder on the way, and the way to that one is
barred. -/
inductive IsBarred (disk : Disk) : Location → Prop where
  | held {loc : Location} (holds : disk.holds loc = true) (other : disk.isFolder loc = false) :
      IsBarred disk loc
  | above {loc : Location} {r : Refusal} (refused : disk.find false loc = .error r)
      (missing : r.code = .notFound) (barred : IsBarred disk loc.parent) : IsBarred disk loc

/-- A folder is there, and nothing in it. -/
def IsBareFolder (disk : Disk) (loc : Location) : Prop :=
  ∃ place, disk.find true loc = .ok place ∧ disk.entry? place = some .folder ∧
    ∀ names, names ≠ [] → disk.entry? ⟨place.anchor, place.names ++ names⟩ = none

/-- A folder is there on the disk `made`.  If it was not there before, it is bare. -/
def Provides (disk made : Disk) (loc : Location) : Prop :=
  (made = disk ∧ disk.isFolder loc = true) ∨ made.IsBareFolder loc

/-- How it ends to make a folder with the folders on the way to it. -/
inductive Makes (disk : Disk) (loc : Location) : Disk × Except Refusal Unit → Prop where
  /-- The way is barred, and nothing is changed. -/
  | barred {r : Refusal} (barred : disk.IsBarred loc) (code : r.code = .exists) :
      Makes disk loc (disk, .error r)
  /-- The system refuses for another reason. -/
  | refused {made : Disk} {r : Refusal} (free : ¬ disk.IsBarred loc) (code : r.code ≠ .exists) :
      Makes disk loc (made, .error r)
  | provided {made : Disk} (free : ¬ disk.IsBarred loc) (provides : disk.Provides made loc) :
      Makes disk loc (made, .ok ())

/-- The way to a location that cannot be found is barred further up, if at all. -/
theorem isBarred_of_refused {r : Refusal} (h : disk.find false loc = .error r) :
    disk.IsBarred loc ↔ r.code = .notFound ∧ disk.IsBarred loc.parent := by
  constructor
  · intro hbarred
    cases hbarred with
    | held holds => cases holds.symm.trans (holds_of_refused h)
    | above refused missing barred =>
      cases h.symm.trans refused
      exact ⟨missing, barred⟩
  · rintro ⟨hmissing, hbarred⟩
    exact .above h hmissing hbarred

/-- The way to a location that can be found is barred there, if at all. -/
theorem isBarred_of_found (h : disk.find false loc = .ok place) :
    disk.IsBarred loc ↔ disk.holds loc = true ∧ disk.isFolder loc = false := by
  constructor
  · intro hbarred
    cases hbarred with
    | held holds other => exact ⟨holds, other⟩
    | above refused => cases h.symm.trans refused
  · rintro ⟨hholds, hother⟩
    exact .held hholds hother

/-- No folder is barred. -/
theorem not_isBarred_of_isFolder (h : disk.isFolder loc = true) : ¬ disk.IsBarred loc := by
  have hholds := holds_of_isFolder h
  cases hfind : disk.find false loc with
  | error r => cases hholds.symm.trans (holds_of_refused hfind)
  | ok place =>
    rw [isBarred_of_found hfind]
    rintro ⟨-, hother⟩
    cases h.symm.trans hother

/-- The parent of a straight location is straight. -/
theorem IsStraight.parent (h : disk.IsStraight loc) : disk.IsStraight loc.parent := by
  intro front rest hnames
  have hne : loc.names ≠ [] := by
    intro hnil
    rw [Location.parent, hnil] at hnames
    exact List.cons_ne_nil _ _ (List.append_eq_nil_iff.1 hnames.symm).2
  obtain ⟨name, hchild⟩ := Location.exists_eq_child hne
  refine h front (rest ++ [name]) ?_
  rw [hchild, Location.child, hnames, List.append_assoc, List.cons_append]

/-- The anchor of a location is a folder. -/
theorem isFolder_anchor (h : loc.names = []) : disk.isFolder loc = true := by
  obtain ⟨anchor, names⟩ := loc
  obtain rfl : names = [] := h
  refine isFolder_iff.2 ⟨⟨anchor, []⟩, find_eq_ok_iff.2 ⟨?_, .here⟩, rfl⟩
  cases anchor <;> decide

/-- A walk to a place where a folder is made comes to the folder. -/
theorem Walks.settle {links : Nat} {folder place : Location} {names : List String}
    (h : Walks disk false links folder names place) (hgrows : Grows disk made)
    (hplace : made.entry? place = some .folder) : Walks made true links folder names place := by
  induction h with
  | here => exact .here
  | up more ih => exact .up (ih hplace)
  | down hname hsize hentry more ih => exact .down hname hsize (hgrows _ _ hentry) (ih hplace)
  | jump hname hsize hentry hfollow more ih =>
    exact .jump hname hsize (hgrows _ _ hentry) (fun _ => rfl) (ih hplace)
  | last hname hsize hentry hfollow => exact .down hname hsize hplace .here

/-- A folder that is made is bare. -/
theorem IsSound.isBareFolder (hsound : disk.IsSound) (h : disk.createFolder loc = .ok made) :
    made.IsBareFolder loc := by
  obtain ⟨place, hfind, hnone, hentries⟩ := entry?_of_create h
  obtain ⟨hshort, hwalk⟩ := find_eq_ok_iff.1 hfind
  have hplace : made.entry? place = some .folder := by rw [hentries, if_pos rfl]
  refine ⟨place, find_eq_ok_iff.2 ⟨hshort, hwalk.settle (grows_create h) hplace⟩, hplace, ?_⟩
  intro names hnames
  have hother : (⟨place.anchor, place.names ++ names⟩ : Location) ≠ place := by
    intro heq
    have hlist := congrArg Location.names heq
    exact hnames (by simpa using hlist)
  have hnot : disk.entry? place ≠ some .folder := by simp [hnone]
  rw [hentries, if_neg hother]
  exact hsound.entry?_below hnot hnames

/-- Nothing is in the way in a bare folder. -/
theorem IsBareFolder.not_holds_child (h : disk.IsBareFolder loc) {name : String}
    (hname : name ≠ "..") : disk.holds (loc.child name) = false := by
  obtain ⟨place, hfind, hfolder, hbare⟩ := h
  rcases find_child_of_folder hfind hfolder name with hlong | hplace
  · exact holds_of_refused hlong
  · rw [if_neg hname] at hplace
    have hnone : disk.entry? (place.child name) = none := hbare [name] (List.cons_ne_nil _ _)
    rw [holds, hplace]
    simp only [hnone, Option.isSome_none]

/-- A folder that is made in a bare one is there, unless the system refuses for another reason than
that something is there. -/
theorem IsBareFolder.settleFolder (h : disk.IsBareFolder loc) (hsound : disk.IsSound)
    {name : String} (hname : name ≠ "..") :
    (∃ made, disk.settleFolder (loc.child name) = (made, .ok ()) ∧
        made.IsBareFolder (loc.child name)) ∨
      ∃ r, r.code ≠ .exists ∧ disk.settleFolder (loc.child name) = (disk, .error r) := by
  have hnone := h.not_holds_child hname
  unfold Disk.settleFolder
  cases hcreate : disk.createFolder (loc.child name) with
  | ok made => exact .inl ⟨made, rfl, hsound.isBareFolder hcreate⟩
  | error r =>
    have hother : ¬ disk.isFolder (loc.child name) = true := fun hfolder => by
      cases hnone.symm.trans (holds_of_isFolder hfolder)
    rcases create_error hcreate with ⟨-, hholds⟩ | ⟨hcode, -⟩
    · cases hnone.symm.trans hholds
    · exact .inr ⟨r, hcode, by simp only [if_neg hother]⟩

/-- What a folder holds that is there can be found, if it has a name. -/
theorem not_missing_of_isFolder (h : disk.isFolder loc = true) {name : String} {r : Refusal}
    (hfind : disk.find false (loc.child name) = .error r) : r.code ≠ .notFound := by
  obtain ⟨place, hplace, hfolder⟩ := isFolder_iff.1 h
  rcases find_child_of_folder hplace hfolder name with hlong | hfound
  · cases hlong.symm.trans hfind
    intro heq
    cases heq
  · cases hfound.symm.trans hfind

/-- Where nothing can be for want of the folder above, a folder can be made in that one once it is
there. -/
theorem Provides.makes_child {name : String} (h : disk.Provides made loc) (hmade : made.IsSound)
    (hstraight : disk.IsStraight (loc.child name)) {r : Refusal}
    (hfind : disk.find false (loc.child name) = .error r) (hmissing : r.code = .notFound)
    (hfree : ¬ disk.IsBarred (loc.child name)) :
    disk.Makes (loc.child name) (made.settleFolder (loc.child name)) := by
  have hgap : ¬ disk.isFolder loc = true := fun hthere =>
    not_missing_of_isFolder hthere hfind hmissing
  have hname : name ≠ ".." := by
    rintro rfl
    exact hgap (hstraight loc.names [] rfl)
  rcases h with ⟨-, hthere⟩ | hbare
  · exact (hgap hthere).elim
  · rcases hbare.settleFolder hmade hname with ⟨made', hsettle, hbare'⟩ | ⟨r', hcode', hsettle⟩
    · rw [hsettle]
      exact .provided hfree (.inr hbare')
    · rw [hsettle]
      exact .refused hfree hcode'

/-- A folder that is asked for where something is, or could be, is made at once or not at all. -/
theorem makes_of_found (hsound : disk.IsSound) (hfind : disk.find false loc = .ok place)
    (hother : disk.isFolder loc = false) :
    (∃ made, disk.createFolder loc = .ok made ∧ disk.Makes loc (made, .ok ())) ∨
      disk.createFolder loc = .error ⟨.exists, loc⟩ ∧
        disk.Makes loc (disk, .error ⟨.exists, loc⟩) := by
  have hbarred := isBarred_of_found hfind
  cases hcreate : disk.createFolder loc with
  | ok made =>
    refine .inl ⟨made, rfl, .provided ?_ (.inr (hsound.isBareFolder hcreate))⟩
    rw [hbarred, not_holds_of_create hcreate]
    rintro ⟨hholds, -⟩
    cases hholds
  | error r =>
    rcases create_error hcreate with ⟨-, hholds⟩ | ⟨-, hrefused⟩
    · have hexists : r = ⟨.exists, loc⟩ :=
        Except.error.inj (hcreate.symm.trans (create_of_holds hholds .folder))
      rw [hexists]
      exact .inr ⟨rfl, .barred (hbarred.2 ⟨hholds, hother⟩) rfl⟩
    · cases hfind.symm.trans hrefused

/-- A folder that is there is provided. -/
theorem makes_of_isFolder (h : disk.isFolder loc = true) :
    disk.Makes loc (disk.ensureFolder loc) := by
  rw [ensureFolder_of_isFolder h]
  exact .provided (not_isBarred_of_isFolder h) (.inl ⟨rfl, h⟩)

/-- **Making a folder.**  On a sound disk it ends in one of the three ways, wherever the folder is:
by induction on the folders on the way, which are asked for one by one. -/
theorem makes_ensureFolder (hsound : disk.IsSound) (hstraight : disk.IsStraight loc) :
    disk.Makes loc (disk.ensureFolder loc) := by
  generalize hlength : loc.names.length = count
  induction count generalizing loc with
  | zero => exact makes_of_isFolder (isFolder_anchor (List.length_eq_zero_iff.1 hlength))
  | succ count ih =>
    by_cases hfolder : disk.isFolder loc = true
    · exact makes_of_isFolder hfolder
    have hother : disk.isFolder loc = false := Bool.eq_false_iff.2 hfolder
    cases hfind : disk.find false loc with
    | ok place =>
      rw [ensureFolder, hlength, ensureFolders]
      rcases makes_of_found hsound hfind hother with ⟨made, hcreate, hmakes⟩ | ⟨hcreate, hmakes⟩
      · simp only [hcreate]
        exact hmakes
      · simp only [hcreate, if_neg hfolder]
        exact hmakes
    | error r =>
      have hbarred := isBarred_of_refused hfind
      have hcreate : disk.createFolder loc = .error r := by simp only [createFolder, create, hfind]
      by_cases hmissing : r.code = .notFound
      · obtain ⟨name, hchild⟩ := Location.exists_eq_child fun hnil : loc.names = [] => by
          rw [hnil] at hlength
          cases hlength
        have hparent : loc.parent.names.length = count := by
          rw [Location.parent, List.length_dropLast, hlength, Nat.add_sub_cancel]
        have habove := ih hstraight.parent hparent
        have hmade := hsound.ensureFolders count loc.parent
        rw [ensureFolder, hparent] at habove
        rw [ensureFolder, hlength, ensureFolders]
        simp only [hcreate, if_pos hmissing]
        generalize ensureFolders count disk loc.parent = above at habove hmade
        cases habove with
        | barred hfar hexists => exact .barred (hbarred.2 ⟨hmissing, hfar⟩) hexists
        | refused hfree hrefused => exact .refused (fun h => hfree (hbarred.1 h).2) hrefused
        | provided hfree hprovides =>
          have hclear : ¬ disk.IsBarred loc := fun h => hfree (hbarred.1 h).2
          rw [hchild] at hstraight hfind hclear ⊢
          exact hprovides.makes_child hmade hstraight hfind hmissing hclear
      · rw [ensureFolder, hlength, ensureFolders]
        simp only [hcreate, if_neg hmissing, if_neg hfolder]
        exact .refused (fun h => hmissing (hbarred.1 h).1) (find_ne_exists hfind)

/-- A location in a folder that is there bars the way if anything but a folder stands there. -/
theorem isBarred_iff_of_parent (hparent : disk.isFolder loc.parent = true) :
    disk.IsBarred loc ↔ disk.holds loc = true ∧ disk.isFolder loc = false := by
  by_cases hfolder : disk.isFolder loc = true
  · simp [not_isBarred_of_isFolder hfolder, hfolder]
  cases hfind : disk.find false loc with
  | ok place => exact isBarred_of_found hfind
  | error r =>
    obtain ⟨name, hchild⟩ := Location.exists_eq_child fun hnil => hfolder (isFolder_anchor hnil)
    have hcode : r.code ≠ .notFound := not_missing_of_isFolder hparent (hchild ▸ hfind)
    simp [isBarred_of_refused hfind, hcode, holds_of_refused hfind]

/-- **What bars the way to a folder in a folder**, of which the one above is there: a link in the
place of the outer folder that leads nowhere, or anything but a folder in the place of the inner
one. -/
theorem isBarred_child_iff (hparent : disk.isFolder loc.parent = true) {name : String}
    (hshort : (loc.child name).text.utf8ByteSize ≤ maxText) :
    disk.IsBarred (loc.child name) ↔
      disk.LeadsNowhere loc ∨
        disk.holds (loc.child name) = true ∧ disk.isFolder (loc.child name) = false := by
  by_cases hfolder : disk.isFolder loc = true
  · have hthere : ¬ disk.LeadsNowhere loc := fun h =>
      not_isAbsent_of_look (look_of_isFolder hfolder) h.absent
    rw [or_iff_right hthere]
    exact isBarred_iff_of_parent (by rwa [Location.parent_child])
  · have hother : disk.isFolder loc = false := Bool.eq_false_iff.2 hfolder
    obtain ⟨r, hfind, habsent⟩ := find_child_of_other hother hshort
    have hclear := holds_of_refused hfind
    rw [isBarred_of_refused hfind, Location.parent_child, isBarred_iff_of_parent hparent, habsent]
    constructor
    · rintro ⟨hnothing, hholds, -⟩
      exact .inl ⟨hholds, hnothing⟩
    · rintro (⟨hholds, hnothing⟩ | ⟨hholds, -⟩)
      · exact ⟨hnothing, hholds, hother⟩
      · cases hclear.symm.trans hholds

/-! Ways without detours. -/

/-- What stands above a folder is a folder. -/
theorem isFolder_front {anchor : Location.Anchor} {front more : List String}
    (h : disk.isFolder ⟨anchor, front ++ more⟩ = true) : disk.isFolder ⟨anchor, front⟩ = true := by
  induction more using List.reverseRecOn with
  | nil => simpa using h
  | append_singleton more name ih =>
    have hchild : (⟨anchor, front ++ (more ++ [name])⟩ : Location) =
        (⟨anchor, front ++ more⟩ : Location).child name := by
      rw [Location.child, List.append_assoc]
    rw [hchild] at h
    obtain ⟨place, hfind, -⟩ := isFolder_iff.1 h
    exact ih (isFolder_of_find hfind)

/-- A location in a folder that is there needs no detour. -/
theorem isStraight_of_parent (h : disk.isFolder loc.parent = true) : disk.IsStraight loc := by
  intro front rest hnames
  have hparent : loc.parent.names = front ++ (".." :: rest).dropLast := by
    rw [Location.parent, hnames, List.dropLast_append_of_ne_nil (List.cons_ne_nil _ _)]
  have hfront : loc.parent = ⟨loc.anchor, front ++ (".." :: rest).dropLast⟩ := by
    rw [← hparent]
    rfl
  exact isFolder_front (hfront ▸ h)

/-- A child of a straight location is straight, unless its name goes up. -/
theorem IsStraight.child (h : disk.IsStraight loc) {name : String} (hname : name ≠ "..") :
    disk.IsStraight (loc.child name) := by
  intro front rest hnames
  rcases List.eq_nil_or_concat rest with rfl | ⟨rest, last, rfl⟩
  · exact (hname (List.cons.inj (List.append_inj_right' hnames rfl)).1).elim
  · rw [List.concat_eq_append] at hnames
    have hsplit : loc.names ++ [name] = (front ++ ".." :: rest) ++ [last] := by
      rw [List.append_assoc, List.cons_append]
      exact hnames
    exact h front rest (List.append_inj_left' hsplit rfl)

end Disk

end TaskTree
