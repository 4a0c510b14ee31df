import TaskTree.Disk.Change
import TaskTree.Proofs.Disk.Walk

/-!
# Writing and reading files

A file that is put or written where no folder and no link stands does not get
in the way of any walk that came to an end before.  So what was written is read
back at the same location (`readFile_of_writeFile`), folders stay where they
were, and a folder that holds a newly created file is there
(`isFolder_of_createFile`).  A folder that is there need not be made.
-/

namespace TaskTree

namespace Text

/-- A last piece is joined on behind a separator. -/
theorem join_concat (sep : Char) {pieces : List (List Char)} (hne : pieces ≠ [])
    (piece : List Char) : join sep (pieces ++ [piece]) = join sep pieces ++ sep :: piece := by
  induction pieces with
  | nil => exact (hne rfl).elim
  | cons first rest ih =>
    cases rest with
    | nil => rfl
    | cons next more =>
      have hrest := ih (List.cons_ne_nil next more)
      simp only [List.cons_append] at hrest ⊢
      rw [join, hrest, join]
      simp

end Text

namespace Location

/-- The text of a folder is no longer than the texts of what it holds. -/
theorem text_le_text_child {loc : Location} (hne : loc.names ≠ []) (name : String) :
    loc.text.utf8ByteSize ≤ (loc.child name).text.utf8ByteSize := by
  have hpieces : loc.names.map String.toList ≠ [] := by simpa using hne
  have hchild : (loc.child name).names ≠ [] := by simp [child]
  have hjoin : Text.join '/' ((loc.child name).names.map String.toList) =
      Text.join '/' (loc.names.map String.toList) ++ '/' :: name.toList := by
    rw [child, List.map_append]
    exact Text.join_concat '/' hpieces name.toList
  rw [text, text, if_neg (fun h => hne h.2), if_neg (fun h => hchild h.2), hjoin,
    String.ofList_append, String.utf8ByteSize_append, String.utf8ByteSize_append,
    String.utf8ByteSize_append]
  have hanchor : (loc.child name).anchor = loc.anchor := rfl
  rw [hanchor]
  omega

end Location

namespace Disk

variable {disk disk' : Disk}

/-! Entries. -/

/-- A new time at one place changes no entry. -/
theorem lookup_stamped (entries : List (Location × Entry × Int)) (changed place : Location)
    (time : Int) :
    ((entries.map fun (p, e, t) => if p = changed then (p, e, time) else (p, e, t)).lookup
      place).map Prod.fst = (entries.lookup place).map Prod.fst := by
  induction entries with
  | nil => rfl
  | cons entry rest ih =>
    obtain ⟨p, e, t⟩ := entry
    rw [List.map_cons]
    by_cases hchanged : p = changed
    · simp only [if_pos hchanged, List.lookup_cons]
      split
      · rfl
      · exact ih
    · simp only [if_neg hchanged, List.lookup_cons]
      split
      · rfl
      · exact ih

/-- The time of an entry is not what it is. -/
theorem entry?_stamp (disk : Disk) (changed place : Location) (time : Int) :
    entry? (disk.stamp changed time) place = disk.entry? place := by
  unfold entry? stamped?
  by_cases hanchor : place.names = []
  · simp only [if_pos hanchor]
    rfl
  · simp only [if_neg hanchor]
    exact lookup_stamped disk.entries changed place time

/-- What stands below an anchor is among the entries. -/
theorem lookup_of_entry? {place : Location} {e : Entry} (hanchor : place.names ≠ [])
    (h : disk.entry? place = some e) : ∃ time, disk.entries.lookup place = some (e, time) := by
  rw [ entry?, stamped?, if_neg hanchor] at h
  obtain ⟨⟨e', time⟩, hlookup, rfl⟩ := Option.map_eq_some_iff.1 h
  exact ⟨time, hlookup⟩

/-- A place without a folder is not the anchor. -/
theorem names_ne_nil_of_entry? {place : Location} (h : disk.entry? place ≠ some .folder) :
    place.names ≠ [] := by
  intro hanchor
  rw [ entry?, stamped?, if_pos hanchor] at h
  exact h rfl

/-- An entry that is put where none is. -/
theorem entry?_add {place : Location} (h : disk.entry? place = none) (e : Entry)
    (other : Location) :
    entry? (disk.add place e) other = if other = place then some e else disk.entry? other := by
  have hanchor : place.names ≠ [] := names_ne_nil_of_entry? fun heq => by cases h.symm.trans heq
  have hstamp := entry?_stamp disk place.parent other disk.now
  have hnone : entry? (disk.stamp place.parent disk.now) place = none := by
    rw [entry?_stamp, h]
  unfold entry? stamped? at hstamp hnone ⊢
  by_cases hother : other = place
  · subst hother
    simp only [if_neg hanchor, Option.map_eq_none_iff] at hnone
    simp [add, hanchor, List.lookup_append, hnone]
  · have hne : (other == place) = false := by simpa using hother
    rw [if_neg hother, ← hstamp]
    simp only [add, List.lookup_append, List.lookup_cons, hne, List.lookup_nil, Option.or_none]

/-- An entry that is put somewhere is as old as the moment. -/
theorem stamped?_add {place : Location} (h : disk.entry? place = none) (e : Entry) :
    stamped? (disk.add place e) place = some (e, disk.now) := by
  have hanchor : place.names ≠ [] := names_ne_nil_of_entry? fun heq => by cases h.symm.trans heq
  have hnone : entry? (disk.stamp place.parent disk.now) place = none := by
    rw [entry?_stamp, h]
  unfold entry? stamped? at hnone
  simp only [if_neg hanchor, Option.map_eq_none_iff] at hnone
  have hnow : (disk.stamp place.parent disk.now).now = disk.now := rfl
  simp [stamped?, add, hanchor, List.lookup_append, hnone, hnow]

/-- Looking up an entry where some have been replaced by another. -/
theorem lookup_replaced (entries : List (Location × Entry × Int)) (place other : Location)
    (e : Entry) (time : Int) :
    ((entries.map fun (p, old, t) => if p = place then (p, e, time) else (p, old, t)).lookup
      other).map Prod.fst =
      if other = place then (entries.lookup place).map (fun _ => e)
      else (entries.lookup other).map Prod.fst := by
  induction entries with
  | nil => simp
  | cons entry rest ih =>
    obtain ⟨p, e', t⟩ := entry
    rw [List.map_cons]
    by_cases hplace : p = place
    · subst hplace
      by_cases hother : other = p
      · simp [hother]
      · have hne : (other == p) = false := by simpa using hother
        simp only [if_true, List.lookup_cons, hne, if_neg hother] at ih ⊢
        exact ih
    · by_cases hother : other = place
      · subst hother
        have hne : (other == p) = false := by simpa using Ne.symm hplace
        simp only [if_neg hplace, List.lookup_cons, hne, if_true] at ih ⊢
        exact ih
      · simp only [if_neg hplace, List.lookup_cons, if_neg hother] at ih ⊢
        split
        · rfl
        · exact ih

/-- An entry that comes in the place of another. -/
theorem entry?_replace {place : Location} {old : Entry} (h : disk.entry? place = some old)
    (hanchor : place.names ≠ []) (e : Entry) (other : Location) :
    entry? (disk.replace place e) other = if other = place then some e else disk.entry? other := by
  obtain ⟨time, hlookup⟩ := lookup_of_entry? hanchor h
  have hnow := lookup_replaced disk.entries place other e disk.now
  by_cases hother : other = place
  · subst hother
    rw [if_pos rfl, hlookup] at hnow
    rw [if_pos rfl, entry?, stamped?, if_neg hanchor]
    exact hnow
  · rw [if_neg hother] at hnow ⊢
    unfold entry? stamped?
    by_cases hroot : other.names = []
    · simp only [if_pos hroot]
      rfl
    · simp only [if_neg hroot]
      exact hnow

/-! Files that are put or written. -/

/-- An entry has been put at a place from which no walk went on, and none goes on from it. -/
structure Puts (disk disk' : Disk) (place : Location) (e : Entry) : Prop where
  before : ¬ LeadsOn (disk.entry? place)
  after : ¬ LeadsOn (some e)
  entries : ∀ other, disk'.entry? other = if other = place then some e else disk.entry? other

/-- What was put at a place is there. -/
theorem Puts.entry {place : Location} {e : Entry} (h : Puts disk disk' place e) :
    disk'.entry? place = some e := by
  rw [h.entries, if_pos rfl]

/-- Putting an entry changes no ways. -/
theorem Puts.sameWays {place : Location} {e : Entry} (h : Puts disk disk' place e) :
    SameWays disk disk' := by
  intro other
  rw [h.entries other]
  by_cases hother : other = place
  · subst hother
    rw [if_pos rfl]
    exact .inr ⟨h.before, h.after⟩
  · rw [if_neg hother]
    exact .inl rfl

/-- What was found before is found where it was. -/
theorem Puts.find {place found : Location} {e : Entry} (h : Puts disk disk' place e)
    {follow : Bool} {loc : Location} (hfind : disk.find follow loc = .ok found) :
    disk'.find follow loc = .ok found := by
  obtain ⟨hshort, hwalk⟩ := find_eq_ok_iff.1 hfind
  exact find_eq_ok_iff.2 ⟨hshort, hwalk.keep h.sameWays⟩

/-- Folders that were there are there. -/
theorem Puts.isFolder {place loc : Location} {e : Entry} (h : Puts disk disk' place e)
    (hfolder : disk.isFolder loc = true) : disk'.isFolder loc = true := by
  obtain ⟨found, hfind, hentry⟩ := isFolder_iff.1 hfolder
  refine isFolder_iff.2 ⟨found, h.find hfind, ?_⟩
  have hne : found ≠ place := by
    intro heq
    subst heq
    exact h.before (.inl hentry)
  rw [h.entries, if_neg hne, hentry]

/-- What is neither a folder nor a link leads nowhere. -/
theorem not_leadsOn_iff {e? : Option Entry} :
    ¬ LeadsOn e? ↔ e? ≠ some .folder ∧ ∀ target, e? ≠ some (.link target) := by
  unfold LeadsOn
  rw [not_or, not_exists]

/-- A written file stands at the place of its location; what is written over a database stays
known for one. -/
theorem puts_of_writeFile {loc : Location} {bytes : List UInt8}
    (h : disk.writeFile loc bytes = .ok disk') :
    ∃ place e, disk.find true loc = .ok place ∧ (e = .file bytes ∨ e = .spoiled bytes) ∧
      Puts disk disk' place e := by
  unfold writeFile at h
  cases hfind : disk.find true loc with
  | error r => simp [hfind] at h
  | ok place =>
    obtain ⟨-, hwalk⟩ := find_eq_ok_iff.1 hfind
    have hlink := hwalk.not_link (isWay_anchor disk loc.anchor)
    simp only [hfind] at h
    have hbefore : ¬ LeadsOn (disk.entry? place) := by
      refine not_leadsOn_iff.2 ⟨?_, hlink⟩
      intro hentry
      simp [hentry] at h
    have hanchor : place.names ≠ [] := names_ne_nil_of_entry? (not_leadsOn_iff.1 hbefore).1
    cases hentry : disk.entry? place with
    | none =>
      simp only [hentry, Except.ok.injEq] at h
      exact ⟨place, _, rfl, .inl rfl, hbefore, not_leadsOn_iff.2 (by simp),
        h ▸ entry?_add hentry _⟩
    | some old =>
      cases old with
      | folder => simp [hentry] at h
      | link target => exact (hlink target hentry).elim
      | file old =>
        simp only [hentry, Except.ok.injEq] at h
        exact ⟨place, _, rfl, .inl rfl, hbefore, not_leadsOn_iff.2 (by simp),
          h ▸ entry?_replace hentry hanchor _⟩
      | database =>
        simp only [hentry, Except.ok.injEq] at h
        exact ⟨place, _, rfl, .inr rfl, hbefore, not_leadsOn_iff.2 (by simp),
          h ▸ entry?_replace hentry hanchor _⟩
      | spoiled old =>
        simp only [hentry, Except.ok.injEq] at h
        exact ⟨place, _, rfl, .inr rfl, hbefore, not_leadsOn_iff.2 (by simp),
          h ▸ entry?_replace hentry hanchor _⟩

/-- **What was written is read.** -/
theorem readFile_of_writeFile {loc : Location} {bytes : List UInt8}
    (h : disk.writeFile loc bytes = .ok disk') : disk'.readFile loc = .ok bytes := by
  obtain ⟨place, e, hfind, hbytes, hputs⟩ := puts_of_writeFile h
  unfold readFile look
  rw [hputs.find hfind, Except.map, hputs.entry]
  rcases hbytes with rfl | rfl
  · rfl
  · rfl

/-- Writing a file leaves folders where they are. -/
theorem isFolder_of_writeFile {loc folder : Location} {bytes : List UInt8}
    (h : disk.writeFile loc bytes = .ok disk') (hfolder : disk.isFolder folder = true) :
    disk'.isFolder folder = true := by
  obtain ⟨place, e, -, -, hputs⟩ := puts_of_writeFile h
  exact hputs.isFolder hfolder

/-- If the text of what a folder holds is short enough, so is that of the folder. -/
theorem short_of_child {folder : Location} {name : String}
    (h : (folder.child name).text.utf8ByteSize ≤ maxText) :
    folder.text.utf8ByteSize ≤ maxText := by
  by_cases hne : folder.names = []
  · obtain ⟨anchor, names⟩ := folder
    obtain rfl : names = [] := hne
    cases anchor <;> decide
  · exact Nat.le_trans (Location.text_le_text_child hne name) h

/-- The folder of a location that leads to a place is there. -/
theorem isFolder_of_find {follow : Bool} {folder place : Location} {name : String}
    (h : disk.find follow (folder.child name) = .ok place) :
    disk.isFolder folder = true := by
  obtain ⟨hshort, hwalk⟩ := find_eq_ok_iff.1 h
  obtain ⟨holder, habove, hholder⟩ := hwalk.above (isWay_anchor disk folder.anchor)
  exact isFolder_iff.2 ⟨holder, find_eq_ok_iff.2 ⟨short_of_child hshort, habove⟩, hholder⟩

/-- Where nothing stands an entry can be created. -/
theorem create_of_none {loc place : Location} (hfind : disk.find false loc = .ok place)
    (hnone : disk.entry? place = none) (e : Entry) :
    disk.create loc e = .ok (disk.add place e) := by
  simp only [create, hfind, hnone]

/-- What is made stands at the place of its location, where nothing was. -/
theorem entry?_of_create {loc : Location} {e : Entry} (h : disk.create loc e = .ok disk') :
    ∃ place, disk.find false loc = .ok place ∧ disk.entry? place = none ∧
      ∀ other, disk'.entry? other = if other = place then some e else disk.entry? other := by
  unfold create at h
  cases hfind : disk.find false loc with
  | error r => simp [hfind] at h
  | ok place =>
    cases hentry : disk.entry? place with
    | some old => simp [hfind, hentry] at h
    | none =>
      simp only [hfind, hentry, Except.ok.injEq] at h
      exact ⟨place, rfl, hentry, h ▸ entry?_add hentry e⟩

/-- A file that was created has been put at the place its location means. -/
theorem puts_of_createFile {loc : Location} {bytes : List UInt8}
    (h : disk.createFile loc bytes = .ok disk') :
    ∃ place, disk.find false loc = .ok place ∧ Puts disk disk' place (.file bytes) := by
  obtain ⟨place, hfind, hnone, hentries⟩ := entry?_of_create h
  exact ⟨place, hfind, hnone ▸ not_leadsOn_iff.2 (by simp), not_leadsOn_iff.2 (by simp), hentries⟩

/-- A file can be created in a folder only, and the folder is then there. -/
theorem isFolder_of_createFile {folder : Location} {name : String} {bytes : List UInt8}
    (h : disk.createFile (folder.child name) bytes = .ok disk') :
    disk'.isFolder folder = true := by
  obtain ⟨place, hfind, hputs⟩ := puts_of_createFile h
  exact hputs.isFolder (isFolder_of_find hfind)

/-! Folders that are there. -/

/-- A folder that is there cannot be created. -/
theorem createFolder_of_isFolder {loc : Location} (h : disk.isFolder loc = true) :
    disk.createFolder loc = .error ⟨.exists, loc⟩ := by
  obtain ⟨place, hfind, hentry⟩ := isFolder_iff.1 h
  obtain ⟨hshort, hwalk⟩ := find_eq_ok_iff.1 hfind
  have hsome : (disk.entry? place).isSome = true := by
    rw [hentry]
    rfl
  obtain ⟨place', hwalk', hfound⟩ := hwalk.unfollowed hsome
  obtain ⟨e, he⟩ := Option.isSome_iff_exists.1 hfound
  have hfind' : disk.find false loc = .ok place' := find_eq_ok_iff.2 ⟨hshort, hwalk'⟩
  simp only [createFolder, create, hfind', he]

/-- A folder that is there need not be made. -/
theorem ensureFolder_of_isFolder {loc : Location} (h : disk.isFolder loc = true) :
    disk.ensureFolder loc = (disk, .ok ()) := by
  have hcreate := createFolder_of_isFolder h
  unfold ensureFolder
  cases loc.names.length with
  | zero => simp only [ensureFolders, settleFolder, hcreate, h, if_true]
  | succ n => simp [ensureFolders, hcreate, h]

/-- Nothing is missing on the way to a folder that is there. -/
theorem isTooFar_of_isFolder {loc : Location} (h : disk.isFolder loc = true) :
    disk.isTooFar loc = false := by
  have hcreate := createFolder_of_isFolder h
  have hmissing : disk.missingOnWay loc.names.length loc = 0 := by
    cases loc.names.length with
    | zero => rfl
    | succ n => simp [missingOnWay, hcreate]
  rw [isTooFar, hmissing]
  simp [maxWay]

end Disk

end TaskTree
