import Mathlib.Data.List.Basic
import TaskTree.Proofs.Path

/-!
# Paths and texts correspond

A text is read as a path by taking it apart at its dots, and what is read is readable: no name is
empty or holds a dot.  A readable path comes back from its text.  Texts with a dot between them are
read one after the other (`parse_append`).  So readable paths differ if their texts do not, and a
path goes on after another exactly if its text goes on after the text of the other with a dot
(`startsWith_format_iff`).  `text_corresponds` has all of that.

How far that goes is told by four results of their own:

* no path comes back from its text but the readable ones (`parse_format_iff`);
* the check passes these and no others, the reserved name apart (`check_eq_ok_iff_readable`);
* a text comes back from its path unless a dot stands at its start, at its end or behind another
  dot (`format_parse_iff`);
* the empty text, the names, and the dots between texts leave one way to read (`eq_parse`).
-/

namespace TaskTree.Path

variable {p q path : Path} {name text : String}

/-- A name that a text can hold by itself: not empty, without dots. -/
structure IsName (name : String) : Prop where
  nonempty : name ≠ ""
  undotted : separator ∉ name.toList

instance (name : String) : Decidable (IsName name) :=
  decidable_of_iff (name ≠ "" ∧ separator ∉ name.toList)
    ⟨fun h => ⟨h.1, h.2⟩, fun h => ⟨h.nonempty, h.undotted⟩⟩

/-- A path of such names, as it can be read from a text. -/
def Readable (path : Path) : Prop :=
  ∀ name ∈ path, IsName name

instance (path : Path) : Decidable (Readable path) := by
  unfold Readable; infer_instance

/-! Reading. -/

/-- What is read from a text are names. -/
theorem isName_of_mem_parse (h : name ∈ parse text) : IsName name := by
  obtain ⟨hmem, hne⟩ := List.mem_filter.1 h
  exact ⟨of_decide_eq_true hne, undotted_of_mem_splitText hmem⟩

/-- The path that is read from a text is readable. -/
theorem readable_parse (text : String) : Readable (parse text) :=
  fun _ h => isName_of_mem_parse h

/-- Texts with a dot between them are read one after the other. -/
theorem parse_append (front back : String) :
    parse (front ++ "." ++ back) = parse front ++ parse back := by
  rw [parse, splitText_append, List.filter_append, parse, parse]

@[simp] theorem parse_empty : parse "" = [] := rfl

/-- A name is read as the path of it alone. -/
theorem IsName.parse (h : IsName name) : parse name = [name] := by
  rw [Path.parse, splitText_of_undotted h.undotted]
  exact List.filter_cons_of_pos (decide_eq_true h.nonempty)

/-! Reading the text of a path. -/

/-- What reads texts with a dot between them one after the other reads the text of a path name by
name. -/
theorem flatMap_of_append {read : String → Path} (hempty : read "" = [])
    (happend : ∀ front back, read (front ++ "." ++ back) = read front ++ read back) (path : Path) :
    read (format path) = path.flatMap read := by
  induction path with
  | nil => exact hempty
  | cons name rest ih =>
    cases rest with
    | nil => rw [format_singleton, List.flatMap_singleton]
    | cons next more => rw [format_cons_cons, happend, ih, ← List.flatMap_cons]

/-- The text of a path is read name by name: names with dots become several, empty ones none. -/
theorem parse_format (path : Path) : parse (format path) = path.flatMap parse :=
  flatMap_of_append parse_empty parse_append path

/-- A readable path comes back from its text. -/
theorem Readable.parse_format (h : Readable path) : parse (format path) = path :=
  calc parse (format path)
      = path.flatMap parse := Path.parse_format path
    _ = path.flatMap fun name => [name] := List.flatMap_congr fun name hmem => (h name hmem).parse
    _ = path := List.flatMap_singleton' path

/-- **The paths that come back** from their texts are the readable ones. -/
theorem parse_format_iff : parse (format path) = path ↔ Readable path :=
  ⟨fun h => h ▸ readable_parse (format path), Readable.parse_format⟩

/-- Readable paths with the same text are the same. -/
theorem Readable.eq_of_format_eq (hp : Readable p) (hq : Readable q) (h : format p = format q) :
    p = q := by
  rw [← hp.parse_format, h, hq.parse_format]

/-- **The paths that are checked** are the readable ones without the reserved name. -/
theorem check_eq_ok_iff_readable : check path = .ok () ↔ Readable path ∧ reserved ∉ path := by
  rw [check_eq_ok_iff]
  constructor
  · intro hlegal
    refine ⟨fun name hmem => ?_, fun hmem => ?_⟩
    · exact ⟨(hlegal name hmem).nonempty, (hlegal name hmem).undotted⟩
    · exact (hlegal reserved hmem).unreserved rfl
  · intro hboth name hmem
    obtain ⟨hreadable, hreserved⟩ := hboth
    refine ⟨(hreadable name hmem).nonempty, (hreadable name hmem).undotted, ?_⟩
    rintro rfl
    exact hreserved hmem

/-! Texts that go on after others. -/

/-- A text starts with another if it goes on after it. -/
theorem startsWith_iff {front : String} :
    text.startsWith front = true ↔ ∃ rest, text = front ++ rest := by
  rw [String.startsWith_string_iff]
  constructor
  · intro hbegins
    obtain ⟨rest, hrest⟩ := hbegins
    exact ⟨String.ofList rest, String.toList_injective (by simp [← hrest])⟩
  · intro hgoes
    obtain ⟨rest, rfl⟩ := hgoes
    rw [String.toList_append]
    exact List.prefix_append ..

/-- A path goes on after another if its text goes on after the text of the other with a dot. -/
theorem startsWith_format_iff (hp : Readable p) (hq : Readable q) (hne : p ≠ []) :
    (format q).startsWith (format p ++ ".") = true ↔ p <+: q ∧ p ≠ q := by
  rw [startsWith_iff]
  constructor
  · intro hgoes
    obtain ⟨rest, hrest⟩ := hgoes
    have hnames : q = p ++ parse rest := by
      rw [← hq.parse_format, hrest, parse_append, hp.parse_format]
    refine ⟨⟨parse rest, hnames.symm⟩, fun hsame => ?_⟩
    have hlength := congrArg String.length hrest
    rw [← hsame, String.length_append, String.length_append] at hlength
    have hdot : ".".length = 1 := rfl
    omega
  · intro hproper
    obtain ⟨⟨rest, rfl⟩, hdiffer⟩ := hproper
    have hrest : rest ≠ [] := by
      rintro rfl
      exact hdiffer (List.append_nil p).symm
    exact ⟨format rest, format_append_eq hne hrest⟩

/-! What is lost in reading. -/

/-- A text in which no dot stands at the start, at the end or behind another dot. -/
structure IsTidy (text : String) : Prop where
  start : ∀ rest, text ≠ "." ++ rest
  ending : ∀ rest, text ≠ rest ++ "."
  inside : ∀ front back, text ≠ front ++ ".." ++ back

/-- The empty text is tidy. -/
theorem isTidy_empty : IsTidy "" := by
  constructor
  · intro rest h
    simpa using congrArg String.toList h
  · intro rest h
    simpa using congrArg String.toList h
  · intro front back h
    simpa using congrArg String.toList h

/-- The names of a text are read as they are if none of them is empty. -/
theorem parse_eq_splitText_iff : parse text = splitText text ↔ "" ∉ splitText text := by
  rw [parse, List.filter_eq_self]
  constructor
  · intro hall hmem
    exact absurd (hall "" hmem) (by decide)
  · intro hnone name hmem
    exact decide_eq_true fun hempty => hnone (hempty ▸ hmem)

/-- A text has an empty name if it is empty or not tidy. -/
theorem empty_mem_splitText_iff : "" ∈ splitText text ↔ text = "" ∨ ¬ IsTidy text := by
  constructor
  · intro hmem
    obtain ⟨above, below, hsplit⟩ := List.append_of_mem hmem
    have htext : text = format (above ++ "" :: below) := by
      rw [← hsplit, format_splitText]
    cases above with
    | nil =>
      cases below with
      | nil => exact .inl htext
      | cons next rest =>
        rw [List.nil_append, format_cons_cons] at htext
        exact .inr fun htidy => htidy.start (format (next :: rest)) (by simpa using htext)
    | cons first more =>
      have hfront := @format_append_eq (first :: more) ("" :: below) (by simp) (by simp)
      refine .inr fun htidy => ?_
      cases below with
      | nil => exact htidy.ending (format (first :: more)) (by simpa using htext.trans hfront)
      | cons next rest =>
        refine htidy.inside (format (first :: more)) (format (next :: rest)) ?_
        rw [htext, hfront, format_cons_cons]
        apply String.toList_injective
        simp
  · intro hcases
    have hempty : splitText "" = [""] := rfl
    rcases hcases with rfl | huntidy
    · exact List.mem_singleton_self ""
    · refine Classical.byContradiction fun hnone => huntidy ?_
      refine ⟨fun rest h => hnone ?_, fun rest h => hnone ?_, fun front back h => hnone ?_⟩
      · have hsplit := splitText_append "" rest
        rw [String.empty_append, ← h] at hsplit
        simp [hsplit, hempty]
      · have hsplit := splitText_append rest ""
        rw [String.append_empty, ← h] at hsplit
        simp [hsplit, hempty]
      · have hdots : front ++ "." ++ ("" ++ "." ++ back) = text := by
          rw [h]
          apply String.toList_injective
          simp
        rw [← hdots, splitText_append, splitText_append]
        simp [hempty]

/-- **The texts that come back** from their paths are the tidy ones. -/
theorem format_parse_iff : format (parse text) = text ↔ IsTidy text := by
  by_cases hempty : text = ""
  · rw [hempty]
    exact iff_of_true rfl isTidy_empty
  have htidy : "" ∉ splitText text ↔ IsTidy text := by
    rw [empty_mem_splitText_iff, not_or, Classical.not_not]
    exact and_iff_right hempty
  rw [← htidy, ← parse_eq_splitText_iff]
  constructor
  · intro hback
    have hne : parse text ≠ [] := by
      intro hnil
      rw [hnil] at hback
      exact hempty hback.symm
    have hsplit := splitText_format hne fun name hmem => (readable_parse text name hmem).undotted
    rw [hback] at hsplit
    exact hsplit.symm
  · intro hnames
    rw [hnames, format_splitText]

/-! What reading is. -/

/-- **There is one way to read texts.**  Whatever reads the empty text as the empty path, a name as
itself, and texts with a dot between them one after the other, reads every text as `parse` does. -/
theorem eq_parse {read : String → Path} (hempty : read "" = [])
    (hname : ∀ name, IsName name → read name = [name])
    (happend : ∀ front back, read (front ++ "." ++ back) = read front ++ read back) :
    read = parse := by
  funext text
  have hpieces : ∀ piece ∈ splitText text, read piece = parse piece := by
    intro piece hmem
    by_cases hne : piece = ""
    · rw [hne, hempty, parse_empty]
    · have hpiece : IsName piece := ⟨hne, undotted_of_mem_splitText hmem⟩
      rw [hname piece hpiece, hpiece.parse]
  calc read text
      = read (format (splitText text)) := by rw [format_splitText]
    _ = (splitText text).flatMap read := flatMap_of_append hempty happend _
    _ = (splitText text).flatMap parse := List.flatMap_congr hpieces
    _ = parse (format (splitText text)) := (parse_format _).symm
    _ = parse text := by rw [format_splitText]

/-- **Paths and texts correspond.**  A path whose names are not empty and hold no dots comes back
from its text.  Whatever is read from a text is such a path, and it does not change when it is
written and read again.  Texts with a dot between them are read one after the other.  So such paths
differ if their texts do not, and one that leads somewhere is the proper beginning of another
exactly if the text of the other starts with its text and a dot. -/
theorem text_corresponds :
    (∀ path, Readable path → parse (format path) = path) ∧
    (∀ text, Readable (parse text) ∧ parse (format (parse text)) = parse text) ∧
    (∀ front back, parse (front ++ "." ++ back) = parse front ++ parse back) ∧
    (∀ p q, Readable p → Readable q → format p = format q → p = q) ∧
    (∀ p q, Readable p → Readable q → p ≠ [] → q ≠ [] →
      ((format q).startsWith (format p ++ ".") = true ↔ p <+: q ∧ p ≠ q)) := by
  refine ⟨fun path => Readable.parse_format, fun text => ?_, parse_append,
    fun p q hp hq => hp.eq_of_format_eq hq, fun p q hp hq hne _ => startsWith_format_iff hp hq hne⟩
  exact ⟨readable_parse text, (readable_parse text).parse_format⟩

/-- Names that start with other names, and a text with dots at its ends. -/
theorem text_corresponds_siblings :
    parse (format ["inbox", "buy milk"]) = ["inbox", "buy milk"] ∧
    parse ".inbox..buy milk." = ["inbox", "buy milk"] ∧
    parse (".inbox." ++ "." ++ "buy milk.") = parse ".inbox." ++ parse "buy milk." ∧
    (format ["inbox", "buy milk"]).startsWith (format ["inbox"] ++ ".") = true ∧
    (format ["inbox-2", "buy milk"]).startsWith (format ["inbox"] ++ ".") = false := by
  obtain ⟨hback, -, hboth, -, hstarts⟩ := text_corresponds
  have hinbox : Readable ["inbox"] := by decide
  have hmilk : Readable ["inbox", "buy milk"] := by decide
  have hother : Readable ["inbox-2", "buy milk"] := by decide
  refine ⟨hback _ hmilk, by decide, hboth ".inbox." "buy milk.", ?_, ?_⟩
  · exact (hstarts _ _ hinbox hmilk (by decide) (by decide)).2 (by decide)
  · refine Bool.eq_false_iff.2 fun htrue => ?_
    exact absurd ((hstarts _ _ hinbox hother (by decide) (by decide)).1 htrue) (by decide)

end TaskTree.Path
