import TaskTree.Segment
import TaskTree.Text.Visible

/-!
# Paths and their texts

The text of a path tells the path if no name in it holds a dot
(`splitText_format`), and every text is that of the path it is split into
(`format_splitText`).  So a text goes on after another with a dot exactly if
its names go on after the names of the other.
-/

namespace TaskTree.Text

/-- A text with a separator in it is split on either side of it. -/
theorem split_append (sep : Char) (front back : List Char) :
    split sep (front ++ sep :: back) = split sep front ++ split sep back := by
  induction front with
  | nil => simp [split]
  | cons c rest ih =>
    by_cases h : c = sep
    · simp [split, h, ih]
    · cases hs : split sep rest with
      | nil => exact absurd hs (split_ne_nil sep rest)
      | cons piece pieces =>
        rw [hs] at ih
        simp [split, h, ih, hs]

/-- Pieces are joined part by part, with a separator between the parts. -/
theorem join_append {sep : Char} {front back : List (List Char)} (hfront : front ≠ [])
    (hback : back ≠ []) : join sep (front ++ back) = join sep front ++ sep :: join sep back := by
  induction front with
  | nil => exact absurd rfl hfront
  | cons piece rest ih =>
    cases rest with
    | nil =>
      cases back with
      | nil => exact absurd rfl hback
      | cons next more => simp [join]
    | cons next more =>
      have hrest := ih (by simp)
      simp only [List.cons_append] at hrest ⊢
      rw [join, hrest, join, List.append_assoc, List.cons_append]

end TaskTree.Text

namespace TaskTree.Path

/-- A name as it may stand in a command: not empty, without dots and nulls. -/
structure IsPlain (segment : String) : Prop where
  nonempty : segment ≠ ""
  undotted : separator ∉ segment.toList
  unended : '\x00' ∉ segment.toList

instance (segment : String) : Decidable (IsPlain segment) :=
  decidable_of_iff (segment ≠ "" ∧ separator ∉ segment.toList ∧ '\x00' ∉ segment.toList)
    ⟨fun h => ⟨h.1, h.2.1, h.2.2⟩, fun h => ⟨h.nonempty, h.undotted, h.unended⟩⟩

/-- A path of plain names. -/
def Plain (path : Path) : Prop :=
  ∀ segment ∈ path, IsPlain segment

instance (path : Path) : Decidable (Plain path) := by
  unfold Plain; infer_instance

/-- A path that leads somewhere ends in a name. -/
theorem exists_above {path : Path} (h : path ≠ []) : ∃ above name, path = above ++ [name] :=
  ⟨path.dropLast, path.getLast h, (List.dropLast_concat_getLast h).symm⟩

/-- A path does not go on to where it came from. -/
theorem not_prefix_above (above : Path) (name : String) : ¬ above ++ [name] <+: above := by
  intro h
  have hlength := h.length_le
  rw [List.length_append, List.length_singleton] at hlength
  omega

/-- Of two paths to siblings one goes on after the other only if they are the same. -/
theorem eq_of_prefix_sibling {above : Path} {a b : String}
    (h : above ++ [a] <+: above ++ [b]) : a = b := by
  have heq := h.eq_of_length (by simp)
  exact List.singleton_inj.1 (List.append_cancel_left heq)

/-- Two plain paths make one. -/
theorem Plain.append {p q : Path} (hp : Plain p) (hq : Plain q) : Plain (p ++ q) := by
  intro segment h
  exact (List.mem_append.1 h).elim (hp segment) (hq segment)

/-- The front of a plain path is plain. -/
theorem Plain.left {p q : Path} (h : Plain (p ++ q)) : Plain p :=
  fun segment hmem => h segment (List.mem_append_left _ hmem)

/-- The end of a plain path is plain. -/
theorem Plain.right {p q : Path} (h : Plain (p ++ q)) : Plain q :=
  fun segment hmem => h segment (List.mem_append_right _ hmem)

/-- A path of legal names without nulls is plain. -/
theorem plain_of_legal {path : Path}
    (h : ∀ segment ∈ path, IsLegal segment ∧ '\x00' ∉ segment.toList) : path.Plain :=
  fun segment hs => ⟨(h segment hs).1.nonempty, (h segment hs).1.undotted, (h segment hs).2⟩

/-- A name made of a title without nulls has none. -/
theorem unended_nameOfTitle {title : String} (h : '\x00' ∉ title.toList) :
    '\x00' ∉ (nameOfTitle title).toList := by
  rw [nameOfTitle, String.toList_ofList, List.mem_map]
  intro hmem
  obtain ⟨c, hc, heq⟩ := hmem
  split at heq
  · cases heq
  · exact h (heq ▸ hc)

/-- The names of a text, put together, make the text. -/
@[simp] theorem format_splitText (text : String) : format (splitText text) = text := by
  have hpieces : ((Text.split separator text.toList).map String.ofList).map String.toList =
      Text.split separator text.toList := by
    rw [List.map_map]
    exact (List.map_congr_left fun piece _ => String.toList_ofList).trans (List.map_id _)
  rw [format, splitText, hpieces, Text.join_split, String.ofList_toList]

/-- A path whose names hold no dots comes back from its text. -/
theorem splitText_format {path : Path} (hne : path ≠ [])
    (h : ∀ segment ∈ path, separator ∉ segment.toList) : splitText (format path) = path := by
  have hpieces : ∀ piece ∈ path.map String.toList, separator ∉ piece := by
    intro piece hpiece
    obtain ⟨segment, hmem, rfl⟩ := List.mem_map.1 hpiece
    exact h segment hmem
  rw [format, splitText, String.toList_ofList, Text.split_join (by simpa using hne) hpieces,
    List.map_map]
  exact (List.map_congr_left fun segment _ => String.ofList_toList).trans (List.map_id _)

/-- The text of a plain path has the names of the path. -/
theorem Plain.splitText_format {path : Path} (h : Plain path) (hne : path ≠ []) :
    splitText (format path) = path :=
  Path.splitText_format hne fun segment hmem => (h segment hmem).undotted

@[simp] theorem clean_clean (path : Path) : clean (clean path) = clean path := by
  rw [clean, clean, List.filter_filter]
  simp only [Bool.and_self]

/-- Empty names leave no trace in a path that went through its text. -/
theorem parse_format_clean {path : Path} (h : ∀ segment ∈ path, separator ∉ segment.toList) :
    parse (format (clean path)) = clean path := by
  by_cases hne : clean path = []
  · rw [hne]
    rfl
  · have hundotted : ∀ segment ∈ clean path, separator ∉ segment.toList :=
      fun segment hmem => h segment (List.mem_filter.1 hmem).1
    rw [parse, splitText_format hne hundotted]
    exact clean_clean path

theorem splitText_ne_nil (text : String) : splitText text ≠ [] := by
  intro h
  exact Text.split_ne_nil separator text.toList (List.map_eq_nil_iff.1 h)

/-- A text with a dot in it is split on either side of it. -/
theorem splitText_append (front back : String) :
    splitText (front ++ "." ++ back) = splitText front ++ splitText back := by
  have hdot : (front ++ "." ++ back).toList = front.toList ++ separator :: back.toList := by
    simp [separator]
  rw [splitText, hdot, Text.split_append, List.map_append, splitText, splitText]

/-- A text without a dot is one name. -/
theorem splitText_of_undotted {name : String} (h : separator ∉ name.toList) :
    splitText name = [name] := by
  rw [splitText, Text.split_of_not_mem h, List.map_singleton, String.ofList_toList]

/-- The names of a text have no dots. -/
theorem undotted_of_mem_splitText {name text : String} (h : name ∈ splitText text) :
    separator ∉ name.toList := by
  obtain ⟨piece, hpiece, rfl⟩ := List.mem_map.1 h
  rw [String.toList_ofList]
  exact Text.not_mem_of_mem_split hpiece

/-- Texts with the same names are the same. -/
theorem splitText_injective {a b : String} (h : splitText a = splitText b) : a = b := by
  rw [← format_splitText a, ← format_splitText b, h]

@[simp] theorem format_singleton (name : String) : format [name] = name :=
  String.ofList_toList

/-- The text of two paths is their texts with a dot between them. -/
theorem format_append {p q : Path} (hp : p ≠ []) (hq : q ≠ []) :
    (format (p ++ q)).toList = (format p).toList ++ separator :: (format q).toList := by
  rw [format, format, format, String.toList_ofList, String.toList_ofList, String.toList_ofList,
    List.map_append, Text.join_append (by simpa using hp) (by simpa using hq)]

/-- Texts of paths are put together with a dot. -/
theorem format_append_eq {p q : Path} (hp : p ≠ []) (hq : q ≠ []) :
    format (p ++ q) = format p ++ "." ++ format q := by
  apply String.toList_injective
  rw [format_append hp hq]
  simp [separator]

theorem format_cons_cons (name next : String) (more : Path) :
    format (name :: next :: more) = name ++ "." ++ format (next :: more) := by
  have happend := @format_append_eq [name] (next :: more) (by simp) (by simp)
  rwa [List.singleton_append, format_singleton] at happend

/-- The text of a path holds no null if none of its names does. -/
theorem unended_format {path : Path} (h : ∀ segment ∈ path, '\x00' ∉ segment.toList) :
    '\x00' ∉ (format path).toList := by
  induction path with
  | nil => simp [format, Text.join]
  | cons segment rest ih =>
    have hsegment := h segment (List.mem_cons_self ..)
    cases rest with
    | nil => simpa [format, Text.join] using hsegment
    | cons next more =>
      have hrest := ih fun s hs => h s (List.mem_cons_of_mem _ hs)
      have hdot : '\x00' ∉ ".".toList := by decide
      rw [format_cons_cons, String.toList_append, String.toList_append, List.mem_append,
        List.mem_append]
      intro hcases
      rcases hcases with (h | h) | h
      · exact hsegment h
      · exact hdot h
      · exact hrest h

/-- A text without a null is visible as a whole. -/
theorem visible_of_unended {cs : List Char} (h : '\x00' ∉ cs) : Text.visible cs = cs := by
  refine Text.visible_eq_self fun c hc h0 => ?_
  have hnull : c = '\x00' := Char.toNat_inj.1 h0
  exact h (hnull ▸ hc)

/-- What is visible of a text has no null. -/
theorem unended_visible (cs : List Char) : '\x00' ∉ Text.visible cs := by
  intro hmem
  have hcounts := List.all_eq_true.1 List.all_takeWhile _ hmem
  exact absurd hcounts (by decide)

/-- What comes behind text without null characters counts as far as it counts alone. -/
theorem visible_append {cs : List Char} (h : '\x00' ∉ cs) (rest : List Char) :
    Text.visible (cs ++ rest) = cs ++ Text.visible rest := by
  refine List.takeWhile_append_of_pos fun c hc => ?_
  have hcounts : c.toNat ≠ 0 := by
    intro h0
    have hnull : c = '\x00' := Char.toNat_inj.1 h0
    exact h (hnull ▸ hc)
  simpa using hcounts

end TaskTree.Path
