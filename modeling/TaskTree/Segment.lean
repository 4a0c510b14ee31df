import TaskTree.Fault
import TaskTree.Path

/-!
# Legal names

A name of a node is not empty, holds no dot, and is not the reserved one.
-/

namespace TaskTree.Path

/-- A name that a node may have. -/
structure IsLegal (segment : String) : Prop where
  nonempty : segment ≠ ""
  undotted : separator ∉ segment.toList
  unreserved : segment ≠ reserved

instance (segment : String) : Decidable (IsLegal segment) :=
  decidable_of_iff (segment ≠ "" ∧ separator ∉ segment.toList ∧ segment ≠ reserved)
    ⟨fun h => ⟨h.1, h.2.1, h.2.2⟩, fun h => ⟨h.nonempty, h.undotted, h.unreserved⟩⟩

/-- Refuse a name that no node may have. -/
def checkSegment (segment : String) : Except Fault Unit :=
  if segment = "" then .error .emptySegment
  else if separator ∈ segment.toList then .error (.dottedSegment segment)
  else if segment = reserved then .error (.reservedSegment segment)
  else .ok ()

/-- Refuse a path with a name that no node may have; the first such name counts. -/
def check : Path → Except Fault Unit
  | [] => .ok ()
  | segment :: rest =>
    match checkSegment segment with
    | .error fault => .error fault
    | .ok () => check rest

/-- The check passes exactly the legal names. -/
theorem checkSegment_eq_ok_iff {segment : String} :
    checkSegment segment = .ok () ↔ IsLegal segment := by
  unfold checkSegment
  constructor
  · intro h
    split at h
    · cases h
    · split at h
      · cases h
      · split at h
        · cases h
        · exact ⟨by assumption, by assumption, by assumption⟩
  · intro hlegal
    obtain ⟨h1, h2, h3⟩ := hlegal
    rw [if_neg h1, if_neg h2, if_neg h3]

/-- A name that is refused is not legal. -/
theorem not_isLegal_of_checkSegment {segment : String} {fault : Fault}
    (h : checkSegment segment = .error fault) : ¬ IsLegal segment := by
  intro hlegal
  rw [checkSegment_eq_ok_iff.2 hlegal] at h
  cases h

/-- The check passes exactly the paths of legal names. -/
theorem check_eq_ok_iff {path : Path} :
    check path = .ok () ↔ ∀ segment ∈ path, IsLegal segment := by
  induction path with
  | nil => simp [check]
  | cons segment rest ih =>
    cases h : checkSegment segment with
    | error fault =>
      simp only [check, h, List.mem_cons, forall_eq_or_imp, reduceCtorEq, false_iff, not_and]
      intro legal
      rw [checkSegment_eq_ok_iff.2 legal] at h
      cases h
    | ok u =>
      simp only [check, h, List.mem_cons, forall_eq_or_imp, ih]
      exact ⟨fun hr => ⟨checkSegment_eq_ok_iff.1 h, hr⟩, fun hr => hr.2⟩

end TaskTree.Path
