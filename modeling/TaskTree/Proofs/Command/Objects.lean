import TaskTree.Command.Json
import TaskTree.Proofs.Node.Normal

/-!
# What the object of a command says

Every command has its fields, some of which may be left out; each of these has
something that stands for it (`standIns`).  An object says what a draft says if
all of its members are members of the object of the draft, and what it leaves
out is such a field with what stands for it (`Draft.Tells`).  These are exactly
the objects that are read as the draft (`Draft.ofMembers_eq_ok_iff`), so the
object of a draft is read as the draft, and nothing is lost, renamed or changed
on the way.

An object is read at all if it names a kind of command and has the fields of
that kind (`Draft.IsCommand`).  What it is refused with otherwise is a fault of
reading, but for an array or object in the place of the kind, which cannot even
be looked up (`Draft.ofMembers_ends`).
-/

namespace TaskTree

namespace Json

/-- An array or an object. -/
def isContainer : Json → Bool
  | .array _ | .object _ => true
  | _ => false

/-- An array of strings has the texts that it was made of. -/
@[simp] theorem strings?_ofStrings (texts : List String) :
    (ofStrings texts).strings? = some texts := by
  have hall : ∀ texts : List String, (texts.map Json.string).mapM string? = some texts := by
    intro texts
    induction texts with
    | nil => rfl
    | cons text rest ih => simp [string?, ih]
  exact hall texts

end Json

namespace CommandKind

/-- A word means a kind exactly if it is the word for it. -/
theorem ofWord?_eq_some_iff {w : String} {kind : CommandKind} :
    ofWord? w = some kind ↔ w = kind.word := by
  constructor
  · intro h
    have hword := List.find?_some h
    exact (of_decide_eq_true hword).symm
  · rintro rfl
    exact ofWord?_word kind

/-- The names of the fields of a command. -/
def fieldNames (kind : CommandKind) : List String :=
  kind.required ++ kind.optional

/-- A field is one that must be given or one that may be left out. -/
theorem mem_fieldNames {kind : CommandKind} {name : String} :
    name ∈ kind.fieldNames ↔ name ∈ kind.required ∨ name ∈ kind.optional :=
  List.mem_append

/-- What stands for the fields that may be left out. -/
def standIns : Named Json :=
  [("description", .string ""), ("state", .string TaskState.notDone.word), ("dest", .array [])]

/-- Something stands for every field that may be left out. -/
theorem isSome_standIns (kind : CommandKind) :
    ∀ name ∈ kind.optional, (Named.find? name standIns).isSome := by
  cases kind <;> decide

/-- No field both must be given and may be left out. -/
theorem not_required_of_optional (kind : CommandKind) :
    ∀ name ∈ kind.optional, name ∉ kind.required := by
  cases kind <;> decide

/-- No field has the name under which the kind of a command is told. -/
theorem command_not_mem_fieldNames (kind : CommandKind) : "command" ∉ kind.fieldNames := by
  cases kind <;> decide

/-- No field is named self. -/
theorem self_not_mem_fieldNames (kind : CommandKind) : "self" ∉ kind.fieldNames := by
  cases kind <;> decide

end CommandKind

namespace Draft

open CommandKind (standIns)

variable {members : Named Json} {draft : Draft} {kind : CommandKind}

/-- The value of a field, or what stands for it. -/
def filledIn (members : Named Json) (name : String) : Json :=
  fieldOr name ((Named.find? name standIns).getD .null) members

/-- A field that was given has the value that was given. -/
theorem filledIn_of_find? {name : String} {v : Json} (h : Named.find? name members = some v) :
    filledIn members name = v := by
  simp [filledIn, fieldOr, h]

/-- A field that was left out has what stands for it. -/
theorem filledIn_of_find?_none {name : String} {v : Json} (h : Named.find? name members = none)
    (hv : Named.find? name standIns = some v) : filledIn members name = v := by
  simp [filledIn, fieldOr, h, hv]

/-! Fields. -/

/-- The fields of a draft, under their names. -/
theorem fields_eq (draft : Draft) :
    draft.fields = draft.kind.fieldNames.map fun name => (name, filledIn draft.fields name) := by
  cases draft <;> rfl

/-- The draft that is made of fields is of the kind that was asked for. -/
theorem kind_ofFields (kind : CommandKind) (state : TaskState) (members : Named Json) :
    (ofFields kind state members).kind = kind := by
  cases kind <;> rfl

/-- The state among the fields is read if it is one; it counts as not done if it is left out. -/
theorem stateOf_eq_ok_iff {state : TaskState} :
    stateOf members = .ok state ↔ filledIn members "state" = .string state.word := by
  unfold stateOf
  cases hfound : Named.find? "state" members with
  | none =>
    rw [filledIn_of_find?_none hfound rfl]
    simp [TaskState.word_inj]
  | some v =>
    rw [filledIn_of_find? hfound, ← Node.stateOfJson?_eq_some_iff]
    cases hstate : Node.stateOfJson? v with
    | none => simp [hstate]
    | some s => simp [hstate]

/-- The draft with given fields has them, and what stands for those that are left out. -/
theorem fields_ofFields {state : TaskState} (h : stateOf members = .ok state) :
    (ofFields kind state members).fields =
      kind.fieldNames.map fun name => (name, filledIn members name) := by
  have hstate := stateOf_eq_ok_iff.1 h
  cases kind <;> simp [ofFields, fields, CommandOf.fields, CommandKind.fieldNames,
    CommandKind.required, CommandKind.optional, hstate] <;> simp [filledIn, standIns, Named.find?]

/-- A draft is its kind with its fields. -/
theorem eq_of_fields {draft draft' : Draft} (hkind : draft.kind = draft'.kind)
    (hfields : draft.fields = draft'.fields) : draft = draft' := by
  cases draft <;> cases draft' <;> try cases hkind
  all_goals simpa [fields, CommandOf.fields, TaskState.word_inj] using hfields

/-- A draft has just the fields of its kind, all of them filled in. -/
theorem find?_fields (draft : Draft) (name : String) :
    Named.find? name draft.fields =
      if name ∈ draft.kind.fieldNames then some (filledIn draft.fields name) else none := by
  have hfound := Named.find?_map_names (filledIn draft.fields) name draft.kind.fieldNames
  rwa [← fields_eq] at hfound

/-- The state in a draft is one of the two. -/
theorem exists_state_of_fields {v : Json} (h : Named.find? "state" draft.fields = some v) :
    ∃ state : TaskState, v = .string state.word := by
  cases draft with
  | createItem root path title description state => exact ⟨state, (Option.some.inj h).symm⟩
  | updateItem root path title description state => exact ⟨state, (Option.some.inj h).symm⟩
  | _ => cases h

theorem member?_command (draft : Draft) :
    draft.toJson.member? "command" = some (.string draft.kind.word) := rfl

/-- The other members of the object of a draft are its fields. -/
theorem member?_toJson {name : String} (hname : name ≠ "command") (draft : Draft) :
    draft.toJson.member? name = Named.find? name draft.fields := by
  rw [toJson, Json.member?, Named.find?, if_neg (Ne.symm hname)]

/-- The kind is no field. -/
theorem ne_command_of_field {name : String} (hname : name ∈ kind.fieldNames) :
    name ≠ "command" := by
  rintro rfl
  exact kind.command_not_mem_fieldNames hname

/-- The object of a draft has all its fields. -/
theorem member?_of_field {name : String} (hname : name ∈ draft.kind.fieldNames) :
    draft.toJson.member? name = some (filledIn draft.fields name) := by
  rw [member?_toJson (ne_command_of_field hname), find?_fields, if_pos hname]

/-- What the object of a draft has besides the kind are fields. -/
theorem field_of_member? {name : String} {v : Json} (hname : name ≠ "command")
    (h : draft.toJson.member? name = some v) : name ∈ draft.kind.fieldNames := by
  rw [member?_toJson hname, find?_fields] at h
  split at h
  · next hfield => exact hfield
  · cases h

/-! Objects of commands. -/

/-- The members of an object are those of a command of some kind: the kind is told, all that is
needed is there, nothing is there that is no field, and a state is one of the two. -/
structure IsCommand (kind : CommandKind) (members : Named Json) : Prop where
  named : Named.find? "command" members = some (.string kind.word)
  complete : ∀ name ∈ kind.required, (Named.find? name members).isSome
  known : ∀ member ∈ members, member.1 = "command" ∨ member.1 ∈ kind.fieldNames
  state : ∀ {v}, Named.find? "state" members = some v → ∃ state : TaskState, v = .string state.word

/-- No field is stray exactly if all names are those of fields. -/
theorem strayField?_eq_none_iff :
    strayField? kind members = none ↔ ∀ member ∈ members, member.1 ∈ kind.fieldNames := by
  induction members with
  | nil => simp [strayField?]
  | cons member rest ih =>
    obtain ⟨name, v⟩ := member
    by_cases hself : name = "self"
    · subst hself
      simp [strayField?, kind.self_not_mem_fieldNames]
    · by_cases hfield : name ∈ kind.fieldNames
      · have hknown : kind.required.contains name || kind.optional.contains name := by
          simpa [CommandKind.mem_fieldNames] using hfield
        rw [strayField?, if_neg hself, if_pos hknown, ih]
        simp [hfield]
      · have hunknown : ¬ (kind.required.contains name || kind.optional.contains name) := by
          simpa [CommandKind.mem_fieldNames] using hfield
        rw [strayField?, if_neg hself, if_neg hunknown]
        simp [hfield]

/-- No field is missing exactly if all that must be given are. -/
theorem missingFields_eq_nil_iff :
    missingFields kind members = [] ↔
      ∀ name ∈ kind.required, (Named.find? name members).isSome := by
  simp [missingFields, Named.has, Option.isSome_iff_ne_none]

/-- Nothing is wrong with the fields if none is stray and none is missing. -/
theorem payloadDefect?_eq_none_iff :
    payloadDefect? kind members = none ↔ (∀ member ∈ members, member.1 ∈ kind.fieldNames) ∧
      ∀ name ∈ kind.required, (Named.find? name members).isSome := by
  rw [← strayField?_eq_none_iff, ← missingFields_eq_nil_iff]
  unfold payloadDefect?
  cases strayField? kind members with
  | some defect => simp
  | none => cases missingFields kind members <;> simp

/-- The kind is read exactly if its word is given. -/
theorem kindOf_eq_ok_iff :
    kindOf members = .ok kind ↔ Named.find? "command" members = some (.string kind.word) := by
  unfold kindOf fieldOr
  cases hnamed : Named.find? "command" members with
  | none => simp
  | some v =>
    cases v with
    | string w =>
      simp only [Option.getD_some, Option.some.injEq, Json.string.injEq,
        ← CommandKind.ofWord?_eq_some_iff]
      cases CommandKind.ofWord? w <;> simp
    | _ => simp

/-- Without the kind the same is found under all other names. -/
theorem find?_erase_command {name : String} (hname : name ≠ "command") (members : Named Json) :
    Named.find? name (Named.erase "command" members) = Named.find? name members := by
  rw [Named.find?_erase, if_neg (Ne.symm hname)]

/-- Without the kind the same is filled in. -/
theorem filledIn_erase_command {name : String} (hname : name ≠ "command") (members : Named Json) :
    filledIn (Named.erase "command" members) name = filledIn members name := by
  rw [filledIn, filledIn, fieldOr, fieldOr, find?_erase_command hname]

/-- A state is read exactly if none is given or one of the two is. -/
theorem exists_stateOf_iff : (∃ state, stateOf members = .ok state) ↔
    ∀ v, Named.find? "state" members = some v → ∃ state : TaskState, v = .string state.word := by
  simp only [stateOf_eq_ok_iff]
  cases hfound : Named.find? "state" members with
  | none =>
    have hfilled : filledIn members "state" = .string TaskState.notDone.word :=
      filledIn_of_find?_none hfound rfl
    simp [hfilled, TaskState.word_inj]
  | some v => simp [filledIn_of_find? hfound]

/-- The objects of commands are those that pass all checks: on the kind, on the state, and on the
names of the fields. -/
theorem isCommand_iff :
    IsCommand kind members ↔ kindOf members = .ok kind ∧
      (∃ state, stateOf (Named.erase "command" members) = .ok state) ∧
      payloadDefect? kind (Named.erase "command" members) = none := by
  have hstate : "state" ≠ "command" := by decide
  have hcomplete : (∀ name ∈ kind.required,
      (Named.find? name (Named.erase "command" members)).isSome) ↔
        ∀ name ∈ kind.required, (Named.find? name members).isSome := by
    refine forall₂_congr fun name hname => ?_
    rw [find?_erase_command (ne_command_of_field (CommandKind.mem_fieldNames.2 (.inl hname)))]
  have hknown : (∀ member ∈ Named.erase "command" members, member.1 ∈ kind.fieldNames) ↔
      ∀ member ∈ members, member.1 = "command" ∨ member.1 ∈ kind.fieldNames := by
    simp [Named.erase, Decidable.or_iff_not_imp_left]
  rw [kindOf_eq_ok_iff, exists_stateOf_iff, payloadDefect?_eq_none_iff, hcomplete, hknown,
    find?_erase_command hstate]
  constructor
  · rintro ⟨named, complete, known, state⟩
    exact ⟨named, fun v => state, known, complete⟩
  · rintro ⟨named, state, known, complete⟩
    exact ⟨named, complete, known, fun {v} => state v⟩

/-- What reading comes to: it stops at the kind, at the state or at the names of the fields, or it
ends in the draft with these fields. -/
theorem ofMembers_cases (members : Named Json) :
    (∃ failure, kindOf members = .error failure ∧ ofMembers members = .error failure) ∨
    ∃ kind, kindOf members = .ok kind ∧
      ((∃ fault, stateOf (Named.erase "command" members) = .error fault ∧
          ofMembers members = .error (.fault fault)) ∨
        (∃ defect, payloadDefect? kind (Named.erase "command" members) = some defect ∧
          ofMembers members = .error (.fault (.badPayload kind.title defect))) ∨
        ∃ state, stateOf (Named.erase "command" members) = .ok state ∧
          payloadDefect? kind (Named.erase "command" members) = none ∧
          ofMembers members = .ok (ofFields kind state (Named.erase "command" members))) := by
  cases hkind : kindOf members with
  | error failure => exact .inl ⟨failure, rfl, by simp [ofMembers, hkind]⟩
  | ok kind =>
    refine .inr ⟨kind, rfl, ?_⟩
    cases hstate : stateOf (Named.erase "command" members) with
    | error fault => exact .inl ⟨fault, rfl, by simp [ofMembers, hkind, hstate]⟩
    | ok state =>
      cases hdefect : payloadDefect? kind (Named.erase "command" members) with
      | some defect =>
        exact .inr (.inl ⟨defect, rfl, by simp [ofMembers, hkind, hstate, hdefect]⟩)
      | none => exact .inr (.inr ⟨state, rfl, rfl, by simp [ofMembers, hkind, hstate, hdefect]⟩)

/-- The object of a command is read to the draft with its fields. -/
theorem ofMembers_eq_ok_iff_fields :
    ofMembers members = .ok draft ↔ IsCommand draft.kind members ∧
      draft.fields = draft.kind.fieldNames.map fun name => (name, filledIn members name) := by
  have hfields : ∀ {kind : CommandKind} {state : TaskState},
      stateOf (Named.erase "command" members) = .ok state →
        (ofFields kind state (Named.erase "command" members)).fields =
          kind.fieldNames.map fun name => (name, filledIn members name) := by
    intro kind state hstate
    rw [fields_ofFields hstate]
    refine List.map_congr_left fun name hname => ?_
    rw [filledIn_erase_command (ne_command_of_field hname)]
  constructor
  · intro h
    rcases ofMembers_cases members with ⟨failure, -, hread⟩ |
      ⟨kind, hkind, ⟨fault, -, hread⟩ | ⟨defect, -, hread⟩ | ⟨state, hstate, hdefect, hread⟩⟩
    · cases h.symm.trans hread
    · cases h.symm.trans hread
    · cases h.symm.trans hread
    · obtain rfl := Except.ok.inj (h.symm.trans hread)
      rw [kind_ofFields]
      exact ⟨isCommand_iff.2 ⟨hkind, ⟨state, hstate⟩, hdefect⟩, hfields hstate⟩
  · rintro ⟨hcommand, hfilled⟩
    obtain ⟨hkind, ⟨state, hstate⟩, hdefect⟩ := isCommand_iff.1 hcommand
    have hdraft : ofFields draft.kind state (Named.erase "command" members) = draft :=
      eq_of_fields (kind_ofFields ..) ((hfields hstate).trans hfilled.symm)
    simp [ofMembers, hkind, hstate, hdefect, hdraft]

/-- The members of an object say what a draft says: they are members of its object, and what its
object has besides are fields that may be left out, with what stands for them. -/
structure Tells (members : Named Json) (draft : Draft) : Prop where
  kept : ∀ {name v}, Named.find? name members = some v → draft.toJson.member? name = some v
  filled : ∀ {name v}, draft.toJson.member? name = some v → Named.find? name members = none →
    name ∈ draft.kind.optional ∧ Named.find? name standIns = some v

/-- The members of a command say what the draft with its fields says. -/
theorem Tells.of_fields (hcommand : IsCommand draft.kind members)
    (hfields : draft.fields = draft.kind.fieldNames.map fun name => (name, filledIn members name)) :
    Tells members draft := by
  have hvalue : ∀ {name}, name ∈ draft.kind.fieldNames →
      draft.toJson.member? name = some (filledIn members name) := by
    intro name hname
    rw [member?_toJson (ne_command_of_field hname), hfields,
      Named.find?_map_names (filledIn members), if_pos hname]
  refine ⟨?_, ?_⟩
  · intro name v hfound
    by_cases hname : name = "command"
    · subst hname
      exact hcommand.named.symm.trans hfound
    · have hfield := (hcommand.known _ (Named.mem_of_find? hfound)).resolve_left hname
      rw [hvalue hfield, filledIn_of_find? hfound]
  · intro name v hmember hnone
    have hname : name ≠ "command" := by
      rintro rfl
      cases hcommand.named.symm.trans hnone
    have hfield := field_of_member? hname hmember
    have hoptional : name ∈ draft.kind.optional := by
      refine (CommandKind.mem_fieldNames.1 hfield).resolve_left fun hrequired => ?_
      have hsome := hcommand.complete name hrequired
      simp [hnone] at hsome
    obtain ⟨w, hw⟩ := Option.isSome_iff_exists.1 (draft.kind.isSome_standIns name hoptional)
    rw [hvalue hfield, filledIn_of_find?_none hnone hw] at hmember
    exact ⟨hoptional, hw.trans hmember⟩

/-- What an object leaves out of what it tells may be left out. -/
theorem Tells.optional (h : Tells members draft) {name : String}
    (hfield : name ∈ draft.kind.fieldNames) (hnone : Named.find? name members = none) :
    name ∈ draft.kind.optional :=
  (h.filled (member?_of_field hfield) hnone).1

/-- Only the members of a command say what a draft says: the kind may not be left out, since it is
no field. -/
theorem Tells.isCommand (h : Tells members draft) : IsCommand draft.kind members := by
  refine ⟨?_, ?_, ?_, ?_⟩
  · cases hnamed : Named.find? "command" members with
    | none =>
      have hoptional := (h.filled draft.member?_command hnamed).1
      exact absurd (CommandKind.mem_fieldNames.2 (.inr hoptional))
        draft.kind.command_not_mem_fieldNames
    | some v => exact (h.kept hnamed).symm.trans draft.member?_command
  · intro name hrequired
    rw [Option.isSome_iff_ne_none]
    intro hnone
    have hoptional := h.optional (CommandKind.mem_fieldNames.2 (.inl hrequired)) hnone
    exact draft.kind.not_required_of_optional name hoptional hrequired
  · rintro ⟨name, v⟩ hmem
    refine Decidable.or_iff_not_imp_left.2 fun hname => ?_
    have hfound : Named.find? name members ≠ none := fun hnone =>
      Named.find?_eq_none_iff.1 hnone (List.mem_map_of_mem hmem)
    obtain ⟨w, hw⟩ := Option.ne_none_iff_exists'.1 hfound
    exact field_of_member? hname (h.kept hw)
  · intro v hfound
    have hmember := h.kept hfound
    rw [member?_toJson (by decide)] at hmember
    exact exists_state_of_fields hmember

/-- The fields of a draft are filled in from the members that say the same. -/
theorem Tells.fields_eq (h : Tells members draft) :
    draft.fields = draft.kind.fieldNames.map fun name => (name, filledIn members name) := by
  rw [draft.fields_eq]
  refine List.map_congr_left fun name hfield => ?_
  have hmember := member?_of_field hfield
  cases hfound : Named.find? name members with
  | none => rw [filledIn_of_find?_none hfound (h.filled hmember hfound).2]
  | some v =>
    have hsame := hmember.symm.trans (h.kept hfound)
    rw [filledIn_of_find? hfound, Option.some.inj hsame]

/-- An object is read as the draft that it tells, and as no other. -/
theorem ofMembers_eq_ok_iff : ofMembers members = .ok draft ↔ Tells members draft := by
  rw [ofMembers_eq_ok_iff_fields]
  constructor
  · intro h
    exact .of_fields h.1 h.2
  · intro h
    exact ⟨h.isCommand, h.fields_eq⟩

/-- The object of a draft tells it. -/
theorem tells_fields (draft : Draft) :
    Tells (("command", .string draft.kind.word) :: draft.fields) draft where
  kept h := h
  filled hmember hnone := by cases hmember.symm.trans hnone

/-- A command comes back from the draft that says what it says. -/
theorem command?_toDraft (command : Command) : command.toDraft.command? = some command := by
  cases command <;> simp [Command.toDraft, command?, Json.string?]

/-- **Commands and their objects.**  Every draft is read from its object, and every command from
its own.  The objects that are read as a draft are those that tell it: each of their members is in
the object of the draft with the same value, and what this has besides are fields that may be left
out, with what stands for them. -/
theorem ofMembers_faithful :
    (∀ draft : Draft, ∃ members, draft.toJson = .object members ∧ ofMembers members = .ok draft) ∧
    (∀ command : Command, ∃ members draft, command.toJson = .object members ∧
      ofMembers members = .ok draft ∧ draft.command? = some command) ∧
    ∀ members draft, ofMembers members = .ok draft ↔ Tells members draft := by
  have hread : ∀ draft : Draft,
      ofMembers (("command", .string draft.kind.word) :: draft.fields) = .ok draft :=
    fun draft => ofMembers_eq_ok_iff.2 (tells_fields draft)
  refine ⟨fun draft => ⟨_, rfl, hread draft⟩, fun command => ?_, fun _ _ => ofMembers_eq_ok_iff⟩
  exact ⟨_, command.toDraft, rfl, hread command.toDraft, command?_toDraft command⟩

/-! How reading ends. -/

/-- The members of a command are read. -/
theorem exists_ofMembers (h : IsCommand kind members) : ∃ draft, ofMembers members = .ok draft := by
  obtain ⟨hkind, ⟨state, hstate⟩, hdefect⟩ := isCommand_iff.1 h
  exact ⟨ofFields kind state (Named.erase "command" members), by
    simp [ofMembers, hkind, hstate, hdefect]⟩

/-- Only what cannot be looked up ends the search for a kind with a mishap. -/
theorem kindOf_mishap_iff {mishap : Mishap} :
    kindOf members = .error (.mishap mishap) ↔ ∃ v, Named.find? "command" members = some v ∧
      v.isContainer = true ∧ mishap = .notHashable v := by
  unfold kindOf fieldOr
  cases hnamed : Named.find? "command" members with
  | none => simp
  | some v =>
    cases v with
    | array elements => simpa [Json.isContainer] using eq_comm
    | object inner => simpa [Json.isContainer] using eq_comm
    | string w => cases hword : CommandKind.ofWord? w <;> simp [Json.isContainer, hword]
    | _ => simp [Json.isContainer]

/-- A kind that is not known is a parse fault. -/
theorem kind_of_kindOf {fault : Fault} (h : kindOf members = .error (.fault fault)) :
    fault.kind = .parse := by
  unfold kindOf at h
  split at h
  · cases h
  · cases h
  · split at h
    · cases h
    · cases h
      rfl
  · cases h
    rfl

/-- A state that is not known is a parse fault. -/
theorem kind_of_stateOf {fault : Fault} (h : stateOf members = .error fault) :
    fault.kind = .parse := by
  unfold stateOf at h
  split at h
  · cases h
  · split at h
    · cases h
    · cases h
      rfl

/-- Reading ends in a mishap only where the search for a kind does. -/
theorem ofMembers_mishap_iff {mishap : Mishap} :
    ofMembers members = .error (.mishap mishap) ↔
      ∃ v, Named.find? "command" members = some v ∧ v.isContainer = true ∧
        mishap = .notHashable v := by
  rw [← kindOf_mishap_iff]
  rcases ofMembers_cases members with ⟨failure, hkind, hread⟩ |
    ⟨kind, hkind, ⟨fault, -, hread⟩ | ⟨defect, -, hread⟩ | ⟨state, -, -, hread⟩⟩
  all_goals
    rw [hkind, hread]
    simp

/-- A fault in reading is that the object cannot be parsed. -/
theorem kind_of_ofMembers {fault : Fault} (h : ofMembers members = .error (.fault fault)) :
    fault.kind = .parse := by
  rcases ofMembers_cases members with ⟨failure, hkind, hread⟩ |
    ⟨kind, -, ⟨fault', hstate, hread⟩ | ⟨defect, -, hread⟩ | ⟨state, -, -, hread⟩⟩
  · cases h.symm.trans hread
    exact kind_of_kindOf hkind
  · cases h.symm.trans hread
    exact kind_of_stateOf hstate
  · cases h.symm.trans hread
    rfl
  · cases h.symm.trans hread

/-- **How reading ends.**  The objects of commands are read.  Of all others those end in a mishap
whose kind is an array or an object, which cannot be looked up, and the rest is refused as what
cannot be parsed. -/
theorem ofMembers_ends (members : Named Json) :
    ((∃ draft, ofMembers members = .ok draft) ↔ ∃ kind, IsCommand kind members) ∧
    (∀ mishap, ofMembers members = .error (.mishap mishap) ↔
      ∃ v, Named.find? "command" members = some v ∧ v.isContainer = true ∧
        mishap = .notHashable v) ∧
    ((∃ fault, ofMembers members = .error (.fault fault) ∧ fault.kind = .parse) ↔
      (¬ ∃ kind, IsCommand kind members) ∧
        ¬ ∃ v, Named.find? "command" members = some v ∧ v.isContainer = true) := by
  have hok : (∃ draft, ofMembers members = .ok draft) ↔ ∃ kind, IsCommand kind members := by
    constructor
    · rintro ⟨draft, hread⟩
      exact ⟨draft.kind, (ofMembers_eq_ok_iff_fields.1 hread).1⟩
    · rintro ⟨kind, hcommand⟩
      exact exists_ofMembers hcommand
  refine ⟨hok, fun mishap => ofMembers_mishap_iff, ?_⟩
  rw [← hok]
  constructor
  · rintro ⟨fault, hread, -⟩
    rw [hread]
    refine ⟨by simp, ?_⟩
    rintro ⟨v, hnamed, hcontainer⟩
    cases hread.symm.trans (ofMembers_mishap_iff.2 ⟨v, hnamed, hcontainer, rfl⟩)
  · rintro ⟨hunread, hscalar⟩
    cases hread : ofMembers members with
    | ok draft => exact (hunread ⟨draft, hread⟩).elim
    | error failure =>
      cases failure with
      | fault fault => exact ⟨fault, rfl, kind_of_ofMembers hread⟩
      | mishap mishap =>
        obtain ⟨v, hnamed, hcontainer, -⟩ := ofMembers_mishap_iff.1 hread
        exact (hscalar ⟨v, hnamed, hcontainer⟩).elim

/-- An object that names its kind in an array. -/
def listed : Named Json :=
  [("command", .array [.string "create_root"]), ("root", .string "r")]

/-- **A kind that cannot be looked up.**  Reading such an object ends in a mishap, and so neither in
a draft nor in a fault. -/
theorem ofMembers_listed :
    ofMembers listed = .error (.mishap (.notHashable (.array [.string "create_root"]))) ∧
    (¬ ∃ draft, ofMembers listed = .ok draft) ∧
    ¬ ∃ fault, ofMembers listed = .error (.fault fault) ∧ fault.kind = .parse := by
  have hread : ofMembers listed =
      .error (.mishap (.notHashable (.array [.string "create_root"]))) := rfl
  rw [hread]
  exact ⟨rfl, nofun, nofun⟩

end Draft

end TaskTree
