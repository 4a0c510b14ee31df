import TaskTree.Proofs.Json.Digits
import TaskTree.Proofs.Node.Normal
import TaskTree.Proofs.Vault

/-!
# Any content of a snapshot

The file of a snapshot can hold any bytes.  They are decoded to a text, the text is read as JSON, and
the value is walked through for its nodes.  Each of these can fail, and callers expect only faults of
parsing, and of a file that cannot be read.

Two contents end in a mishap instead: bytes that are no text, and a text in which a whole number
with too many digits is come upon before any fault.  There are no others (`load_mishap_iff`).  So a
text without that many digits in a row is loaded, or is found at fault.
-/

namespace TaskTree

namespace Utf8

/-- Bytes that no text has. -/
def IsNoText (bytes : List UInt8) : Prop :=
  ∀ text, bytes ≠ encode text

variable {bytes : List UInt8}

/-- Bytes that are no text are not decoded. -/
theorem IsNoText.exists_fault (h : IsNoText bytes) : ∃ fault, decode bytes = .error fault := by
  cases hdecode : decode bytes with
  | error fault => exact ⟨fault, rfl⟩
  | ok cs => exact (h _ (eq_encode_of_decode hdecode)).elim

/-- Bytes that are not decoded are no text. -/
theorem isNoText_of_fault {fault : Fault} (h : decode bytes = .error fault) : IsNoText bytes := by
  rintro text rfl
  cases h.symm.trans (decode_encode text)

end Utf8

namespace Json

/-- A reader of this text comes upon a whole number that is too long before anything else that
stops it. -/
def StopsAtLongNumber (cs : List Char) : Prop :=
  ∃ count, read textDepth cs = .error (.longInteger count)

/-- Where reading stops at a long number a run of that many digits stands. -/
theorem StopsAtLongNumber.exists_run {cs : List Char} (h : StopsAtLongNumber cs) :
    ∃ count, Numeral.maxDigits < count ∧ HasRun count cs := by
  obtain ⟨count, hread⟩ := h
  exact ⟨count, hasRun_of_read hread⟩

end Json

namespace Graph

/-- Roots that cannot be read are a fault of parsing. -/
theorem kind_of_rootsOfJson {members : List (String × Json)} {fault : Fault}
    (h : rootsOfJson members = .error fault) : fault.kind = .parse := by
  fun_induction rootsOfJson members generalizing fault with
  | case1 => cases h
  | case2 name v rest refused hnode =>
    cases h
    exact Node.kind_of_ofJsonAt hnode
  | case3 name v rest node hnode refused hrest ih =>
    cases h
    exact ih hrest
  | case4 => cases h

/-- A graph that cannot be read is a fault of parsing. -/
theorem kind_of_ofJson {v : Json} {fault : Fault} (h : ofJson v = .error fault) :
    fault.kind = .parse := by
  unfold ofJson at h
  split at h
  · exact kind_of_rootsOfJson h
  · cases h
    rfl

/-- A text is a graph, or is found at fault, unless a number in it is too long. -/
theorem ofChars_cases (cs : List Char) :
    (∃ graph, ofChars cs = .ok graph) ∨ FailsToParse (ofChars cs) ∨
      Json.StopsAtLongNumber cs ∧ ∃ count, ofChars cs = .error (.mishap (.longInteger count)) := by
  cases hread : Json.read Json.textDepth cs with
  | ok v =>
    cases hgraph : ofJson v with
    | ok graph => exact .inl ⟨graph, by simp only [ofChars, hread, hgraph, liftFault]⟩
    | error fault =>
      exact .inr (.inl ⟨fault, by simp only [ofChars, hread, hgraph, liftFault],
        kind_of_ofJson hgraph⟩)
  | error refusal =>
    cases refusal with
    | malformed defect rest =>
      exact .inr (.inl ⟨.snapshotNotJson defect cs rest, by simp only [ofChars, hread], rfl⟩)
    | longInteger count =>
      exact .inr (.inr ⟨⟨count, hread⟩, count, by simp only [ofChars, hread]⟩)
    | deep nesting => exact .inr (.inl ⟨.snapshotTooDeep, by simp only [ofChars, hread], rfl⟩)

/-- Reading a text ends in a mishap exactly when it stops at a number that is too long. -/
theorem ofChars_mishap_iff {cs : List Char} :
    (∃ mishap, ofChars cs = .error (.mishap mishap)) ↔ Json.StopsAtLongNumber cs := by
  constructor
  · rintro ⟨mishap, hmishap⟩
    rcases ofChars_cases cs with ⟨graph, hgraph⟩ | ⟨fault, hfault, -⟩ | ⟨hlong, -⟩
    · cases hmishap.symm.trans hgraph
    · cases hmishap.symm.trans hfault
    · exact hlong
  · rintro ⟨count, hread⟩
    exact ⟨.longInteger count, by simp only [ofChars, hread]⟩

/-- A text that is no graph is a fault of parsing. -/
theorem kind_of_ofChars {cs : List Char} {fault : Fault}
    (h : ofChars cs = .error (.fault fault)) : fault.kind = .parse := by
  rcases ofChars_cases cs with ⟨graph, hgraph⟩ | ⟨found, hfound, hkind⟩ | ⟨-, count, hmishap⟩
  · cases h.symm.trans hgraph
  · cases h.symm.trans hfound
    exact hkind
  · cases h.symm.trans hmishap

end Graph

namespace Vault

variable {disk : Disk} {vault : Vault} {bytes : List UInt8}

/-- A snapshot file that is no text ends in a mishap. -/
theorem readGraph_of_noText (hread : disk.readFile vault.stateFile = .ok bytes)
    (h : Utf8.IsNoText bytes) : ∃ mishap, vault.readGraph disk = .error (.mishap mishap) := by
  obtain ⟨fault, hfault⟩ := h.exists_fault
  exact ⟨.undecodable (.ofUtf8 fault), by simp only [readGraph, readState, hread, hfault]⟩

/-- A file that holds a text is read as that text, with its line ends folded. -/
theorem readGraph_of_text {text : String}
    (hread : disk.readFile vault.stateFile = .ok (Utf8.encode text)) :
    vault.readGraph disk = Graph.ofChars (Text.foldLineEnds text.toList) := by
  simp only [readGraph, readState, hread, Utf8.decode_encode]

/-- A file that cannot be read counts as an empty graph if it is not there, and else as a fault. -/
theorem readGraph_of_refused {r : Disk.Refusal} (hread : disk.readFile vault.stateFile = .error r) :
    vault.readGraph disk =
      if r.code = .notFound then .ok .empty
      else .error (.fault (.cannotRead vault.stateFile r)) := by
  by_cases hcode : r.code = .notFound
  · simp only [readGraph, readState, hread, if_pos hcode]
  · simp only [readGraph, readState, hread, if_neg hcode]

/-- What a content that ends in a mishap is. -/
theorem readGraph_mishap_iff :
    (∃ mishap, vault.readGraph disk = .error (.mishap mishap)) ↔
      ∃ bytes, disk.readFile vault.stateFile = .ok bytes ∧
        (Utf8.IsNoText bytes ∨
          ∃ text, bytes = Utf8.encode text ∧
            Json.StopsAtLongNumber (Text.foldLineEnds text.toList)) := by
  constructor
  · rintro ⟨mishap, hmishap⟩
    cases hread : disk.readFile vault.stateFile with
    | error r =>
      rw [readGraph_of_refused hread] at hmishap
      split at hmishap
      · cases hmishap
      · cases hmishap
    | ok bytes =>
      refine ⟨bytes, rfl, ?_⟩
      cases hdecode : Utf8.decode bytes with
      | error fault => exact .inl (Utf8.isNoText_of_fault hdecode)
      | ok cs =>
        have htext := Utf8.eq_encode_of_decode hdecode
        rw [readGraph_of_text (htext ▸ hread)] at hmishap
        exact .inr ⟨_, htext, Graph.ofChars_mishap_iff.1 ⟨mishap, hmishap⟩⟩
  · rintro ⟨bytes, hread, hnoText | ⟨text, rfl, hlong⟩⟩
    · exact readGraph_of_noText hread hnoText
    · rw [readGraph_of_text hread]
      exact Graph.ofChars_mishap_iff.2 hlong

/-- A snapshot file that cannot be taken is a fault of parsing, or one of the disk that would not
give it. -/
theorem kind_of_readGraph {fault : Fault} (h : vault.readGraph disk = .error (.fault fault)) :
    fault.kind = .parse ∨
      fault.kind = .io ∧ ∃ r, disk.readFile vault.stateFile = .error r := by
  cases hread : disk.readFile vault.stateFile with
  | error r =>
    rw [readGraph_of_refused hread] at h
    split at h
    · cases h
    · cases h
      exact .inr ⟨rfl, r, rfl⟩
  | ok bytes =>
    unfold readGraph readState at h
    rw [hread] at h
    cases hdecode : Utf8.decode bytes with
    | error fault => simp [hdecode] at h
    | ok cs =>
      simp only [hdecode] at h
      exact .inl (Graph.kind_of_ofChars h)

/-- **Which contents end in a mishap.**  A load that has the lock gives a graph or a fault, of
parsing or of a file that cannot be read, unless the bytes of the file are no text, or its text has
too many digits in a row and reading it stops there.  A text that is read by itself is a graph or
fails to parse, with the same exception. -/
theorem load_mishap_iff (disk : Disk) (hnull : vault.base.hasNull = false)
    (hlocked : (vault.load disk).vault.isLocked = true) :
    let loaded := vault.load disk
    ((∃ mishap, loaded.result = .error (.mishap mishap)) ↔
      ∃ bytes, loaded.disk.readFile vault.stateFile = .ok bytes ∧
        (Utf8.IsNoText bytes ∨
          ∃ text, bytes = Utf8.encode text ∧
            Json.StopsAtLongNumber (Text.foldLineEnds text.toList))) ∧
    (∀ fault, loaded.result = .error (.fault fault) →
      fault.kind = .parse ∨
        fault.kind = .io ∧ ∃ r, loaded.disk.readFile vault.stateFile = .error r) ∧
    (∀ text, (∃ mishap, Graph.ofSnapshot text = .error (.mishap mishap)) ↔
      Json.StopsAtLongNumber text.toList) ∧
    (∀ text fault, Graph.ofSnapshot text = .error (.fault fault) → fault.kind = .parse) ∧
    ∀ cs, Json.StopsAtLongNumber cs →
      ∃ count, Numeral.maxDigits < count ∧ Json.HasRun count cs := by
  intro loaded
  have hresult : loaded.result = vault.readGraph loaded.disk := by
    rcases load_reads hnull disk with ⟨-, hreads⟩ | ⟨hfree, -⟩
    · exact hreads
    · cases hfree.symm.trans hlocked
  refine ⟨?_, fun fault hfault => ?_, fun text => Graph.ofChars_mishap_iff,
    fun text fault => Graph.kind_of_ofChars, fun cs => Json.StopsAtLongNumber.exists_run⟩
  · rw [hresult]
    exact readGraph_mishap_iff
  · exact kind_of_readGraph (hresult.symm.trans hfault)

/-- A snapshot of one byte, which starts no character. -/
def strayByte : Disk :=
  ⟨0, [(⟨.root, ["hyperlog"]⟩, .folder, 0), (⟨.root, ["hyperlog", "graph.json"]⟩, .file [0xff], 0)]⟩

/-- A byte that begins no character is not decoded. -/
theorem decode_strayByte : Utf8.decode [0xff] = .error ⟨.invalidStart, 0, 1, 0xff⟩ := by
  rw [Utf8.decode, Utf8.decodeFrom]
  rfl

/-- The stray byte is no text, so its load ends in a mishap. -/
theorem load_mishap_iff_strayByte :
    let vault : Vault := ⟨⟨.root, []⟩, 60, none⟩
    vault.base.hasNull = false ∧ (vault.load strayByte).vault.isLocked = true ∧
      ∃ mishap, (vault.load strayByte).result = .error (.mishap mishap) := by
  intro vault
  have hnull : vault.base.hasNull = false := by decide +kernel
  have hlocked : (vault.load strayByte).vault.isLocked = true := by decide +kernel
  have hread : (vault.load strayByte).disk.readFile vault.stateFile = .ok [0xff] := rfl
  have hnoText : Utf8.IsNoText [0xff] := Utf8.isNoText_of_fault decode_strayByte
  obtain ⟨hmishap, -⟩ := load_mishap_iff strayByte hnull hlocked
  exact ⟨hnull, hlocked, hmishap.2 ⟨[0xff], hread, .inl hnoText⟩⟩

/-- **Contents that end in a mishap.**  A byte that starts no character does so when it is loaded,
and a whole number of one digit too many when it is read. -/
theorem content_not_typed :
    let vault : Vault := ⟨⟨.root, []⟩, 60, none⟩
    let loaded := vault.load strayByte
    let text := String.ofList (List.replicate (Numeral.maxDigits + 1) '1')
    loaded.vault.isLocked = true ∧
    loaded.disk.readFile vault.stateFile = .ok [0xff] ∧
    (∃ mishap, loaded.result = .error (.mishap mishap)) ∧
    ∃ mishap, Graph.ofSnapshot text = .error (.mishap mishap) := by
  intro vault loaded text
  have hread : loaded.disk.readFile vault.stateFile = .ok [0xff] := rfl
  refine ⟨by decide +kernel, hread, ?_, ?_⟩
  · exact readGraph_of_noText hread (Utf8.isNoText_of_fault decode_strayByte)
  · rw [Graph.ofSnapshot, String.toList_ofList]
    exact Graph.ofChars_mishap_iff.2 ⟨_, Json.read_ones _ (Nat.le_refl _)⟩

end Vault

end TaskTree
