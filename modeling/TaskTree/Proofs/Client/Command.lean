import TaskTree.Client
import TaskTree.Proofs.Server.Form
import TaskTree.Proofs.Store.Outcome
import TaskTree.Proofs.Text.Utf8

/-!
# Commands by way of a server

A client sends the fields of a command to the one resource that takes commands of its kind
(`endpoint_fieldsRequest`).  What comes back is read as what the store of the server has come to
(`readDone_ofFault`, `readDone_lost`) or as a refusal of the request (`readDone_problems`).  So a
command that is well formed does by way of the server what it does to its store, and any other is
refused before the server does anything (`execute_transparent`).
-/

namespace TaskTree

/-- A result is a fault of this kind with this message. -/
def Raises {α : Type} (result : Except Failure α) (kind : FaultKind) (message : String) : Prop :=
  ∃ fault, result = .error (.fault fault) ∧ fault.kind = kind ∧ fault.message = message

namespace Client

variable {client : Client} {server : Server} {command : Command}

/-- A request gets to the server, and its response comes back. -/
def carries (client : Client) (request : Request) : Bool :=
  match client.addressOf request with
  | .ok address => address.hasType && address.checkBrackets.isOk
  | .error _ => false

/-- Requests for commands get to the server, and the responses come back. -/
def reaches (client : Client) : Bool :=
  CommandKind.all.all fun kind =>
    match client.addressOf (fieldsRequest kind []) with
    | .ok address => address.hasType && address.checkBrackets.isOk
    | .error _ => false

/-! Sending. -/

/-- Each kind of command has a resource of its own. -/
theorem endpoint_fieldsRequest (kind : CommandKind) (fields : List (String × Json)) :
    Server.endpoint (fieldsRequest kind fields) = .ok (.command kind) := by
  cases kind <;> rfl

/-- The address does not depend on the fields, as long as they can be sent at all. -/
theorem addressOf_fieldsRequest (client : Client) (kind : CommandKind)
    {fields : List (String × Json)} (hfinite : (Json.object fields).isFinite = true) :
    client.addressOf (fieldsRequest kind fields) = client.addressOf (fieldsRequest kind []) := by
  have hempty : (Json.object []).isFinite = true := by
    rw [Json.isFinite, Json.allMembersFinite]
  have hcheck : ∀ address, checkSending address (.value (.object fields)) =
      checkSending address (.value (.object [])) := by
    intro address
    simp only [checkSending, Body.isFinite, hfinite, hempty]
  unfold addressOf
  simp only [fieldsRequest, hcheck]

/-- A client that reaches the server carries every command there. -/
theorem carries_of_reaches (h : client.reaches = true) (command : Command) :
    client.carries (commandRequest command) = true := by
  have hkind : command.kind ∈ CommandKind.all := by cases command.kind <;> decide
  unfold carries commandRequest
  rw [addressOf_fieldsRequest client _ (Command.isFinite_fields command)]
  exact List.all_eq_true.1 h command.kind hkind

/-- A check that passes gives nothing else. -/
theorem eq_ok_of_isOk {ε : Type} {result : Except ε Unit} (h : result.isOk = true) :
    result = .ok () := by
  cases result with
  | ok done => rfl
  | error e => cases h

/-- A response that comes back is read. -/
theorem hear_response {α : Type} {address : Address} (htype : address.hasType = true)
    (hbrackets : address.checkBrackets = .ok ()) (client : Client) (response : Response)
    (read : Response → Except Failure α) :
    client.hear address (.response response) read = read response := by
  simp only [hear, responseIn, htype, hbrackets]
  rfl

/-- What is asked comes to what its response is read as. -/
theorem ask_eq {α : Type} {request : Request} (h : client.carries request = true)
    (server : Server) (read : Response → Except Failure α) :
    client.ask server request read =
      ((server.handle request).1, read (server.handle request).2) := by
  unfold carries at h
  split at h
  · next address haddress =>
    obtain ⟨htype, hbrackets⟩ := (Bool.and_eq_true _ _).mp h
    simp only [ask, haddress, hear_response htype (eq_ok_of_isOk hbrackets)]
  · cases h

/-- A command by way of a server comes to what its response is read as. -/
theorem execute_eq (h : client.reaches = true) (server : Server) (command : Command) :
    client.execute server command =
      ((server.handle (commandRequest command)).1,
        readDone (server.handle (commandRequest command)).2) :=
  ask_eq (carries_of_reaches h command) server readDone

/-! Answering. -/

/-- The server reads the form of a command from the request that was made for it. -/
theorem read_commandRequest (command : Command) :
    Form.read command.kind (commandRequest command).body =
      match Form.command command.kind (Command.fields command) with
      | .value command => .ok command
      | .problems first rest => .error (.problems (first :: rest)) := rfl

/-- The server handles the request for a command by executing what it reads there. -/
theorem handle_commandRequest (server : Server) (command : Command) :
    server.handle (commandRequest command) =
      match Form.read command.kind (commandRequest command).body with
      | .ok command => server.execute command
      | .error refusal => (server, Server.refuse refusal) := by
  have hendpoint : Server.endpoint (commandRequest command) = .ok (.command command.kind) :=
    endpoint_fieldsRequest command.kind (Command.fields command)
  unfold Server.handle
  rw [hendpoint]
  cases hread : Form.read command.kind (commandRequest command).body with
  | ok command => simp only [hread]
  | error refusal => simp only [hread]

/-! Reading the response. -/

/-- No kind of fault has the status of a request with problems, nor one of success. -/
theorem status_of_kind (kind : FaultKind) :
    (kind.status : Int) ≠ 422 ∧ ¬ (kind.status : Int) < 300 := by
  cases kind <;> decide

/-- A fault that a server tells of is read with its kind and its message. -/
theorem readDone_ofFault (fault : Fault) :
    readDone (Server.ofFault fault) = .error (.fault (.reported fault.kind fault.message)) := by
  obtain ⟨hproblems, hfailed⟩ := status_of_kind fault.kind
  have hsuccess : (Server.ofFault fault).isSuccess = false := by
    rw [Bool.eq_false_iff]
    intro hin
    exact hfailed (of_decide_eq_true ((Bool.and_eq_true _ _).mp hin).2)
  have hdetail : Json.member? "detail" (.object
      [("detail", .string fault.message), ("error", .string fault.kind.word)]) =
      some (.string fault.message) := rfl
  have hkind : Json.member? "error" (.object
      [("detail", .string fault.message), ("error", .string fault.kind.word)]) =
      some (.string fault.kind.word) := rfl
  simp only [readDone, payload, hsuccess]
  simp [faultOf, Server.ofFault, faultBody, Body.read, hdetail, hkind, messageOf, hproblems,
    kindOfJson, FaultKind.ofWord_word]

/-- A text that is sent in single bytes is received. -/
theorem receivedText_encode {s : String} (h : Encoding.ofBytes (Utf8.encode s) = .utf8) :
    Json.receivedText (Utf8.encode s) = .ok (Json.withoutMark s.toList) := by
  rw [Json.receivedText, h, Encoding.decode, Utf8.decodePassing_encode]
  rfl

/-- A text that does not begin with a value is no JSON. -/
theorem receive_encode {s : String} {refusal : Json.Refusal}
    (h : Encoding.ofBytes (Utf8.encode s) = .utf8)
    (hread : Json.readAll Json.textDepth (Json.withoutMark s.toList) = .error refusal) :
    Json.receive Json.textDepth (Utf8.encode s) =
      .error (.refused (Json.withoutMark s.toList) refusal) := by
  simp only [Json.receive, receivedText_encode h, hread]

/-- Of a mishap a server tells nothing but that there was one. -/
theorem readDone_lost :
    readDone Server.lost =
      .error (.fault (.unexpectedStatus 500 "Internal Server Error")) := by
  have hread : Server.lost.body.read = .error (.refused "Internal Server Error".toList
      (.malformed .expectedValue "Internal Server Error".toList)) :=
    receive_encode (by decide) rfl
  have hbody : faultBody Server.lost.body = .ok (.object []) := by
    rw [faultBody, hread]
  have hsuccess : Server.lost.isSuccess = false := rfl
  simp only [readDone, payload, hsuccess, faultOf, hbody]
  rfl

/-- Problems that the server tells are the client's rejection, all of them. -/
theorem readDone_problems {all : List Problem} (hall : ∀ p ∈ all, p.toJson.isFinite = true) :
    readDone (Server.refuse (.problems all)) =
      .error (.fault (.rejected (.array (all.map Problem.toJson)))) := by
  have hfinite : (Json.array (all.map Problem.toJson)).isFinite = true := by
    rw [Json.isFinite, Json.allFinite_iff]
    intro v hv
    obtain ⟨p, hp, rfl⟩ := List.mem_map.1 hv
    exact hall p hp
  simp only [Server.refuse, hfinite, if_true]
  rfl

/-- The message of a rejection quotes its detail. -/
theorem message_rejected (detail : Json) :
    (Fault.rejected detail).message = "request rejected by server" ++ (": " ++ detail.inline) := by
  rw [← String.append_assoc]
  rfl

/-! The whole way. -/

/-- What a client learns of the end that a command has come to. -/
def told : Except Failure Unit → Except Failure Unit
  | .ok () => .ok ()
  | .error (.fault fault) => .error (.fault (.reported fault.kind fault.message))
  | .error (.mishap _) => .error (.fault (.unexpectedStatus 500 "Internal Server Error"))

/-- A client learns that a command is done exactly when it is. -/
theorem told_eq_ok_iff {result : Except Failure Unit} : told result = .ok () ↔ result = .ok () := by
  cases result with
  | ok done => exact iff_of_true rfl rfl
  | error failure =>
    cases failure with
    | fault fault => exact iff_of_false (fun h => by cases h) (fun h => by cases h)
    | mishap mishap => exact iff_of_false (fun h => by cases h) (fun h => by cases h)

/-- A client learns of every fault.  It raises one of its own only where there was a mishap. -/
theorem raises_told_iff {result : Except Failure Unit} {kind : FaultKind} {message : String} :
    Raises (told result) kind message ↔ Raises result kind message ∨
      ((∃ mishap, result = .error (.mishap mishap)) ∧ kind = .transport ∧
        message = "server returned HTTP 500: Internal Server Error") := by
  constructor
  · intro hraises
    obtain ⟨raised, htold, rfl, rfl⟩ := hraises
    cases result with
    | ok done => cases htold
    | error failure =>
      cases failure with
      | fault fault =>
        cases htold
        exact .inl ⟨fault, rfl, rfl, rfl⟩
      | mishap mishap =>
        cases htold
        exact .inr ⟨⟨mishap, rfl⟩, rfl, rfl⟩
  · intro hends
    rcases hends with ⟨fault, rfl, rfl, rfl⟩ | ⟨⟨mishap, rfl⟩, rfl, rfl⟩
    · exact ⟨_, rfl, rfl, rfl⟩
    · exact ⟨_, rfl, rfl, rfl⟩

/-- What the client reads of a command that was executed is what it learns of its end. -/
theorem readDone_execute (server : Server) (command : Command) :
    readDone (server.execute command).2 =
      told (server.store.execute server.disk command).result := by
  unfold Server.execute
  simp only
  cases (server.store.execute server.disk command).result with
  | ok done => rfl
  | error failure =>
    cases failure with
    | fault fault => exact readDone_ofFault fault
    | mishap mishap => exact readDone_lost

/-- A client learns of just the faults that there were exactly if there was no mishap. -/
theorem told_faithful_iff {result : Except Failure Unit} :
    (∀ kind message, Raises (told result) kind message ↔ Raises result kind message) ↔
      ∀ mishap, result ≠ .error (.mishap mishap) := by
  constructor
  · rintro hsame mishap rfl
    obtain ⟨fault, hfault, -⟩ := (hsame .transport "server returned HTTP 500: Internal Server Error").1
      (raises_told_iff.2 (.inr ⟨⟨mishap, rfl⟩, rfl, rfl⟩))
    cases hfault
  · intro hnone kind message
    refine raises_told_iff.trans (or_iff_left ?_)
    rintro ⟨⟨mishap, hmishap⟩, -⟩
    exact hnone mishap hmishap

/-- A command that is well formed is read by the server as it was sent. -/
theorem read_wellFormed (hgood : command.IsWellFormed) :
    Form.read command.kind (commandRequest command).body = .ok command := by
  rw [read_commandRequest]
  rcases Form.decides_command command with ⟨-, hform⟩ | ⟨hbad, -⟩
  · rw [hform]
  · exact (hbad hgood).elim

/-- By way of a server a command that is well formed does to the store what it does there, and the
client learns of its end. -/
theorem execute_wellFormed (hreaches : client.reaches = true) (server : Server)
    (hgood : command.IsWellFormed) :
    client.execute server command =
      (⟨(server.store.execute server.disk command).disk,
        (server.store.execute server.disk command).store⟩,
        told (server.store.execute server.disk command).result) := by
  rw [execute_eq hreaches, handle_commandRequest, read_wellFormed hgood, ← readDone_execute]
  rfl

/-- **A command by way of a server.**  If the command is well formed, the server reads the very
command and does to its store what it says.  The client returns exactly if the store does.  It raises
a fault of some kind with some message exactly if the store does, unless the store has a mishap: that
is no fault, and the client raises that the server has failed.  Sound stores have no mishaps.  If the
command is not well formed, the client raises that the request was rejected, and the server is as it
was. -/
theorem execute_transparent (hreaches : client.reaches = true) (server : Server)
    (command : Command) :
    let after := server.store.execute server.disk command
    let remote := client.execute server command
    (command.IsWellFormed →
      Server.endpoint (commandRequest command) = .ok (.command command.kind) ∧
      Form.read command.kind (commandRequest command).body = .ok command ∧
      remote.1 = ⟨after.disk, after.store⟩ ∧
      (remote.2 = .ok () ↔ after.result = .ok ()) ∧
      ((∀ kind message, Raises remote.2 kind message ↔ Raises after.result kind message) ↔
        ∀ mishap, after.result ≠ .error (.mishap mishap)) ∧
      (∀ mishap, after.result = .error (.mishap mishap) →
        Raises remote.2 .transport "server returned HTTP 500: Internal Server Error") ∧
      (server.store.IsSoundFor server.disk command →
        ∀ mishap, after.result ≠ .error (.mishap mishap))) ∧
    (¬ command.IsWellFormed → remote.1 = server ∧ ∃ rest,
      Raises remote.2 .invalidOperation ("request rejected by server" ++ rest)) := by
  intro after remote
  refine ⟨fun hgood => ?_, fun hbad => ?_⟩
  · have hend : remote = (⟨after.disk, after.store⟩, told after.result) :=
      execute_wellFormed hreaches server hgood
    rw [hend]
    refine ⟨endpoint_fieldsRequest command.kind _, read_wellFormed hgood, rfl, told_eq_ok_iff,
      told_faithful_iff, fun mishap hmishap => ?_, Store.IsSoundFor.noMishap⟩
    exact raises_told_iff.2 (.inr ⟨⟨mishap, hmishap⟩, rfl, rfl⟩)
  · rcases Form.decides_command command with ⟨hgood, -⟩ | ⟨-, first, rest, hform, hall⟩
    · exact (hbad hgood).elim
    · have hread := read_commandRequest command
      rw [hform] at hread
      have hend : remote = (server,
          .error (.fault (.rejected (.array ((first :: rest).map Problem.toJson))))) := by
        rw [← readDone_problems hall]
        change client.execute server command = _
        rw [execute_eq hreaches, handle_commandRequest, hread]
      rw [hend]
      exact ⟨rfl, _, _, rfl, rfl, message_rejected _⟩

/-- By way of the server of a test, a section below a root that is not there is refused as the
store refuses it, and a section without a place is refused before that. -/
theorem execute_transparent_refused :
    let client : Client := ⟨"http://testserver", { scheme := "http", host := "testserver" }⟩
    let server : Server := ⟨.empty, .tables ⟨.empty, none, none⟩⟩
    client.reaches = true ∧
      Raises (client.execute server (.createSection "ghost" ["x"])).2 .notFound
        "root 'ghost' was not found" ∧
      ∃ rest, Raises (client.execute server (.createSection "ghost" [])).2 .invalidOperation
        ("request rejected by server" ++ rest) := by
  intro client server
  have hreaches : client.reaches = true := by decide +kernel
  have hplaced := execute_transparent hreaches server (.createSection "ghost" ["x"])
  have hunplaced := execute_transparent hreaches server (.createSection "ghost" [])
  obtain ⟨-, -, -, -, hraises, -, hsound⟩ := hplaced.1 (by decide)
  obtain ⟨-, hrejected⟩ := hunplaced.2 (by decide)
  have hnone := hsound ⟨Tables.isSound_empty, rfl, by decide⟩
  exact ⟨hreaches, (hraises.2 hnone _ _).2 ⟨.rootMissing "ghost", rfl, rfl, rfl⟩, hrejected⟩

/-- Tables with a section to be moved and one that it could move to.  Two sections stand below the
first, whose names differ behind a null character only. -/
def narrows : TableStore :=
  TableStore.run ⟨.empty, none, none⟩
    [.createRoot "r", .createSection "r" ["a"], .createSection "r" ["a", "x\x00y"],
     .createSection "r" ["a", "x\x00z"], .createSection "r" ["d"]]

/-- The rule of the tables that a result says is broken. -/
def brokenRule? : Except Failure Unit → Option Constraint
  | .error (.mishap (.broken rule)) => some rule
  | _ => none

/-- A broken rule is a mishap. -/
theorem eq_broken_of_brokenRule? {result : Except Failure Unit} {rule : Constraint}
    (h : brokenRule? result = some rule) : result = .error (.mishap (.broken rule)) := by
  unfold brokenRule? at h
  split at h
  · cases h
    rfl
  · cases h

/-- The move is well formed, and it breaks a rule of the tables.  This is no fault, and the client
raises one all the same. -/
theorem move_breaks_rule :
    let client : Client := ⟨"http://testserver", { scheme := "http", host := "testserver" }⟩
    let server : Server := ⟨.empty, .tables narrows⟩
    let command : Command := .move "r" ["a"] ["d"]
    let after := server.store.execute server.disk command
    let remote := client.execute server command
    command.IsWellFormed ∧ after.result = .error (.mishap (.broken .uniquePath)) ∧
      Raises remote.2 .transport "server returned HTTP 500: Internal Server Error" ∧
      ¬ ∀ kind message, Raises remote.2 kind message ↔ Raises after.result kind message := by
  intro client server command after remote
  have hreaches : client.reaches = true := by decide +kernel
  have hgood : command.IsWellFormed := by decide
  have hmishap : after.result = .error (.mishap (.broken .uniquePath)) :=
    eq_broken_of_brokenRule? (by decide +kernel)
  have hend : remote = (⟨after.disk, after.store⟩, told after.result) :=
    execute_wellFormed hreaches server hgood
  refine ⟨hgood, hmishap, ?_, ?_⟩
  · rw [hend]
    exact raises_told_iff.2 (.inr ⟨⟨_, hmishap⟩, rfl, rfl⟩)
  · rw [hend]
    exact fun hsame => told_faithful_iff.1 hsame _ hmishap

end Client

end TaskTree
