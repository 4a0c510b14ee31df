import TaskTree.Proofs.Client.Command
import TaskTree.Proofs.Store.Reading

/-!
# Queries by way of a server

A client asks for a node with the text of its path, out of which the server reads the path again
(`query_nodeRequest`).  What the store finds there is written as an object, and reading the object
gives a node that looks like it (`readNode_nodeResponse`).  A node that is nested too deeply to
be written is all that gets lost on the way (`get_eq`), so a query by way of a server comes to what
the same query comes to at its store, but for these nodes (`query_transparent`), and there are such
nodes (`deep_node_lost`).
-/

namespace TaskTree

namespace Client

variable {client : Client} {server : Server} {root : String} {path : Path}

/-! Asking for a node. -/

/-- The server reads the path that was asked for, without its empty names. -/
theorem query_nodeRequest (hroot : root ≠ "")
    (hpath : ∀ segment ∈ path, Path.separator ∉ segment.toList) :
    Form.query (nodeRequest root path).params = .ok (root, path.clean) := by
  have hparse := Path.parse_format_clean hpath
  by_cases hclean : path.clean = []
  · have hempty : Path.parse "" = [] := rfl
    simp [nodeRequest, hclean, Form.query, Named.ofPairs, Named.insert, Named.find?, hempty]
  · simp [nodeRequest, hclean, Form.query, Named.ofPairs, Named.insert, Named.find?, hparse]

/-- The server answers the request for a node with what its store holds there. -/
theorem handle_nodeRequest (server : Server) (hroot : root ≠ "")
    (hpath : ∀ segment ∈ path, Path.separator ∉ segment.toList) :
    server.handle (nodeRequest root path) = (server,
      match server.store.get root path.clean with
      | .ok node? => Server.nodeResponse node?
      | .error failure => Server.ofFailure failure) := by
  have hendpoint : Server.endpoint (nodeRequest root path) = .ok .graph := rfl
  have hform := query_nodeRequest hroot hpath
  cases hget : server.store.get root path.clean with
  | error failure => simp only [Server.handle, hendpoint, Server.answerQuery, hform, hget]
  | ok node? => simp only [Server.handle, hendpoint, Server.answerQuery, hform, hget]

/-! Reading the response. -/

/-- What keeps the response to a command from being read keeps any response from it. -/
theorem payload_of_readDone {response : Response} {failure : Failure}
    (h : readDone response = .error failure) : payload response = .error failure := by
  unfold readDone at h
  cases hpayload : payload response with
  | error failure' =>
    rw [hpayload] at h
    cases h
    rfl
  | ok carried =>
    rw [hpayload] at h
    cases h

/-- A response that reports a failure is read as that failure, also where a node was asked for. -/
theorem readNode_refused {response : Response} {failure : Failure}
    (h : readDone response = .error failure) : readNode response = .error failure := by
  simp only [readNode, payload_of_readDone h]

/-- A node that is told is read as one that looks like it. -/
theorem readNode_nodeResponse {node : Node} (hnamed : node.WellNamed)
    (hdepth : node.depth ≤ Server.answerDepth) :
    readNode (Server.nodeResponse (some node)) = .ok (some node.canonical) := by
  have hread : Node.ofJson node.toJson = .ok node.canonical :=
    Node.ofJsonAt_toJson hnamed (Nat.lt_of_le_of_lt hdepth (by decide))
  have hnode : nodeOf (some node.toJson) = .ok (some node.canonical) := by
    obtain ⟨members, hmembers⟩ : ∃ members, node.toJson = .object members := by
      cases node <;> exact ⟨_, rfl⟩
    rw [hmembers] at hread ⊢
    simp only [nodeOf, hread]
  have hcarried : payload (Response.ok (.object [("item", node.toJson)])) =
      .ok (some (.object [("item", node.toJson)])) := rfl
  have hmember : memberOf "item" (some (.object [("item", node.toJson)])) =
      .ok (some node.toJson) := rfl
  simp only [Server.nodeResponse, if_pos hdepth, readNode, hcarried, hmember, hnode]

/-- What a client learns of what a store has found. -/
def shown : Except Failure (Option Node) → Except Failure (Option Node)
  | .ok none => .ok none
  | .ok (some node) =>
    if node.depth ≤ Server.answerDepth then .ok (some node.canonical)
    else .error (.fault (.unexpectedStatus 500 "Internal Server Error"))
  | .error (.fault fault) => .error (.fault (.reported fault.kind fault.message))
  | .error (.mishap _) => .error (.fault (.unexpectedStatus 500 "Internal Server Error"))

variable {result : Except Failure (Option Node)}

/-- A node is shown exactly when one is found that is shallow enough to answer with, and then in
order. -/
theorem shown_eq_some_iff {found : Node} : shown result = .ok (some found) ↔
    ∃ node, result = .ok (some node) ∧ node.depth ≤ Server.answerDepth ∧
      found = node.canonical := by
  constructor
  · intro h
    match result with
    | .ok none => cases h
    | .error (.fault fault) => cases h
    | .error (.mishap mishap) => cases h
    | .ok (some node) =>
      rw [shown] at h
      split at h
      · next hdepth =>
        cases h
        exact ⟨node, rfl, hdepth, rfl⟩
      · cases h
  · intro hfound
    obtain ⟨node, rfl, hdepth, rfl⟩ := hfound
    exact if_pos hdepth

/-- Nothing is shown exactly when nothing is found. -/
theorem shown_eq_none_iff : shown result = .ok none ↔ result = .ok none := by
  match result with
  | .ok none => exact iff_of_true rfl rfl
  | .error (.fault fault) => exact iff_of_false nofun nofun
  | .error (.mishap mishap) => exact iff_of_false nofun nofun
  | .ok (some node) =>
    rw [shown]
    split
    · exact iff_of_false nofun nofun
    · exact iff_of_false nofun nofun

/-- A client raises what its store raises, and a failure of the server that answers. -/
theorem raises_shown_iff {kind : FaultKind} {message : String} :
    Raises (shown result) kind message ↔ Raises result kind message ∨
      (((∃ mishap, result = .error (.mishap mishap)) ∨
          ∃ node, result = .ok (some node) ∧ Server.answerDepth < node.depth) ∧
        kind = .transport ∧ message = "server returned HTTP 500: Internal Server Error") := by
  constructor
  · intro hraises
    obtain ⟨raised, hshown, rfl, rfl⟩ := hraises
    match result with
    | .ok none => cases hshown
    | .error (.fault fault) =>
      cases hshown
      exact .inl ⟨fault, rfl, rfl, rfl⟩
    | .error (.mishap mishap) =>
      cases hshown
      exact .inr ⟨.inl ⟨mishap, rfl⟩, rfl, rfl⟩
    | .ok (some node) =>
      rw [shown] at hshown
      split at hshown
      · cases hshown
      · next hdepth =>
        cases hshown
        exact .inr ⟨.inr ⟨node, rfl, Nat.lt_of_not_le hdepth⟩, rfl, rfl⟩
  · intro hends
    rcases hends with ⟨fault, rfl, rfl, rfl⟩ | ⟨⟨mishap, rfl⟩ | ⟨node, rfl, hdepth⟩, rfl, rfl⟩
    · exact ⟨_, rfl, rfl, rfl⟩
    · exact ⟨_, rfl, rfl, rfl⟩
    · exact ⟨_, if_neg (Nat.not_le_of_lt hdepth), rfl, rfl⟩

/-- **Asking for a node.**  The server stays as it was, and what it tells is read as what its
store has found. -/
theorem get_eq (hnamed : server.store.IsWellNamed) (hroot : root ≠ "")
    (hpath : ∀ segment ∈ path, Path.separator ∉ segment.toList)
    (hcarried : client.carries (nodeRequest root path) = true) :
    client.get server root path = (server, shown (server.store.get root path)) := by
  have hclean : server.store.get root path.clean = server.store.get root path := by
    cases server.store <;> simp only [Store.get, Session.get, Tables.get, Path.clean_clean]
  rw [Client.get, ask_eq hcarried, handle_nodeRequest server hroot hpath, hclean]
  simp only
  cases hfound : server.store.get root path with
  | error failure =>
    cases failure with
    | fault fault => exact Prod.ext rfl (readNode_refused (readDone_ofFault fault))
    | mishap mishap => exact Prod.ext rfl (readNode_refused readDone_lost)
  | ok node? =>
    cases node? with
    | none => rfl
    | some node =>
      simp only [shown]
      split
      · next hdepth => rw [readNode_nodeResponse (hnamed.get hfound) hdepth]
      · next hdepth =>
        rw [Server.nodeResponse, if_neg hdepth, readNode_refused readDone_lost]

/-! Asking for the roots. -/

/-- The names that are told are read as they are, unless there are none. -/
theorem readRoots_rootsResponse (store : Store) :
    readRoots (Server.rootsResponse store.roots?) = .ok (store.roots?.map Json.ofStrings) := by
  have hcarried : ∀ names, payload (Server.rootsResponse names) =
      .ok (some (.object [("roots", .ofStrings (names.getD []))])) := fun _ => rfl
  have hmember : ∀ v, memberOf "roots" (some (.object [("roots", v)])) = .ok (some v) :=
    fun _ => rfl
  simp only [readRoots, hcarried, hmember]
  cases hroots : store.roots? with
  | none => rfl
  | some names =>
    cases names with
    | nil => exact absurd hroots store.roots?_ne_nil
    | cons name rest => rfl

/-- A client that reaches the server is told the roots of its store. -/
theorem roots?_carried (hcarried : client.carries rootsRequest = true) (server : Server) :
    client.roots? server = (server, .ok (server.store.roots?.map Json.ofStrings)) := by
  have hhandle : server.handle rootsRequest = (server, Server.rootsResponse server.store.roots?) :=
    rfl
  rw [Client.roots?, ask_eq hcarried, hhandle, readRoots_rootsResponse]

/-- **A query by way of a server.**  The server stays as it was, and the client comes to what the
store comes to: it returns a node that looks like the one that is found, nothing exactly if
nothing is found, and it raises a fault of some kind with some message if the store does.  Only
where the store has a mishap, or finds a node that is nested too deeply to be written, the client
learns no more than that the server has failed.  Whatever is told is read: neither the store nor the
client ever fails to parse a node.  The roots are the same, and there is nothing to tell exactly if
there are none.

The store has to hold texts, as it does after any commands (`Store.holdsTexts_run`).  A row that was
put there by hand, with another value for a title, could not be told as a node. -/
theorem query_transparent (hnamed : server.store.IsWellNamed)
    (htexts : server.store.HoldsTexts) (hroot : root ≠ "")
    (hpath : ∀ segment ∈ path, Path.separator ∉ segment.toList)
    (hnode : client.carries (nodeRequest root path) = true)
    (hroots : client.carries rootsRequest = true) :
    let direct := server.store.get root path
    let remote := client.get server root path
    remote.1 = server ∧
    (∀ node, direct = .ok (some node) → node.depth ≤ Server.answerDepth →
      ∃ found, remote.2 = .ok (some found) ∧ Node.Alike found node) ∧
    (∀ found, remote.2 = .ok (some found) →
      ∃ node, direct = .ok (some node) ∧ Node.Alike found node) ∧
    (remote.2 = .ok none ↔ direct = .ok none) ∧
    (∀ kind message, Raises remote.2 kind message ↔ Raises direct kind message ∨
      (((∃ mishap, direct = .error (.mishap mishap)) ∨
          ∃ node, direct = .ok (some node) ∧ Server.answerDepth < node.depth) ∧
        kind = .transport ∧ message = "server returned HTTP 500: Internal Server Error")) ∧
    (∀ message, ¬ Raises remote.2 .parse message) ∧
    client.roots? server = (server, .ok (server.store.roots?.map Json.ofStrings)) ∧
    (server.store.roots? = none ↔ server.store.rootNames = []) := by
  intro direct remote
  have hremote : remote = (server, shown direct) := get_eq hnamed hroot hpath hnode
  rw [hremote]
  refine ⟨rfl, fun node hfound hdepth => ?_, fun found hread => ?_, shown_eq_none_iff,
    fun kind message => raises_shown_iff, fun message hraises => ?_, roots?_carried hroots server,
    server.store.roots?_eq_none_iff⟩
  · exact ⟨node.canonical, shown_eq_some_iff.2 ⟨node, hfound, hdepth, rfl⟩,
      Node.canonical_alike (hnamed.get hfound)⟩
  · obtain ⟨node, hfound, -, rfl⟩ := shown_eq_some_iff.1 hread
    exact ⟨node, hfound, Node.canonical_alike (hnamed.get hfound)⟩
  · rcases raises_shown_iff.1 hraises with ⟨fault, hfault, hparse, -⟩ | ⟨-, hparse, -⟩
    · exact htexts.get hfault hparse
    · cases hparse

/-- By way of the server of a test, the section below a root is found under a path with an empty
name in it, and nothing where nothing is. -/
theorem query_transparent_found :
    let client : Client := ⟨"http://testserver", { scheme := "http", host := "testserver" }⟩
    let graph : Graph :=
      [("r", .branch .user [("b", .leaf ⟨"b", "", .done⟩), ("a", .emptySection)])]
    let server : Server :=
      ⟨.empty, .file ⟨⟨⟨.root, []⟩, 60, none⟩, graph, .withCapacity 0⟩⟩
    (∃ found, (client.get server "r" ["", "a"]).2 = .ok (some found) ∧
      Node.Alike found .emptySection) ∧
    (client.get server "r" ["c"]).2 = .ok none ∧
    (client.roots? server).2 = .ok (some (.ofStrings ["r"])) := by
  intro client graph server
  have hnamed : server.store.IsWellNamed := by
    refine ⟨by decide, fun entry hentry => ?_⟩
    obtain rfl := List.mem_singleton.1 hentry
    refine .branch (by decide) (by decide) fun child hchild => ?_
    rcases List.mem_pair.1 hchild with rfl | rfl
    · exact .leaf _
    · exact .branch List.nodup_nil List.not_mem_nil fun _ hnone => by cases hnone
  have htexts : server.store.HoldsTexts := trivial
  have hroots : client.carries rootsRequest = true := by decide +kernel
  obtain ⟨-, hfound, -, -, -, -, htold, -⟩ := @query_transparent client server "r" ["", "a"] hnamed
    htexts (by decide) (by decide) (by decide +kernel) hroots
  obtain ⟨-, -, -, hnothing, -⟩ := @query_transparent client server "r" ["c"] hnamed
    htexts (by decide) (by decide) (by decide +kernel) hroots
  have hnames : server.store.roots? = some ["r"] := by
    simp [server, graph, Store.roots?, Session.roots?, Graph.roots?, Named.names]
  refine ⟨hfound .emptySection rfl (by decide), hnothing.2 rfl, ?_⟩
  rw [htold, hnames]
  rfl

/-! Nodes that are nested too deeply. -/

/-- Tables with a root and `n` sections below it, each below the one before it. -/
def shaft : Nat → TableStore
  | 0 => ((⟨.empty, none, none⟩ : TableStore).execute (.createRoot "r")).1
  | n + 1 => ((shaft n).execute (.createSection "r" (List.replicate (n + 1) "x"))).1

/-- What is seen of sound tables that can be written, after a plain command. -/
theorem view_after {store : TableStore} (hsound : store.tables.IsSound)
    (hwritable : store.isReadOnly = false) {command : Command} (hplain : command.IsPlain) :
    (store.execute command).1.tables.IsSound ∧ (store.execute command).1.isReadOnly = false ∧
      (store.execute command).1.tables.view = store.tables.view.after command := by
  obtain ⟨htables, -, hkept⟩ := TableStore.execute_writable hwritable command
  rw [htables]
  obtain ⟨hsound', hview⟩ := hsound.execute hplain
  exact ⟨hsound', hkept, hview⟩

/-- A shaft is sound and writable, and goes down as far as it is asked to. -/
theorem shaft_spec (n : Nat) : (shaft n).tables.IsSound ∧ (shaft n).isReadOnly = false ∧
    ((shaft n).tables.view "r").IsBranchAt (List.replicate n "x") := by
  induction n with
  | zero =>
    have hplain : (.createRoot "r" : Command).IsPlain := trivial
    obtain ⟨hsound, hwritable, hview⟩ :=
      @view_after ⟨.empty, none, none⟩ Tables.isSound_empty rfl _ hplain
    refine ⟨hsound, hwritable, .user, ?_⟩
    change Tables.view (TableStore.execute _ _).1.tables "r" [] = _
    rw [hview, Graph.View.after, Graph.View.added]
    rfl
  | succ n ih =>
    obtain ⟨hsound, hwritable, hunder⟩ := ih
    have hlegal : Path.IsLegal "x" := by decide
    have hplain : (.createSection "r" (List.replicate (n + 1) "x") : Command).IsPlain := by
      intro segment hmem
      rw [List.eq_of_mem_replicate hmem]
      decide
    have hcan : List.replicate (n + 1) "x" ≠ [] ∧
        (∀ segment ∈ List.replicate (n + 1) "x", Path.IsLegal segment) ∧
        ((shaft n).tables.view "r").IsBranchAt (List.replicate (n + 1) "x").dropLast := by
      refine ⟨List.cons_ne_nil _ _, fun segment hmem => ?_, ?_⟩
      · rw [List.eq_of_mem_replicate hmem]
        exact hlegal
      · rwa [List.dropLast_replicate, Nat.add_sub_cancel]
    obtain ⟨hsound', hwritable', hview⟩ := view_after hsound hwritable hplain
    refine ⟨hsound', hwritable', .group, ?_⟩
    change Tables.view (TableStore.execute _ _).1.tables "r" _ = _
    rw [hview, Graph.View.after, Graph.put_same, Node.View.created, if_pos hcan, Node.graft_path]
    rfl

/-- In a shaft there is a node that is at least as deep as the shaft. -/
theorem get_shaft (n : Nat) :
    ∃ node, (shaft n).tables.get "r" [] = .ok (some node) ∧ n ≤ node.depth := by
  obtain ⟨hsound, -, kind, hbranch⟩ := shaft_spec n
  obtain ⟨node?, hget, hseen⟩ := hsound.get "r" []
  have hbottom := hseen (List.replicate n "x")
  change _ = (shaft n).tables.view "r" (List.replicate n "x") at hbottom
  rw [hbranch] at hbottom
  cases node? with
  | none => cases hbottom
  | some node =>
    have hthere : (node.view (List.replicate n "x")).isSome := by
      rw [show node.view (List.replicate n "x") = some (.branch kind) from hbottom]
      rfl
    have hdepth := Node.length_le_depth hthere
    rw [List.length_replicate] at hdepth
    exact ⟨node, hget, hdepth⟩

/-- A node that its store finds, but that is nested too deeply to come by way of the server. -/
theorem deep_node_lost :
    let client : Client := ⟨"http://testserver", { scheme := "http", host := "testserver" }⟩
    let server : Server := ⟨.empty, .tables (shaft 300)⟩
    ∃ node, server.store.get "r" [] = .ok (some node) ∧
      ¬ (∃ found, (client.get server "r" []).2 = .ok (some found) ∧ Node.Alike found node) ∧
      Raises (client.get server "r" []).2 .transport
        "server returned HTTP 500: Internal Server Error" := by
  intro client server
  obtain ⟨node, hfound, hdeep⟩ := get_shaft 300
  have hnode : server.store.get "r" [] = .ok (some node) := hfound
  have hremote := @get_eq client server "r" [] trivial (by decide) (by simp) (by decide +kernel)
  have hlost : ¬ node.depth ≤ Server.answerDepth := by
    unfold Server.answerDepth
    omega
  rw [hnode, shown, if_neg hlost] at hremote
  refine ⟨node, hnode, ?_, ?_⟩
  · rw [hremote]
    rintro ⟨found, hread, -⟩
    cases hread
  · rw [hremote]
    exact ⟨_, rfl, rfl, rfl⟩

end Client

end TaskTree
