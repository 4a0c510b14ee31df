import TaskTree.Proofs.Client.Command

/-!
# Any answer of a server

A server can answer anything: with any status, and with any bytes for a body.  A client reads what
it gets as a result or as a fault, and a reply that there is no response is a fault of the way
there.

Some responses end in a mishap instead (`Response.IsGarbled`).  A body of success is taken for JSON,
and the body of a failure for one that names its kind of fault, if it names any, by something that
can be looked up.  What answers a query is also taken for an object, unless it counts as nothing
(`Response.IsBare`).  There are no other mishaps (`answer_mishap_iff`).
-/

namespace TaskTree

/-- An array or an object that holds something. -/
def Json.IsFilled (v : Json) : Prop :=
  v.isVoid = false ∧ ((∃ elements, v = .array elements) ∨ ∃ members, v = .object members)

/-- Responses that a client makes nothing of. -/
inductive Response.IsGarbled (response : Response) : Prop where
  /-- The response tells of success, and has a body that is no JSON. -/
  | unread (success : response.isSuccess = true) (sent : response.body.isEmpty = false)
      (unread : ∀ v, response.body.read ≠ .ok v)
  /-- The response tells of a failure, in JSON that is nested too deeply. -/
  | deep (failed : response.isSuccess = false) {text : List Char} {nesting : Json.Nesting}
      (refused : response.body.read = .error (.refused text (.deep nesting)))
  /-- The response tells of a failure whose kind is a whole array or object.  The problems of a
  request, which are no text, are told of without a kind. -/
  | oddKind (failed : response.isSuccess = false) {v kind : Json}
      (read : response.body.read = .ok v) (named : v.member? "error" = some kind)
      (filled : kind.IsFilled)
      (told : response.status = 422 → ∃ message, v.member? "detail" = some (.string message))

/-- A response of success that carries something, which is no object. -/
structure Response.IsBare (response : Response) : Prop where
  success : response.isSuccess = true
  sent : response.body.isEmpty = false
  carries : ∃ v, response.body.read = .ok v ∧ v.isVoid = false ∧ ∀ members, v ≠ .object members

/-- A result is a mishap. -/
def EndsInMishap {α : Type} (result : Except Failure α) : Prop :=
  ∃ mishap, result = .error (.mishap mishap)

/-- A failure ends in a mishap exactly when it is one. -/
theorem endsInMishap_error_iff {α : Type} {failure : Failure} :
    EndsInMishap (.error failure : Except Failure α) ↔ ∃ mishap, failure = .mishap mishap := by
  constructor
  · rintro ⟨mishap, h⟩
    exact ⟨mishap, Except.error.inj h⟩
  · rintro ⟨mishap, rfl⟩
    exact ⟨mishap, rfl⟩

/-- A result is no mishap. -/
theorem not_endsInMishap_ok {α : Type} {a : α} : ¬ EndsInMishap (.ok a : Except Failure α) := by
  rintro ⟨mishap, h⟩
  cases h

/-- A typed fault is no mishap. -/
theorem fault_not_mishap (fault : Fault) : ¬ ∃ mishap, Failure.fault fault = .mishap mishap := by
  rintro ⟨mishap, h⟩
  cases h

namespace Client

variable {response : Response}

/-! Failures that are told of. -/

/-- The kinds that cannot be looked up are the filled ones. -/
theorem kindOfJson_cases (kind : Json) :
    (kind.IsFilled ∧ kindOfJson kind = .error (.notHashable kind)) ∨
      ¬ kind.IsFilled ∧ ∃ known, kindOfJson kind = .ok known := by
  have hplain : (∀ elements, kind ≠ .array elements) → (∀ members, kind ≠ .object members) →
      ¬ kind.IsFilled := by
    rintro harray hobject ⟨-, ⟨elements, helements⟩ | ⟨members, hmembers⟩⟩
    · exact harray elements helements
    · exact hobject members hmembers
  have hvoid : kind.isVoid = true → ¬ kind.IsFilled := by
    rintro hvoid ⟨hfilled, -⟩
    cases hvoid.symm.trans hfilled
  cases kind with
  | array elements =>
    by_cases h : (Json.array elements).isVoid = true
    · exact .inr ⟨hvoid h, .general, if_pos h⟩
    · exact .inl ⟨⟨Bool.eq_false_iff.2 h, .inl ⟨elements, rfl⟩⟩, if_neg h⟩
  | object members =>
    by_cases h : (Json.object members).isVoid = true
    · exact .inr ⟨hvoid h, .general, if_pos h⟩
    · exact .inl ⟨⟨Bool.eq_false_iff.2 h, .inr ⟨members, rfl⟩⟩, if_neg h⟩
  | null => exact .inr ⟨hplain nofun nofun, _, rfl⟩
  | bool b => exact .inr ⟨hplain nofun nofun, _, rfl⟩
  | int n => exact .inr ⟨hplain nofun nofun, _, rfl⟩
  | float x => exact .inr ⟨hplain nofun nofun, _, rfl⟩
  | string w => exact .inr ⟨hplain nofun nofun, _, rfl⟩

/-- A detail has no text exactly when it is no string. -/
theorem string?_eq_none_iff {detail : Option Json} :
    (detail.getD .null).string? = none ↔ ¬ ∃ message, detail = some (.string message) := by
  constructor
  · rintro hnone ⟨message, rfl⟩
    cases hnone
  · intro hnot
    cases detail with
    | none => rfl
    | some v =>
      cases v with
      | string message => exact (hnot ⟨message, rfl⟩).elim
      | _ => rfl

/-- The fault that a value tells of is a mishap if its kind cannot be looked up. -/
theorem faultOf_of_body {v : Json} (hbody : faultBody response.body = .ok v) :
    (∃ mishap, faultOf response = .mishap mishap) ↔
      ∃ kind, v.member? "error" = some kind ∧ kind.IsFilled ∧
        (response.status = 422 → ∃ message, v.member? "detail" = some (.string message)) := by
  simp only [faultOf, hbody]
  by_cases hproblems : response.status = 422 ∧ ((v.member? "detail").getD .null).string? = none
  · rw [if_pos hproblems]
    refine iff_of_false (fault_not_mishap _) ?_
    rintro ⟨kind, -, -, htold⟩
    exact string?_eq_none_iff.1 hproblems.2 (htold hproblems.1)
  · rw [if_neg hproblems]
    have htold (hstatus : response.status = 422) :
        ∃ message, v.member? "detail" = some (.string message) :=
      Classical.byContradiction fun hnot => hproblems ⟨hstatus, string?_eq_none_iff.2 hnot⟩
    cases hkind : v.member? "error" with
    | none =>
      refine iff_of_false (fault_not_mishap _) ?_
      rintro ⟨kind, hkind, -⟩
      cases hkind
    | some kind =>
      rcases kindOfJson_cases kind with ⟨hfilled, hlook⟩ | ⟨hplain, known, hlook⟩
      · refine iff_of_true ⟨.notHashable kind, ?_⟩ ⟨kind, rfl, hfilled, htold⟩
        rw [Option.getD_some]
        split
        · next hnull => cases hfilled.1
        · rw [hlook]
      · refine iff_of_false ?_ ?_
        · rw [Option.getD_some]
          split
          · exact fault_not_mishap _
          · rw [hlook]
            exact fault_not_mishap _
        · rintro ⟨other, hother, hfilled, -⟩
          cases hother
          exact hplain hfilled

/-- The value that a failure tells of, or that its body is nested too deeply. -/
theorem faultBody_cases (body : Body) :
    (∃ text nesting, body.read = .error (.refused text (.deep nesting)) ∧
        faultBody body = .error (.textTooDeep nesting)) ∨
      (∃ v, body.read = .ok v ∧ faultBody body = .ok v) ∨
      ((∀ v, body.read ≠ .ok v) ∧
        (∀ text nesting, body.read ≠ .error (.refused text (.deep nesting))) ∧
        faultBody body = .ok (.object [])) := by
  unfold faultBody
  cases hread : body.read with
  | ok v => exact .inr (.inl ⟨v, rfl, rfl⟩)
  | error unread =>
    cases unread with
    | undecodable fault => exact .inr (.inr ⟨nofun, nofun, rfl⟩)
    | refused text refusal =>
      cases refusal with
      | deep nesting => exact .inl ⟨text, nesting, rfl, rfl⟩
      | malformed defect rest => exact .inr (.inr ⟨nofun, nofun, rfl⟩)
      | longInteger count => exact .inr (.inr ⟨nofun, nofun, rfl⟩)

/-- What a failure tells of is a mishap exactly if the response is garbled. -/
theorem faultOf_mishap_iff (hfailed : response.isSuccess = false) :
    (∃ mishap, faultOf response = .mishap mishap) ↔ response.IsGarbled := by
  rcases faultBody_cases response.body with ⟨text, nesting, hread, hbody⟩ | ⟨v, hread, hbody⟩ |
      ⟨hunread, hshallow, hbody⟩
  · refine iff_of_true ⟨.textTooDeep nesting, ?_⟩ (.deep hfailed hread)
    simp only [faultOf, hbody]
  · rw [faultOf_of_body hbody]
    constructor
    · rintro ⟨kind, hnamed, hfilled, htold⟩
      exact .oddKind hfailed hread hnamed hfilled htold
    · intro hgarbled
      cases hgarbled with
      | unread success => cases hfailed.symm.trans success
      | deep _ refused => cases hread.symm.trans refused
      | oddKind _ read named filled told =>
        cases hread.symm.trans read
        exact ⟨_, named, filled, told⟩
  · rw [faultOf_of_body hbody]
    have hnone : ¬ ∃ kind, (Json.object []).member? "error" = some kind ∧ kind.IsFilled ∧
        (response.status = 422 →
          ∃ message, (Json.object []).member? "detail" = some (.string message)) := by
      rintro ⟨kind, hkind, -⟩
      cases hkind
    refine iff_of_false hnone fun hgarbled => ?_
    cases hgarbled with
    | unread success => cases hfailed.symm.trans success
    | deep _ refused => exact hshallow _ _ refused
    | oddKind _ read => exact hunread _ read

/-! What is carried. -/

/-- Reading a response ends in a mishap exactly when it is garbled. -/
theorem payload_mishap_iff : EndsInMishap (payload response) ↔ response.IsGarbled := by
  unfold payload
  by_cases hsuccess : response.isSuccess = true
  · rw [if_pos hsuccess]
    by_cases hempty : response.body.isEmpty = true
    · rw [if_pos hempty]
      refine iff_of_false not_endsInMishap_ok fun hgarbled => ?_
      cases hgarbled with
      | unread _ sent => cases hempty.symm.trans sent
      | deep failed => cases hsuccess.symm.trans failed
      | oddKind failed => cases hsuccess.symm.trans failed
    · rw [if_neg hempty]
      cases hread : response.body.read with
      | ok v =>
        refine iff_of_false not_endsInMishap_ok fun hgarbled => ?_
        cases hgarbled with
        | unread _ _ unread => exact unread v hread
        | deep failed => cases hsuccess.symm.trans failed
        | oddKind failed => cases hsuccess.symm.trans failed
      | error unread =>
        have hunread (v : Json) : response.body.read ≠ .ok v := fun hok => by
          cases hread.symm.trans hok
        exact iff_of_true ⟨.ofUnread unread, rfl⟩
          (.unread hsuccess (Bool.eq_false_iff.2 hempty) hunread)
  · have hfailed : response.isSuccess = false := Bool.eq_false_iff.2 hsuccess
    rw [if_neg hsuccess, ← faultOf_mishap_iff hfailed, endsInMishap_error_iff]

/-- A response carries a value exactly when it is a success whose body reads as that value. -/
theorem payload_eq_some_iff {v : Json} :
    payload response = .ok (some v) ↔
      response.isSuccess = true ∧ response.body.isEmpty = false ∧ response.body.read = .ok v := by
  unfold payload
  by_cases hsuccess : response.isSuccess = true
  · by_cases hempty : response.body.isEmpty = true
    · rw [if_pos hsuccess, if_pos hempty]
      constructor
      · intro h
        cases h
      · rintro ⟨-, hsent, -⟩
        cases hempty.symm.trans hsent
    · rw [if_pos hsuccess, if_neg hempty]
      cases hread : response.body.read with
      | ok found =>
        constructor
        · intro h
          cases h
          exact ⟨hsuccess, Bool.eq_false_iff.2 hempty, rfl⟩
        · rintro ⟨-, -, h⟩
          cases h
          rfl
      | error unread =>
        constructor
        · intro h
          cases h
        · rintro ⟨-, -, h⟩
          cases h
  · rw [if_neg hsuccess]
    constructor
    · intro h
      cases h
    · exact fun h => (hsuccess h.1).elim

/-- A member is looked for in objects, and in what counts as nothing. -/
theorem memberOf_mishap_iff {name : String} {carried : Option Json} :
    EndsInMishap (memberOf name carried) ↔
      ∃ v, carried = some v ∧ v.isVoid = false ∧ ∀ members, v ≠ .object members := by
  unfold memberOf
  split
  · refine iff_of_false not_endsInMishap_ok ?_
    rintro ⟨v, hv, -⟩
    cases hv
  · next members =>
    refine iff_of_false not_endsInMishap_ok ?_
    rintro ⟨v, hv, -, hbare⟩
    exact hbare members (Option.some.inj hv).symm
  · next v hbare =>
    split
    · next hvoid =>
      refine iff_of_false not_endsInMishap_ok ?_
      rintro ⟨other, hother, hsolid, -⟩
      cases hother
      cases hvoid.symm.trans hsolid
    · next hsolid =>
      exact iff_of_true ⟨_, rfl⟩
        ⟨v, rfl, Bool.eq_false_iff.2 hsolid, fun members heq => hbare members (heq ▸ rfl)⟩

/-- No member at all makes reading a node end in a mishap. -/
theorem nodeOf_not_mishap (item : Option Json) : ¬ EndsInMishap (nodeOf item) := by
  rintro ⟨mishap, hmishap⟩
  unfold nodeOf at hmishap
  split at hmishap
  · cases hmishap
  · cases hmishap
  · split at hmishap
    · cases hmishap
    · cases hmishap

/-- Learning that a command is done ends in a mishap exactly on a garbled response. -/
theorem readDone_mishap_iff : EndsInMishap (readDone response) ↔ response.IsGarbled := by
  rw [← payload_mishap_iff]
  unfold readDone
  cases payload response with
  | error failure => rw [endsInMishap_error_iff, endsInMishap_error_iff]
  | ok carried => exact iff_of_false not_endsInMishap_ok not_endsInMishap_ok

/-- Read a member of what a response carries. -/
def readMember {α : Type} (name : String) (finish : Option Json → Except Failure α)
    (response : Response) : Except Failure α :=
  match payload response with
  | .error failure => .error failure
  | .ok carried =>
    match memberOf name carried with
    | .error failure => .error failure
    | .ok member => finish member

/-- Reading a member ends in a mishap exactly on a garbled or a bare response. -/
theorem readMember_mishap_iff {α : Type} {name : String} {finish : Option Json → Except Failure α}
    (hfinish : ∀ member, ¬ EndsInMishap (finish member)) :
    EndsInMishap (readMember name finish response) ↔ response.IsGarbled ∨ response.IsBare := by
  have hgarbled : EndsInMishap (payload response) ↔ response.IsGarbled := payload_mishap_iff
  unfold readMember
  cases hpayload : payload response with
  | error failure =>
    have hbare : ¬ response.IsBare := by
      rintro ⟨hsuccess, hsent, v, hread, -⟩
      cases hpayload.symm.trans (payload_eq_some_iff.2 ⟨hsuccess, hsent, hread⟩)
    rw [hpayload, endsInMishap_error_iff] at hgarbled
    rw [endsInMishap_error_iff, hgarbled, or_iff_left hbare]
  | ok carried =>
    have hclear : ¬ response.IsGarbled := fun h => by
      rw [← hgarbled, hpayload] at h
      exact not_endsInMishap_ok h
    have hbare : response.IsBare ↔ EndsInMishap (memberOf name carried) := by
      rw [memberOf_mishap_iff]
      constructor
      · rintro ⟨hsuccess, hsent, v, hread, hsolid⟩
        have hcarried := payload_eq_some_iff.2 ⟨hsuccess, hsent, hread⟩
        exact ⟨v, Except.ok.inj (hpayload.symm.trans hcarried), hsolid⟩
      · rintro ⟨v, rfl, hsolid⟩
        obtain ⟨hsuccess, hsent, hread⟩ := payload_eq_some_iff.1 hpayload
        exact ⟨hsuccess, hsent, v, hread, hsolid⟩
    rw [or_iff_right hclear, hbare]
    cases hmember : memberOf name carried with
    | error failure => simp only [hmember, endsInMishap_error_iff]
    | ok member =>
      simp only [hmember]
      exact iff_of_false (hfinish member) not_endsInMishap_ok

/-- Reading a node ends in a mishap exactly on a garbled or a bare response. -/
theorem readNode_mishap_iff :
    EndsInMishap (readNode response) ↔ response.IsGarbled ∨ response.IsBare :=
  readMember_mishap_iff nodeOf_not_mishap

/-- Reading the roots ends in a mishap exactly on a garbled or a bare response. -/
theorem readRoots_mishap_iff :
    EndsInMishap (readRoots response) ↔ response.IsGarbled ∨ response.IsBare :=
  readMember_mishap_iff fun member : Option Json =>
    not_endsInMishap_ok (a := member.filter fun v => !v.isVoid)

/-! Replies. -/

/-- Hearing a reply ends in a mishap exactly when a response came that its reader cannot take. -/
theorem hear_mishap_iff {α : Type} {address : Address} (htype : address.hasType = true)
    (hbrackets : address.checkBrackets = .ok ()) {read : Response → Except Failure α}
    {Lost : Response → Prop} (hread : ∀ response, EndsInMishap (read response) ↔ Lost response)
    (client : Client) (reply : Reply) :
    EndsInMishap (client.hear address reply read) ↔
      ∃ response, reply = .response response ∧ Lost response := by
  cases reply with
  | unreachable reason =>
    constructor
    · rintro ⟨mishap, hmishap⟩
      cases hmishap
    · rintro ⟨response, hresponse, -⟩
      cases hresponse
  | response response =>
    rw [hear_response htype hbrackets, hread]
    constructor
    · exact fun hlost => ⟨response, rfl, hlost⟩
    · rintro ⟨_, hsame, hlost⟩
      cases hsame
      exact hlost

/-- **Which answers end in a mishap.**  Whatever comes back for a request that was sent, a command
returns or raises a fault, unless the response is garbled; so does a query, unless the response is
garbled or bare.  A reply that there is no response is always a fault. -/
theorem answer_mishap_iff (client : Client) {address : Address} (htype : address.hasType = true)
    (hbrackets : address.checkBrackets = .ok ()) (reply : Reply) :
    (EndsInMishap (client.hear address reply readDone) ↔
      ∃ response, reply = .response response ∧ response.IsGarbled) ∧
    (EndsInMishap (client.hear address reply readNode) ↔
      ∃ response, reply = .response response ∧ (response.IsGarbled ∨ response.IsBare)) ∧
    (EndsInMishap (client.hear address reply readRoots) ↔
      ∃ response, reply = .response response ∧ (response.IsGarbled ∨ response.IsBare)) ∧
    ∀ reason, reply = .unreachable reason → ∀ (α : Type) (read : Response → Except Failure α),
      client.hear address reply read = .error (.fault (.unreachable client.server reason)) := by
  refine ⟨hear_mishap_iff htype hbrackets (fun _ => readDone_mishap_iff) client reply,
    hear_mishap_iff htype hbrackets (fun _ => readNode_mishap_iff) client reply,
    hear_mishap_iff htype hbrackets (fun _ => readRoots_mishap_iff) client reply, ?_⟩
  rintro reason rfl α read
  rfl

/-- A greeting of success is garbled. -/
theorem isGarbled_greeting : Response.IsGarbled ⟨200, .text "hello"⟩ := by
  have hread : Body.read (.text "hello") = .error (.refused "hello".toList
      (.malformed .expectedValue "hello".toList)) := receive_encode (by decide) rfl
  refine .unread rfl rfl fun v hv => ?_
  cases hread.symm.trans hv

/-- A greeting of success ends a query for the roots in a mishap. -/
theorem answer_mishap_iff_greeting :
    let client : Client := ⟨"http://testserver", { scheme := "http", host := "testserver" }⟩
    let reply : Reply := .response ⟨200, .text "hello"⟩
    client.address.hasType = true ∧ client.address.checkBrackets = .ok () ∧
      EndsInMishap (client.hear client.address reply readRoots) := by
  intro client reply
  have htype : client.address.hasType = true := by decide +kernel
  have hbrackets : client.address.checkBrackets = .ok () := eq_ok_of_isOk (by decide +kernel)
  obtain ⟨-, -, hroots, -⟩ := answer_mishap_iff client htype hbrackets reply
  exact ⟨htype, hbrackets, hroots.2 ⟨_, rfl, .inl isGarbled_greeting⟩⟩

/-- **Answers that end in a mishap.**  A greeting of success is read as JSON, a list of roots that
is no object is asked for its members, and a list of kinds is looked up as a kind. -/
theorem answer_not_typed :
    EndsInMishap (readDone ⟨200, .text "hello"⟩) ∧
    EndsInMishap (readRoots ⟨200, .value (.array [.string "home"])⟩) ∧
    EndsInMishap (readDone ⟨400, .value (.object [("error", .array [.string "io"])])⟩) := by
  refine ⟨readDone_mishap_iff.2 isGarbled_greeting, readRoots_mishap_iff.2 (.inr ?_),
    readDone_mishap_iff.2 ?_⟩
  · exact ⟨rfl, rfl, _, rfl, rfl, nofun⟩
  · exact .oddKind rfl rfl rfl ⟨rfl, .inl ⟨_, rfl⟩⟩ nofun

end Client

end TaskTree
