import Kurrent.Persistent.Manage
import Kurrent.Persistent.Snapshot

/-!
# What a management call returns

The other half of the management calls: the answer. Over gRPC it is a response message or a
status (`commands.rs`), over HTTP a status code and a body that is read as JSON
(`http/mod.rs`, `http/persistent_subscriptions.rs`), a list in two passes: first the JSON as
a whole, then one entry after the other. `Finding` is what a server has to say; a server
says it in either form, and the caller should be told the same.
-/

namespace Kurrent

open Lib

/-! ## A response over HTTP -/

/-- What `send` gives: an error that may carry a status, or a response; its body is JSON or
there is a text that says why not. -/
inductive HttpReply where
  | sendError (status : Option Nat) (text : String)
  | response (status : Nat) (body : Except String Json)

/-- The error of a status that is not a success; `text` is that of a server error. -/
def errorOfHttpStatus (status : Nat) (text : String) : Error :=
  if status = 401 then .accessDenied
  else if status = 404 then .resourceNotFound
  else if 500 ≤ status ∧ status < 600 then .serverError text
  else .internalClientError

section

variable (debugReason : Nat → String) (display : DeError → String)

/-- `debugReason` prints the reason that goes with a status. -/
def httpExecuteRequest : HttpReply → Except Error (Except String Json)
  | .sendError (some status) text => .error (errorOfHttpStatus status text)
  | .sendError none _ => .error .internalClientError
  | .response status body =>
    if 200 ≤ status ∧ status < 300 then .ok body
    else .error (errorOfHttpStatus status s!"unexpected server error, reason: {debugReason status}")

/-- `Response::json` -/
def responseJson {A : Type} (decode : Json.Decoder A) : Except String Json → Except Error A
  | .error text => .error (.internalParsingError text)
  | .ok j =>
    match decode j with
    | .error e => .error (.internalParsingError (display e))
    | .ok a => .ok a

/-- A list over HTTP. -/
def httpListPersistentSubscriptions (s : Selector) (body : Except String Json) :
    Call (Except Error (List (PersistentSubscriptionInfo s.Value))) :=
  match responseJson display
      (deserializeSeq PersistentSubscriptionInfoHttpJson.deserialize "a sequence") body with
  | .error e => .ret (.error e)
  | .ok infos => readEach (fromHttpInfo s.select) infos

def httpGetPersistentSubscriptionInfo (s : Selector) (body : Except String Json) :
    Call (Except Error (PersistentSubscriptionInfo s.Value)) :=
  match responseJson display PersistentSubscriptionInfoHttpJson.deserialize body with
  | .error e => .ret (.error e)
  | .ok info => fromHttpInfo s.select info

/-! ## The calls -/

def StreamKind.selector : StreamKind → Selector
  | regularStream name => .regularStream name
  | allStream => .allStream

abbrev StreamKind.Info (stream : StreamKind) : Type :=
  PersistentSubscriptionInfo stream.selector.Value

namespace Manage

/-- What a call returns when it succeeds. -/
def Result : Manage → Type
  | listAllPersistentSubscriptions => List (PersistentSubscriptionInfo RevisionOrPosition)
  | listPersistentSubscriptionsForStream stream => List stream.Info
  | getPersistentSubscriptionInfo stream _ => stream.Info
  | replayParkedMessages _ _ _ | restartPersistentSubscriptionSubsystem => Unit

/-- The response message of the method. -/
def Response : Manage → Type
  | listAllPersistentSubscriptions | listPersistentSubscriptionsForStream _ =>
    List Proto.SubscriptionInfo
  | getPersistentSubscriptionInfo _ _ => Option Proto.SubscriptionInfo
  | replayParkedMessages _ _ _ | restartPersistentSubscriptionSubsystem => Unit

def readResponse : (op : Manage) → op.Response → Call (Except Error op.Result)
  | listAllPersistentSubscriptions, resp => listPersistentSubscriptions .bothTypeOfStream resp
  | listPersistentSubscriptionsForStream stream, resp =>
    listPersistentSubscriptions stream.selector resp
  | getPersistentSubscriptionInfo stream _, resp =>
    Kurrent.getPersistentSubscriptionInfo stream.selector resp
  | replayParkedMessages _ _ _, _ | restartPersistentSubscriptionSubsystem, _ => .ret (.ok ())

def readBody : (op : Manage) → Except String Json → Call (Except Error op.Result)
  | listAllPersistentSubscriptions, body =>
    httpListPersistentSubscriptions display .bothTypeOfStream body
  | listPersistentSubscriptionsForStream stream, body =>
    httpListPersistentSubscriptions display stream.selector body
  | getPersistentSubscriptionInfo stream _, body =>
    httpGetPersistentSubscriptionInfo display stream.selector body
  | replayParkedMessages _ _ _, _ | restartPersistentSubscriptionSubsystem, _ => .ret (.ok ())

/-- What a call tells the connection task, and what it returns. -/
structure Ended (op : Manage) where
  report : Option Msg
  result : Except Error op.Result

/-- The end of a call over gRPC; `id` is that of the handle. -/
def overGrpc (op : Manage) (id : Uuid) : Except Status op.Response → Call op.Ended
  | .error status => .ret ⟨handleError id (.fromGrpc status), .error (.fromGrpc status)⟩
  | .ok resp => do return ⟨none, ← op.readResponse resp⟩

/-- The end of a call over HTTP: nothing is reported. -/
def overHttp (op : Manage) (reply : HttpReply) : Call op.Ended :=
  match httpExecuteRequest debugReason reply with
  | .error e => .ret ⟨none, .error e⟩
  | .ok body => do return ⟨none, ← op.readBody display body⟩

end Manage

end

/-! ## What a server says -/

/-- What a server has to say of a call. -/
inductive Finding (A : Type) where
  | done (a : A)
  | notFound
  | unauthenticated
  | forbidden
  | failed

def StreamSnapshot.target : StreamSnapshot → Target
  | regular name _ _ _ _ => .stream (Lib.utf8 name)
  | all _ _ _ => .all

/-- Groups of a stream. -/
abbrev GroupsOf (stream : StreamKind) : Type :=
  { l : List Snapshot // ∀ x ∈ l, x.source.target = stream.target }

abbrev GroupOf (stream : StreamKind) : Type :=
  { x : Snapshot // x.source.target = stream.target }

namespace Manage

/-- What a server has for a call: the groups it is about. -/
def Held : Manage → Type
  | listAllPersistentSubscriptions => List Snapshot
  | listPersistentSubscriptionsForStream stream => GroupsOf stream
  | getPersistentSubscriptionInfo stream _ => GroupOf stream
  | replayParkedMessages _ _ _ | restartPersistentSubscriptionSubsystem => Unit

/-- The groups a caller is told of. -/
def groups : (op : Manage) → op.Held → List Snapshot
  | listAllPersistentSubscriptions, l => l
  | listPersistentSubscriptionsForStream _, l => l.1
  | getPersistentSubscriptionInfo _ _, x => [x.1]
  | replayParkedMessages _ _ _, _ | restartPersistentSubscriptionSubsystem, _ => []

/-- The response message about them. -/
def told : (op : Manage) → op.Held → op.Response
  | listAllPersistentSubscriptions, l => l.map Snapshot.toGrpc
  | listPersistentSubscriptionsForStream _, l => l.1.map Snapshot.toGrpc
  | getPersistentSubscriptionInfo _ _, x => some x.1.toGrpc
  | replayParkedMessages _ _ _, _ | restartPersistentSubscriptionSubsystem, _ => ()

/-- The response message that there is none, where a call has one. -/
def absent : (op : Manage) → Option op.Response
  | getPersistentSubscriptionInfo _ _ => some none
  | _ => none

end Manage

/-- The JSON of a group. -/
def SnapshotJson (x : Snapshot) (j : Json) : Prop := ∃ es, j = .object es ∧ HttpForm x es

def SnapshotsJson (l : List Snapshot) (j : Json) : Prop :=
  ∃ js, j = .array js ∧ List.Forall₂ SnapshotJson l js

/-- The body about them; what a call does not read is left open. -/
def Manage.ToldBody : (op : Manage) → op.Held → Except String Json → Prop
  | listAllPersistentSubscriptions, l, body => ∃ j, body = .ok j ∧ SnapshotsJson l j
  | listPersistentSubscriptionsForStream _, l, body => ∃ j, body = .ok j ∧ SnapshotsJson l.1 j
  | getPersistentSubscriptionInfo _ _, x, body => ∃ j, body = .ok j ∧ SnapshotJson x.1 j
  | replayParkedMessages _ _ _, _, _ | restartPersistentSubscriptionSubsystem, _, _ => True

/-- The status is what its code says, and not about a leader or a deleted stream. -/
def Status.Plain (status : Status) : Prop :=
  ∀ text, (status.get "exception").bind headerToStr = some text →
    text ≠ "not-leader" ∧ text ≠ "stream-deleted"

/-- How a server says it over gRPC. -/
inductive Manage.GrpcForm (op : Manage) : Finding op.Held → Except Status op.Response → Prop
  | done (held : op.Held) : GrpcForm op (.done held) (.ok (op.told held))
  | absent {resp : op.Response} (h : op.absent = some resp) : GrpcForm op .notFound (.ok resp)
  | notFound {status : Status} (hp : status.Plain) (hc : status.code = .notFound) :
    GrpcForm op .notFound (.error status)
  | unauthenticated {status : Status} (hp : status.Plain) (hc : status.code = .unauthenticated) :
    GrpcForm op .unauthenticated (.error status)
  | forbidden {status : Status} (hp : status.Plain) (hc : status.code = .permissionDenied) :
    GrpcForm op .forbidden (.error status)
  | failed {status : Status} (hp : status.Plain)
    (hc : status.code ∈ [.unavailable, .internal, .dataLoss, .unknown]) :
    GrpcForm op .failed (.error status)

/-- How a server says it over HTTP. -/
inductive Manage.HttpForm (op : Manage) : Finding op.Held → HttpReply → Prop
  | done {held : op.Held} {status : Nat} {body : Except String Json}
    (hs : 200 ≤ status ∧ status < 300) (hb : op.ToldBody held body) :
    HttpForm op (.done held) (.response status body)
  | notFound (body : Except String Json) : HttpForm op .notFound (.response 404 body)
  | unauthenticated (body : Except String Json) :
    HttpForm op .unauthenticated (.response 401 body)
  | forbidden (body : Except String Json) : HttpForm op .forbidden (.response 403 body)
  | failed {status : Nat} (hs : 500 ≤ status ∧ status < 600) (body : Except String Json) :
    HttpForm op .failed (.response status body)

/-- The same answer, but for the text of a server's error. -/
def SameAnswer {A : Type} : Except Error A → Except Error A → Prop
  | .ok a, .ok b => a = b
  | .error (.serverError _), .error (.serverError _) => True
  | .error e, .error e' => e = e'
  | _, _ => False

/-- Nothing is forbidden, and every group has been checkpointed, knows of an event, has event
numbers that fit an `i64` and a built-in strategy. -/
def Manage.Alike (op : Manage) : Finding op.Held → Prop
  | .done held => ∀ x ∈ op.groups held, x.source.Started ∧ Builtin x.namedConsumerStrategy
  | .forbidden => False
  | _ => True

/-! ## One group -/

section

variable {A : Type} {select : RevisionOrPosition → Call A} {x : Snapshot} {j : Json}
  {display : DeError → String}

variable (display) in
/-- Over HTTP a group comes as over gRPC exactly when it has started and its strategy is a
built-in one. -/
theorem group_agrees (hsel : x.source.Selects select) (hj : SnapshotJson x j) :
    ∃ info, decodeGrpc select x.toGrpc = .ret (.ok info) ∧
      (decodeHttp select display j = .ret (.ok info) ↔
        x.source.Started ∧ Builtin x.namedConsumerStrategy) := by
  obtain ⟨es, rfl, hform⟩ := hj
  obtain ⟨p, hp⟩ := selects_start hsel
  refine ⟨_, decodeGrpc_snapshot hp, ?_⟩
  rw [decodeHttp_eq_iff hform hp]
  constructor
  · rintro ⟨strategy, r, hst, hr, heq⟩
    cases agreedInfo_inj heq
    exact ⟨(reached_agrees_iff _).mp hr, deserialize_strategy hst⟩
  · rintro ⟨hstarted, hname⟩
    exact ⟨_, _, deserialize_builtin hname, (reached_agrees_iff _).mpr hstarted, rfl⟩

/-- What was decoded of the JSON of a group does not panic. -/
theorem fromHttpInfo_returns (hsel : x.source.Selects select) (hj : SnapshotJson x j)
    {info : PersistentSubscriptionInfoHttpJson}
    (hd : PersistentSubscriptionInfoHttpJson.deserialize j = .ok info) :
    ∃ r, fromHttpInfo select info = .ret r := by
  obtain ⟨es, rfl, hform⟩ := hj
  obtain ⟨p, hp⟩ := selects_start hsel
  obtain ⟨V, W, o, o', n, q, t, b, hs, -, hdec⟩ := info_form hform
  rw [hdec] at hd
  obtain ⟨v, -, hd⟩ := bind_eq_ok hd
  obtain ⟨w, -, hd⟩ := bind_eq_ok hd
  obtain ⟨strategy, -, hd⟩ := bind_eq_ok hd
  cases hd
  rw [fromHttpInfo_decoded hs hp]
  cases httpStats (decodedInfo x v w o o' n (decodedConfig x q t b strategy)) with
  | error e => exact ⟨_, rfl⟩
  | ok stats => exact ⟨_, rfl⟩

/-- Decoding is done in two steps. -/
theorem decodeHttp_eq_ok {sub : PersistentSubscriptionInfo A} :
    decodeHttp select display j = .ret (.ok sub) ↔
      ∃ info, PersistentSubscriptionInfoHttpJson.deserialize j = .ok info ∧
        fromHttpInfo select info = .ret (.ok sub) := by
  unfold decodeHttp
  cases PersistentSubscriptionInfoHttpJson.deserialize j with
  | error e =>
    refine iff_of_false (fun h => by cases h) ?_
    rintro ⟨info, h, -⟩
    cases h
  | ok info =>
    constructor
    · intro h
      exact ⟨info, rfl, h⟩
    · rintro ⟨info', h, hsub⟩
      cases h
      exact hsub

end

/-! ## A list -/

section

variable {s : Selector} {l : List Snapshot} {js : List Json} {display : DeError → String}

theorem listPersistentSubscriptions_eq (s : Selector) (infos : List Proto.SubscriptionInfo) :
    listPersistentSubscriptions s infos = readEach (decodeGrpc s.select) infos := by
  induction infos with
  | nil => rfl
  | cons info infos ih =>
    rw [listPersistentSubscriptions, readEach, ih]
    cases decodeGrpc s.select info with
    | panic m => rfl
    | ret r =>
      cases r with
      | error e => rfl
      | ok sub =>
        cases readEach (decodeGrpc s.select) infos with
        | panic m => rfl
        | ret rs => cases rs <;> rfl

/-- **Two passes succeed like one**: the list that comes out is that of decoding entry by
entry. -/
theorem httpList_eq_ok {subs : List (PersistentSubscriptionInfo s.Value)} :
    httpListPersistentSubscriptions display s (.ok (.array js)) = .ret (.ok subs) ↔
      List.Forall₂ (fun j sub => decodeHttp s.select display j = .ret (.ok sub)) js subs := by
  have htwo : List.Forall₂ (fun j sub => decodeHttp s.select display j = .ret (.ok sub)) js subs ↔
      ∃ infos, js.mapM PersistentSubscriptionInfoHttpJson.deserialize = .ok infos ∧
        readEach (fromHttpInfo s.select) infos = .ret (.ok subs) := by
    simp only [decodeHttp_eq_ok, mapM_eq_ok, readEach_eq_ok]
    exact forall₂_comp
  rw [htwo]
  unfold httpListPersistentSubscriptions responseJson deserializeSeq
  dsimp only
  cases js.mapM PersistentSubscriptionInfoHttpJson.deserialize with
  | error e =>
    refine iff_of_false (fun h => by cases h) ?_
    rintro ⟨infos, h, -⟩
    cases h
  | ok infos =>
    constructor
    · intro h
      exact ⟨infos, rfl, h⟩
    · rintro ⟨infos', h, hsubs⟩
      cases h
      exact hsubs

variable (display) in
theorem httpList_returns (hsel : ∀ x ∈ l, x.source.Selects s.select)
    (hjs : List.Forall₂ SnapshotJson l js) :
    ∃ r, httpListPersistentSubscriptions display s (.ok (.array js)) = .ret r := by
  unfold httpListPersistentSubscriptions responseJson deserializeSeq
  dsimp only
  cases hinfos : js.mapM PersistentSubscriptionInfoHttpJson.deserialize with
  | error e => exact ⟨_, rfl⟩
  | ok infos =>
    have hread := mapM_eq_ok.mp hinfos
    refine readEach_returns fun info hinfo => ?_
    obtain ⟨x, hx, j, hj, hd⟩ := exists_of_mem_right (forall₂_comp.mpr ⟨_, hjs, hread⟩) hinfo
    exact fromHttpInfo_returns (hsel x hx) hj hd

variable (display) in
/-- Every group agrees, or the lists do not. -/
theorem groups_agree (hsel : ∀ x ∈ l, x.source.Selects s.select)
    (hjs : List.Forall₂ SnapshotJson l js) :
    ∃ subs, List.Forall₂ (fun info sub => decodeGrpc s.select info = .ret (.ok sub))
        (l.map Snapshot.toGrpc) subs ∧
      (List.Forall₂ (fun j sub => decodeHttp s.select display j = .ret (.ok sub)) js subs ↔
        ∀ x ∈ l, x.source.Started ∧ Builtin x.namedConsumerStrategy) := by
  induction hjs with
  | nil => exact ⟨[], .nil, iff_of_true .nil (by simp)⟩
  | cons hj _ ih =>
    obtain ⟨hx, hrest⟩ := List.forall_mem_cons.mp hsel
    obtain ⟨sub, hsub, hiff⟩ := group_agrees display hx hj
    obtain ⟨subs, hsubs, hiffs⟩ := ih hrest
    refine ⟨sub :: subs, .cons hsub hsubs, ?_⟩
    rw [List.forall₂_cons, hiff, hiffs, List.forall_mem_cons]

theorem lists_agree (hsel : ∀ x ∈ l, x.source.Selects s.select)
    (hjs : List.Forall₂ SnapshotJson l js) :
    ∃ subs r, listPersistentSubscriptions s (l.map Snapshot.toGrpc) = .ret (.ok subs) ∧
      httpListPersistentSubscriptions display s (.ok (.array js)) = .ret r ∧
      (r = .ok subs ↔ ∀ x ∈ l, x.source.Started ∧ Builtin x.namedConsumerStrategy) := by
  obtain ⟨subs, hsubs, hiff⟩ := groups_agree display hsel hjs
  obtain ⟨r, hr⟩ := httpList_returns display hsel hjs
  refine ⟨subs, r, ?_, hr, ?_⟩
  · rw [listPersistentSubscriptions_eq]
    exact readEach_eq_ok.mpr hsubs
  · rw [← hiff, ← httpList_eq_ok, hr, Call.ret.injEq]

/-- One group that is asked for. -/
theorem infos_agree {x : Snapshot} {j : Json} (hsel : x.source.Selects s.select)
    (hj : SnapshotJson x j) :
    ∃ sub r, getPersistentSubscriptionInfo s (some x.toGrpc) = .ret (.ok sub) ∧
      httpGetPersistentSubscriptionInfo display s (.ok j) = .ret r ∧
      (r = .ok sub ↔ x.source.Started ∧ Builtin x.namedConsumerStrategy) := by
  obtain ⟨sub, hsub, hiff⟩ := group_agrees display hsel hj
  have hget : httpGetPersistentSubscriptionInfo display s (.ok j) =
      decodeHttp s.select display j := by
    unfold httpGetPersistentSubscriptionInfo responseJson decodeHttp
    dsimp only
    cases PersistentSubscriptionInfoHttpJson.deserialize j <;> rfl
  obtain ⟨r, hr⟩ : ∃ r, decodeHttp s.select display j = .ret r := by
    unfold decodeHttp
    cases hd : PersistentSubscriptionInfoHttpJson.deserialize j with
    | error e => exact ⟨_, rfl⟩
    | ok info => exact fromHttpInfo_returns hsel hj hd
  refine ⟨sub, r, hsub, hget.trans hr, ?_⟩
  rw [← hiff, hr, Call.ret.injEq]

end

/-! ## The calls -/

/-- A group of the stream at hand has a start that its selector takes. -/
theorem selects_of_target {stream : StreamKind} {x : StreamSnapshot}
    (h : x.target = stream.target) : x.Selects stream.selector.select := by
  cases stream with
  | regularStream name =>
    cases x with
    | regular n hn c k p => exact fun r => ⟨r, rfl⟩
    | all c k p => cases h
  | allStream =>
    cases x with
    | regular n hn c k p => cases h
    | all c k p => exact fun p => ⟨p, rfl⟩

theorem selects_both (x : StreamSnapshot) : x.Selects Selector.bothTypeOfStream.select := by
  cases x with
  | regular n hn c k p => exact fun r => ⟨_, rfl⟩
  | all c k p => exact fun p => ⟨_, rfl⟩

theorem fromGrpc_plain {status : Status} (h : status.Plain) :
    Error.fromGrpc status = Error.ofCode status := by
  unfold Error.fromGrpc
  split
  · next heq => exact absurd rfl (h _ heq).1
  · next heq => exact absurd rfl (h _ heq).2
  · rfl

section

variable {op : Manage} {display : DeError → String}

variable (display) in
/-- Told of the same groups, a call returns the same exactly when all of them agree. -/
theorem Manage.told_agree {held : op.Held} {body : Except String Json}
    (hb : op.ToldBody held body) :
    ∃ a r, op.readResponse (op.told held) = .ret (.ok a) ∧ op.readBody display body = .ret r ∧
      (r = .ok a ↔ op.Alike (.done held)) := by
  cases op with
  | listAllPersistentSubscriptions =>
    obtain ⟨j, rfl, js, rfl, hjs⟩ := hb
    exact lists_agree (s := .bothTypeOfStream) (fun x _ => selects_both x.source) hjs
  | listPersistentSubscriptionsForStream stream =>
    obtain ⟨j, rfl, js, rfl, hjs⟩ := hb
    exact lists_agree (fun x hx => selects_of_target (held.2 x hx)) hjs
  | getPersistentSubscriptionInfo stream groupName =>
    obtain ⟨j, rfl, hj⟩ := hb
    obtain ⟨info, r, hinfo, hr, hiff⟩ := infos_agree (selects_of_target held.2) hj
    refine ⟨info, r, hinfo, hr, hiff.trans ?_⟩
    simp [Alike, groups]
  | replayParkedMessages stream groupName stopAt =>
    exact ⟨(), _, rfl, rfl, iff_of_true rfl (by simp [Alike, groups])⟩
  | restartPersistentSubscriptionSubsystem =>
    exact ⟨(), _, rfl, rfl, iff_of_true rfl (by simp [Alike, groups])⟩

theorem ofCode_failed {status : Status}
    (h : status.code ∈ [.unavailable, .internal, .dataLoss, .unknown]) :
    Error.ofCode status = .serverError status.display := by
  simp only [List.mem_cons, List.not_mem_nil, or_false] at h
  rcases h with hc | hc | hc | hc <;> simp [Error.ofCode, hc]

/-- What is reported of a call over gRPC: a failure of the server, and nothing else. -/
def Finding.report {A : Type} (id : Uuid) : Finding A → Option Msg
  | .failed => some (.createChannel id none)
  | _ => none

/-- The error a caller is told of, by the route. -/
theorem overGrpc_error {status : Status} (id : Uuid) (hp : status.Plain) :
    op.overGrpc id (.error status) =
      .ret ⟨handleError id (Error.ofCode status), .error (Error.ofCode status)⟩ := by
  unfold Manage.overGrpc
  dsimp only
  rw [fromGrpc_plain hp]

theorem overGrpc_absent {resp : op.Response} (id : Uuid) (h : op.absent = some resp) :
    op.overGrpc id (.ok resp) = .ret ⟨none, .error .resourceNotFound⟩ := by
  cases op with
  | getPersistentSubscriptionInfo stream groupName => cases h; rfl
  | _ => cases h

theorem overHttp_error {debugReason : Nat → String} {status : Nat} (body : Except String Json)
    (hs : ¬ (200 ≤ status ∧ status < 300)) :
    op.overHttp debugReason display (.response status body) = .ret ⟨none, .error
      (errorOfHttpStatus status s!"unexpected server error, reason: {debugReason status}")⟩ := by
  unfold Manage.overHttp httpExecuteRequest
  dsimp only
  rw [if_neg hs]

end

/-- **The caller is told the same, whichever way** a server says it, exactly when nothing is
forbidden and every group has started and has a built-in strategy; the text of a server's
error aside. Only what fails on the server is reported to the connection task, and only over
gRPC. -/
theorem management_answers_agree_iff {op : Manage} {v : Finding op.Held}
    {resp : Except Status op.Response} {reply : HttpReply} (debugReason : Nat → String)
    (display : DeError → String) (id : Uuid) (hg : op.GrpcForm v resp) (hh : op.HttpForm v reply) :
    ∃ r r', op.overGrpc id resp = .ret r ∧ op.overHttp debugReason display reply = .ret r' ∧
      (SameAnswer r.result r'.result ↔ op.Alike v) ∧ r.report = v.report id ∧ r'.report = none := by
  cases hh with
  | @done held status body hs hb =>
    cases hg
    obtain ⟨a, r, ha, hr, hiff⟩ := op.told_agree display hb
    refine ⟨⟨none, .ok a⟩, ⟨none, r⟩, ?_, ?_, ?_, rfl, rfl⟩
    · unfold Manage.overGrpc
      dsimp only
      rw [ha]
      rfl
    · unfold Manage.overHttp httpExecuteRequest
      dsimp only
      rw [if_pos hs]
      dsimp only
      rw [hr]
      rfl
    · rw [← hiff]
      cases r with
      | error e => exact iff_of_false (fun h => h) (fun h => by cases h)
      | ok b => exact ⟨fun h => congrArg _ h.symm, fun h => (Except.ok.inj h).symm⟩
  | notFound body =>
    have hhttp := @overHttp_error op display debugReason 404 body (by omega)
    cases hg with
    | absent habsent =>
      refine ⟨_, _, overGrpc_absent id habsent, hhttp, iff_of_true rfl trivial, rfl, rfl⟩
    | @notFound status hp hc =>
      have he : Error.ofCode status = .resourceNotFound := by simp [Error.ofCode, hc]
      refine ⟨_, _, overGrpc_error id hp, hhttp, ?_⟩
      rw [he]
      exact ⟨iff_of_true rfl trivial, rfl, rfl⟩
  | unauthenticated body =>
    cases hg with
    | @unauthenticated status hp hc =>
      have he : Error.ofCode status = .accessDenied := by simp [Error.ofCode, hc]
      refine ⟨_, _, overGrpc_error id hp, overHttp_error body (by omega), ?_⟩
      rw [he]
      exact ⟨iff_of_true rfl trivial, rfl, rfl⟩
  | forbidden body =>
    cases hg with
    | @forbidden status hp hc =>
      have he : Error.ofCode status = .accessDenied := by simp [Error.ofCode, hc]
      refine ⟨_, _, overGrpc_error id hp, overHttp_error body (by omega), ?_⟩
      rw [he]
      exact ⟨iff_of_false nofun fun h => h, rfl, rfl⟩
  | @failed code hs body =>
    cases hg with
    | failed hp hc =>
      have hserver (text : String) : errorOfHttpStatus code text = .serverError text := by
        unfold errorOfHttpStatus
        rw [if_neg (by omega), if_neg (by omega), if_pos hs]
      refine ⟨_, _, overGrpc_error id hp, overHttp_error body (by omega), ?_⟩
      rw [ofCode_failed hc, hserver]
      exact ⟨iff_of_true trivial trivial, rfl, rfl⟩

/-- One group as the server's list, in either form. -/
def listOf (x : Snapshot) : Except Status (Manage.Response .listAllPersistentSubscriptions) :=
  .ok [x.toGrpc]

def replyOf (es : List (String × Json)) : HttpReply := .response 200 (.ok (.array [.object es]))

/-- Of a group that has not processed anything the caller is told different things. -/
theorem management_answers_agree_orders :
    (∃ r r', Manage.overGrpc .listAllPersistentSubscriptions 0
        (listOf (ordersSnapshot (some 5) (some 7))) = .ret r ∧
      Manage.overHttp (fun _ => "") (fun _ => "") .listAllPersistentSubscriptions
        (replyOf (ordersJson (some 5) (some 7))) = .ret r' ∧ SameAnswer r.result r'.result) ∧
    ∃ r r', Manage.overGrpc .listAllPersistentSubscriptions 0
        (listOf (ordersSnapshot none none)) = .ret r ∧
      Manage.overHttp (fun _ => "") (fun _ => "") .listAllPersistentSubscriptions
        (replyOf (ordersJson none none)) = .ret r' ∧ ¬ SameAnswer r.result r'.result := by
  have hhttp (c k : Option UInt64) : Manage.HttpForm .listAllPersistentSubscriptions
      (.done [ordersSnapshot c k]) (replyOf (ordersJson c k)) :=
    .done (by omega) ⟨_, rfl, _, rfl, .cons ⟨_, rfl, ordersJson_form c k⟩ .nil⟩
  have hgrpc (c k : Option UInt64) : Manage.GrpcForm .listAllPersistentSubscriptions
      (.done [ordersSnapshot c k]) (listOf (ordersSnapshot c k)) :=
    @Manage.GrpcForm.done .listAllPersistentSubscriptions [ordersSnapshot c k]
  have h (c k : Option UInt64) := management_answers_agree_iff (fun _ => "") (fun _ => "") 0
    (hgrpc c k) (hhttp c k)
  obtain ⟨r, r', hr, hr', hiff, -⟩ := h (some 5) (some 7)
  obtain ⟨q, q', hq, hq', hiff', -⟩ := h none none
  refine ⟨⟨r, r', hr, hr', hiff.mpr ?_⟩, q, q', hq, hq', fun hsame => ?_⟩
  · intro x hx
    obtain rfl := List.mem_singleton.mp hx
    exact ⟨⟨⟨5, rfl, by decide⟩, ⟨7, rfl, by decide⟩⟩, by simp [Builtin, ordersSnapshot]⟩
  · obtain ⟨⟨⟨n, hn, -⟩, -⟩, -⟩ := hiff'.mp hsame _ (List.mem_singleton.mpr rfl)
    cases hn

end Kurrent
