import Kurrent.Grpc.Deadline
import Kurrent.Grpc.Headers

/-!
# Creating a projection

`ProjectionClient::create` makes two calls when the projection is to emit: the create call
has no such option, so an update follows it. The update is given options of its own, and
its request is made from these: credentials, leadership and deadline of the caller do not
reach it. What is stated here is when the two requests agree all the same.
-/

namespace Kurrent

open Lib

/-- `options::Options` -/
class OperationOptions (Opts : Type) where
  commonOperationOptions : Opts → CommonOperationOptions
  kind : Opts → OperationKind

structure CreateProjectionOptions where
  trackEmittedStreams : Bool := false
  emit : Bool := false
  commonOperationOptions : CommonOperationOptions := {}
  deriving DecidableEq, Repr

instance : OperationOptions CreateProjectionOptions where
  commonOperationOptions := CreateProjectionOptions.commonOperationOptions
  kind _ := .regular

structure UpdateProjectionOptions where
  emit : Option Bool := none
  commonOperationOptions : CommonOperationOptions := {}
  deriving DecidableEq, Repr

instance : OperationOptions UpdateProjectionOptions where
  commonOperationOptions := UpdateProjectionOptions.commonOperationOptions
  kind _ := .regular

def UpdateProjectionOptions.withEmit (options : UpdateProjectionOptions) (emit : Bool) :
    UpdateProjectionOptions := { options with emit := some emit }

namespace Proto

/-- `projections::create_req::options::Mode` -/
inductive ProjectionMode where
  | oneTime
  | transient (name : String)
  | continuous (name : String) (trackEmittedStreams : Bool)
  deriving DecidableEq, Repr

/-- `projections::update_req::options::EmitOption` -/
inductive EmitOption where
  | emitEnabled (emit : Bool)
  | noEmitOptions
  deriving DecidableEq, Repr

/-- `projections::create_req::Options` -/
structure CreateProjectionOptions where
  query : String
  mode : Option ProjectionMode
  deriving DecidableEq, Repr

/-- `projections::update_req::Options` -/
structure UpdateProjectionOptions where
  name : String
  query : String
  emitOption : Option EmitOption
  deriving DecidableEq, Repr

/-- The messages of the two calls. -/
inductive ProjectionsReq where
  | createReq (options : Option CreateProjectionOptions)
  | updateReq (options : Option UpdateProjectionOptions)
  deriving DecidableEq, Repr

end Proto

/-- What becomes of a call: there is no node to send it to, or the server answers. -/
inductive Exchange where
  | noNode (e : Error)
  | answered (reply : Except Status Unit)

/-- The requests an operation has sent, and how it ended. -/
structure Sent (M : Type) where
  requests : List (Request M)
  result : Call (Except Error Unit)

namespace Sent

variable {M : Type}

/-- `?`, and what comes behind it. -/
def andThen (first next : Sent M) : Sent M :=
  match first.result with
  | .ret (.ok ()) => ⟨first.requests ++ next.requests, next.result⟩
  | _ => first

/-- `GrpcClient::execute` -/
def execute (exchange : Exchange) (req : Request M) : Sent M :=
  match exchange with
  | .noNode e => ⟨[], .ret (.error e)⟩
  | .answered (.ok ()) => ⟨[req], .ret (.ok ())⟩
  | .answered (.error status) => ⟨[req], .ret (.error (Error.fromGrpc status))⟩

end Sent

section

variable (crates : Crates) (encodes : Duration → Bool) (settings : ClientSettings)

/-- `new_request` of any options, and the call made with it. -/
def sendRequest {Opts : Type} [OperationOptions Opts] (options : Opts)
    (message : Proto.ProjectionsReq) (exchange : Exchange) : Sent Proto.ProjectionsReq :=
  match newRequest crates encodes settings (OperationOptions.kind options)
      (OperationOptions.commonOperationOptions options) message with
  | .ret req => .execute exchange req
  | .panic m => ⟨[], .panic m⟩

namespace ProjectionClient

def createProjectionInternal {Opts : Type} [OperationOptions Opts] (createOpts : Opts)
    (options : Proto.CreateProjectionOptions) (exchange : Exchange) : Sent Proto.ProjectionsReq :=
  sendRequest crates encodes settings createOpts (.createReq (some options)) exchange

def update (name query : String) (options : UpdateProjectionOptions) (exchange : Exchange) :
    Sent Proto.ProjectionsReq :=
  let emitOption := (options.emit.map Proto.EmitOption.emitEnabled).or (some .noEmitOptions)
  sendRequest crates encodes settings options (.updateReq (some { name, emitOption, query }))
    exchange

/-- `created` and `updated` are what becomes of the two calls. -/
def create (name query : String) (options : CreateProjectionOptions) (created updated : Exchange) :
    Sent Proto.ProjectionsReq :=
  (createProjectionInternal crates encodes settings options
    { query, mode := some (.continuous name options.trackEmittedStreams) } created).andThen
    (if options.emit then
      let updOptions := ({} : UpdateProjectionOptions).withEmit true
      update crates encodes settings name query updOptions updated
    else ⟨[], .ret (.ok ())⟩)

end ProjectionClient

end

/-! ## What `new_request` makes of options -/

/-- The value of the authorization header. -/
def authorization (crates : Crates) (credentials : Option Credentials) : Option String :=
  credentials.map fun creds => "Basic " ++ crates.base64
    (crates.utf8Lossy creds.login ++ ":" ++ crates.utf8Lossy creds.password).toUTF8.toList

def requestMetadata (crates : Crates) (settings : ClientSettings)
    (options : CommonOperationOptions) : MetadataMap :=
  frontMetadata crates settings options ++
    settings.connectionName.toList.map fun name => ("connection-name", name)

/-- The deadline of a request whose options name none. -/
def ClientSettings.regularDeadline (settings : ClientSettings) : Duration :=
  settings.defaultDeadline.getD (.fromSecs 10)

def regularRequest {M : Type} (crates : Crates) (settings : ClientSettings)
    (options : CommonOperationOptions) (message : M) : Request M where
  message
  metadata := requestMetadata crates settings options
  timeout := some (options.deadline.getD settings.regularDeadline)

/-- The name of the connection and the deadline can be written in headers. -/
structure Sendable (encodes : Duration → Bool) (settings : ClientSettings)
    (options : CommonOperationOptions) : Prop where
  name : ∀ name, settings.connectionName = some name → metadataText name = true
  deadline : encodes (options.deadline.getD settings.regularDeadline) = true

/-- The options name nothing that a request without them would not have. -/
structure AddNothing (crates : Crates) (settings : ClientSettings)
    (options : CommonOperationOptions) : Prop where
  credentials : authorization crates (options.credentials.or settings.defaultUserName) =
    authorization crates settings.defaultUserName
  leader : options.requiresLeader = true → settings.preference = .leader
  deadline : ∀ d, options.deadline = some d → d = settings.regularDeadline

section

variable {M : Type} {crates : Crates} {encodes : Duration → Bool} {settings : ClientSettings}
  {options : CommonOperationOptions} {message : M}

theorem buildRequestMetadata_eq_ret (hv : HeaderLaws crates) {md : MetadataMap} :
    buildRequestMetadata crates settings options = .ret md ↔
      (∀ name, settings.connectionName = some name → metadataText name = true) ∧
        md = requestMetadata crates settings options := by
  rw [buildRequestMetadata_eq hv]
  unfold requestMetadata
  cases settings.connectionName with
  | none =>
    constructor
    · intro h; cases h; simp
    · rintro ⟨-, rfl⟩; simp
  | some name =>
    by_cases hname : metadataText name = true
    · simp only [hname, if_true]
      constructor
      · intro h; cases h; simp [hname]
      · rintro ⟨-, rfl⟩; rfl
    · simp [hname]

theorem newRequest_regular {md : MetadataMap}
    (hmd : buildRequestMetadata crates settings options = .ret md) :
    newRequest crates encodes settings .regular options message =
      setTimeout encodes ⟨message, md, none⟩ (options.deadline.getD settings.regularDeadline) := by
  rw [newRequest_eq md hmd]
  unfold ClientSettings.regularDeadline
  cases options.deadline <;> cases settings.defaultDeadline <;> rfl

theorem newRequest_eq_ret (hv : HeaderLaws crates) {req : Request M} :
    newRequest crates encodes settings .regular options message = .ret req ↔
      Sendable encodes settings options ∧ req = regularRequest crates settings options message := by
  constructor
  · intro h
    obtain ⟨md, hmd, -⟩ := Call.bind_eq_ret h
    obtain ⟨hname, rfl⟩ := (buildRequestMetadata_eq_ret hv).mp hmd
    rw [newRequest_regular hmd] at h
    unfold setTimeout at h
    split at h
    next hd => exact ⟨⟨hname, hd⟩, by cases h; rfl⟩
    next => cases h
  · rintro ⟨⟨hname, hd⟩, rfl⟩
    rw [newRequest_regular ((buildRequestMetadata_eq_ret hv).mpr ⟨hname, rfl⟩)]
    exact if_pos hd

theorem frontMetadata_eq : frontMetadata crates settings options =
    (authorization crates (options.credentials.or settings.defaultUserName)).toList.map
        (fun value => ("authorization", value)) ++
      if options.requiresLeader || settings.preference = .leader then [("requires-leader", "true")]
      else [] := by
  unfold frontMetadata authorization
  cases options.credentials.or settings.defaultUserName <;> rfl

/-- Two requests of one message are the same exactly when the options of the first add
nothing. -/
theorem regularRequest_eq_iff :
    regularRequest crates settings {} message = regularRequest crates settings options message ↔
      AddNothing crates settings options := by
  have hmeta : requestMetadata crates settings {} = requestMetadata crates settings options ↔
      authorization crates (options.credentials.or settings.defaultUserName) =
          authorization crates settings.defaultUserName ∧
        (options.requiresLeader = true → settings.preference = .leader) := by
    unfold requestMetadata
    rw [List.append_cancel_right_eq, frontMetadata_eq, frontMetadata_eq]
    have hnone : ({} : CommonOperationOptions).credentials.or settings.defaultUserName =
        settings.defaultUserName := rfl
    have hleader : ({} : CommonOperationOptions).requiresLeader = false := rfl
    rw [hnone, hleader, Bool.false_or]
    generalize authorization crates settings.defaultUserName = own
    generalize authorization crates (options.credentials.or settings.defaultUserName) = given
    by_cases hp : settings.preference = .leader <;> cases own <;> cases given <;>
      cases options.requiresLeader <;> simp [hp] <;> exact eq_comm
  have hdeadline : settings.regularDeadline = options.deadline.getD settings.regularDeadline ↔
      ∀ d, options.deadline = some d → d = settings.regularDeadline := by
    cases options.deadline with
    | none => simp
    | some d => simpa using eq_comm
  constructor
  · intro h
    have hm := hmeta.mp (congrArg Request.metadata h)
    have hd := hdeadline.mp (Option.some.inj (congrArg Request.timeout h))
    exact ⟨hm.1, hm.2, hd⟩
  · intro h
    unfold regularRequest
    rw [hmeta.mpr ⟨h.credentials, h.leader⟩, ← hdeadline.mpr h.deadline]
    rfl

end

/-! ## The requests of a create -/

/-- Every request is the one that `new_request` makes of the caller's options, and all of
them come with one authorization. -/
structure CarriesOptions {M : Type} (crates : Crates) (encodes : Duration → Bool)
    (settings : ClientSettings) (options : CreateProjectionOptions)
    (requests : List (Request M)) : Prop where
  derived : ∀ req ∈ requests, newRequest crates encodes settings (OperationOptions.kind options)
    (OperationOptions.commonOperationOptions options) req.message = .ret req
  authorized : ∀ req ∈ requests, ∀ req' ∈ requests,
    req.metadata.lookup "authorization" = req'.metadata.lookup "authorization"

/-- The second request goes out: the first one went well, and there is a node again. -/
structure UpdateSent (encodes : Duration → Bool) (settings : ClientSettings)
    (options : CreateProjectionOptions) (created updated : Exchange) : Prop where
  emit : options.emit = true
  first : Sendable encodes settings options.commonOperationOptions
  second : Sendable encodes settings {}
  created : created = .answered (.ok ())
  updated : ∃ reply, updated = .answered reply

section

variable {crates : Crates} {encodes : Duration → Bool} {settings : ClientSettings}
  {options : CreateProjectionOptions} {name query : String} {created updated : Exchange}

theorem sendRequest_of_sendable (hv : HeaderLaws crates) {Opts : Type} [OperationOptions Opts]
    {opts : Opts} (hkind : OperationOptions.kind opts = .regular)
    (hs : Sendable encodes settings (OperationOptions.commonOperationOptions opts))
    (message : Proto.ProjectionsReq) (exchange : Exchange) :
    sendRequest crates encodes settings opts message exchange = .execute exchange
      (regularRequest crates settings (OperationOptions.commonOperationOptions opts) message) := by
  unfold sendRequest
  rw [hkind, (newRequest_eq_ret hv).mpr ⟨hs, rfl⟩]

theorem sendRequest_of_not_sendable (hv : HeaderLaws crates) {Opts : Type}
    [OperationOptions Opts] (opts : Opts) (hkind : OperationOptions.kind opts = .regular)
    (hs : ¬ Sendable encodes settings (OperationOptions.commonOperationOptions opts))
    (message : Proto.ProjectionsReq) (exchange : Exchange) :
    ∃ m, sendRequest crates encodes settings opts message exchange = ⟨[], .panic m⟩ := by
  unfold sendRequest
  rw [hkind]
  cases hreq : newRequest crates encodes settings .regular
      (OperationOptions.commonOperationOptions opts) message with
  | ret req => exact absurd ((newRequest_eq_ret hv).mp hreq).1 hs
  | panic m => exact ⟨m, rfl⟩

/-- The two messages of a create. -/
def createMessage (name query : String) (options : CreateProjectionOptions) :
    Proto.ProjectionsReq :=
  .createReq (some ⟨query, some (.continuous name options.trackEmittedStreams)⟩)

def updateMessage (name query : String) : Proto.ProjectionsReq :=
  .updateReq (some ⟨name, query, some (.emitEnabled true)⟩)

theorem create_eq :
    ProjectionClient.create crates encodes settings name query options created updated =
      (sendRequest crates encodes settings options (createMessage name query options)
        created).andThen
        (if options.emit then
          sendRequest crates encodes settings (UpdateProjectionOptions.withEmit {} true)
            (updateMessage name query) updated
        else ⟨[], .ret (.ok ())⟩) := rfl

/-- Behind a first request that went well, the second is made of options that name
nothing. -/
theorem requests_of_updateSent (hv : HeaderLaws crates)
    (h : UpdateSent encodes settings options created updated) :
    (ProjectionClient.create crates encodes settings name query options created updated).requests =
      [regularRequest crates settings options.commonOperationOptions
          (createMessage name query options),
        regularRequest crates settings {} (updateMessage name query)] := by
  obtain ⟨hemit, hfirst, hsecond, rfl, reply, rfl⟩ := h
  rw [create_eq, if_pos hemit, sendRequest_of_sendable hv rfl hfirst,
    sendRequest_of_sendable hv rfl hsecond]
  cases reply <;> rfl

/-- In every other case there is the first request at most. -/
theorem requests_of_not_updateSent (hv : HeaderLaws crates)
    (h : ¬ UpdateSent encodes settings options created updated) :
    let sent := ProjectionClient.create crates encodes settings name query options created updated
    sent.requests = [] ∨ Sendable encodes settings options.commonOperationOptions ∧
      sent.requests = [regularRequest crates settings options.commonOperationOptions
        (createMessage name query options)] := by
  rw [create_eq]
  by_cases hfirst : Sendable encodes settings options.commonOperationOptions
  · rw [sendRequest_of_sendable hv rfl hfirst]
    cases created with
    | noNode e => exact .inl rfl
    | answered reply =>
      refine .inr ⟨hfirst, ?_⟩
      cases reply with
      | error status => rfl
      | ok u =>
        by_cases hemit : options.emit = true
        · rw [if_pos hemit]
          by_cases hsecond : Sendable encodes settings {}
          · rw [sendRequest_of_sendable hv rfl hsecond]
            cases updated with
            | noNode e => rfl
            | answered reply => exact absurd ⟨hemit, hfirst, hsecond, rfl, reply, rfl⟩ h
          · obtain ⟨m, hm⟩ := sendRequest_of_not_sendable hv
              (UpdateProjectionOptions.withEmit {} true) rfl hsecond (updateMessage name query)
              updated
            rw [hm]
            rfl
        · rw [if_neg hemit]
          rfl
  · obtain ⟨m, hm⟩ := sendRequest_of_not_sendable hv options rfl hfirst
      (createMessage name query options) created
    rw [hm]
    exact .inl rfl

theorem carriesOptions_of_regular {M : Type} (hv : HeaderLaws crates)
    {requests : List (Request M)}
    (h : ∀ req ∈ requests, Sendable encodes settings options.commonOperationOptions ∧
      ∃ message, req = regularRequest crates settings options.commonOperationOptions message) :
    CarriesOptions crates encodes settings options requests where
  derived req hreq := by
    obtain ⟨hs, message, rfl⟩ := h req hreq
    exact (newRequest_eq_ret hv).mpr ⟨hs, rfl⟩
  authorized req hreq req' hreq' := by
    obtain ⟨-, message, rfl⟩ := h req hreq
    obtain ⟨-, message', rfl⟩ := h req' hreq'
    rfl

end

/-- **When a projection is created under its caller's options**: exactly when no second
request goes out, or the options name nothing that the settings alone would not have given:
no other authorization, no leader and no deadline. -/
theorem create_carries_options_iff {crates : Crates} (hv : HeaderLaws crates)
    (encodes : Duration → Bool) (settings : ClientSettings) (name query : String)
    (options : CreateProjectionOptions) (created updated : Exchange) :
    CarriesOptions crates encodes settings options
        (ProjectionClient.create crates encodes settings name query options created updated).requests ↔
      (UpdateSent encodes settings options created updated →
        AddNothing crates settings options.commonOperationOptions) := by
  have hkind : OperationOptions.kind options = .regular := rfl
  constructor
  · intro h hsent
    have hsecond := h.derived (regularRequest crates settings {} (updateMessage name query))
      (by rw [requests_of_updateSent hv hsent]; simp)
    rw [hkind] at hsecond
    exact regularRequest_eq_iff.mp ((newRequest_eq_ret hv).mp hsecond).2
  · intro h
    by_cases hsent : UpdateSent encodes settings options created updated
    · rw [requests_of_updateSent hv hsent, regularRequest_eq_iff.mpr (h hsent)]
      refine carriesOptions_of_regular hv fun req hreq => ⟨hsent.first, ?_⟩
      rcases List.mem_pair.mp hreq with rfl | rfl
      · exact ⟨_, rfl⟩
      · exact ⟨_, rfl⟩
    · rcases requests_of_not_updateSent hv hsent with hreqs | ⟨hs, hreqs⟩
      · rw [hreqs]
        exact carriesOptions_of_regular hv (by simp)
      · rw [hreqs]
        exact carriesOptions_of_regular hv fun req hreq => ⟨hs, _, List.mem_singleton.mp hreq⟩
/-- Under the caller's options where these are the default ones. -/
theorem create_carries_default_options :
    CarriesOptions headerCrates eightDigits {} { emit := true }
      (ProjectionClient.create headerCrates eightDigits {} "totals" "fromAll()" { emit := true }
        (.answered (.ok ())) (.answered (.ok ()))).requests := by
  refine (create_carries_options_iff headerCrates_laws eightDigits {} "totals" "fromAll()"
    { emit := true } (.answered (.ok ())) (.answered (.ok ()))).mpr fun _ => ⟨rfl, ?_, ?_⟩
  · intro h; cases h
  · intro d h; cases h

/-- A projection that emits, created as `admin`. -/
def emitAsAdmin : CreateProjectionOptions where
  emit := true
  commonOperationOptions := { credentials := some (.new "admin" "changeit") }

/-- **The caller's credentials stop at the first request**: the projection is created as
`admin`, and told to emit as nobody. -/
theorem create_drops_credentials :
    let sent := ProjectionClient.create headerCrates eightDigits {} "totals" "fromAll()" emitAsAdmin
      (.answered (.ok ())) (.answered (.ok ()))
    sent.requests.map (fun req => req.metadata.lookup "authorization") =
        [some "Basic YWRtaW46Y2hhbmdlaXQ=", none] ∧
      ¬ CarriesOptions headerCrates eightDigits {} emitAsAdmin sent.requests := by
  intro sent
  have hauth : sent.requests.map (fun req => req.metadata.lookup "authorization") =
      [some "Basic YWRtaW46Y2hhbmdlaXQ=", none] := by decide +kernel
  refine ⟨hauth, fun h => ?_⟩
  have hsome : some "Basic YWRtaW46Y2hhbmdlaXQ=" ∈
      sent.requests.map (fun req => req.metadata.lookup "authorization") := by rw [hauth]; simp
  have hnone : none ∈ sent.requests.map (fun req => req.metadata.lookup "authorization") := by
    rw [hauth]; simp
  obtain ⟨req, hreq, hval⟩ := List.mem_map.mp hsome
  obtain ⟨req', hreq', hval'⟩ := List.mem_map.mp hnone
  have hsame := h.authorized req hreq req' hreq'
  rw [hval, hval'] at hsame
  cases hsame

end Kurrent
