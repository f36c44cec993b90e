import Mathlib.Data.Prod.Lex
import Kurrent.Lib.Log
import Kurrent.Grpc.StateMachine
import Kurrent.Streams.Event

/-!
# Catch-up subscriptions

`Subscription` and `next_subscription_event` (`commands.rs`). A call runs until one of its
awaits: `Pc` says which. Each `on…` function is what the source does when that await is
over; its `Turn` says whether the loop goes round, sleeps, returns or panics. The place to
resume from is part of the request options and is written over when an event is handed out.

The stream of responses is the server's `Reader` at its other end. A record's key is its
revision for a named stream and its position for `$all`, as the server orders them.
-/

namespace Kurrent

open Lib

/-! ## Requests -/

inductive RevisionOption where
  | start
  | end
  | revision (r : UInt64)
  deriving DecidableEq, Repr

inductive AllOption where
  | start
  | end
  | position (p : Position)
  deriving DecidableEq, Repr

inductive StreamOption where
  | stream (streamName : Bytes) (revisionOption : RevisionOption)
  | all (allOption : AllOption)
  deriving DecidableEq, Repr

structure FilterExpression where
  regex : String
  prefixes : List String
  deriving DecidableEq, Repr

inductive FilterKind where
  | streamIdentifier (expr : FilterExpression)
  | eventType (expr : FilterExpression)
  deriving DecidableEq, Repr

inductive FilterWindow where
  | max (n : UInt32)
  | count
  deriving DecidableEq, Repr

structure FilterOptions where
  filter : FilterKind
  window : FilterWindow
  checkpointIntervalMultiplier : UInt32
  deriving DecidableEq, Repr

/-- The options of a read request, less those that are the same for every subscription. -/
structure ReadOptions where
  streamOption : StreamOption
  resolveLinks : Bool
  /-- `none` is `NoFilter` -/
  filterOption : Option FilterOptions
  deriving DecidableEq, Repr

structure SubscriptionFilter where
  basedOnStream : Bool
  max : Option UInt32
  regex : Option String
  prefixes : List String
  deriving DecidableEq, Repr

def filterIntoProto (filter : SubscriptionFilter) : FilterOptions :=
  let window := match filter.max with
    | some max => FilterWindow.max max
    | none => .count
  let expr : FilterExpression := ⟨filter.regex.getD "", filter.prefixes⟩
  let kind := if filter.basedOnStream then FilterKind.streamIdentifier expr else .eventType expr
  ⟨kind, window, 1⟩

structure RetryOptions where
  limit : Nat := 3
  delay : Duration := .fromMillis 500
  deriving DecidableEq, Repr

structure SubscribeToStreamOptions where
  position : StreamPosition UInt64 := .end
  resolveLinkTos : Bool := false
  retry : Option RetryOptions := none
  deriving DecidableEq, Repr

structure SubscribeToAllOptions where
  position : StreamPosition Position := .start
  resolveLinkTos : Bool := false
  filter : Option SubscriptionFilter := none
  retry : Option RetryOptions := none
  deriving DecidableEq, Repr

/-! ## Order of records -/

abbrev Key := Nat ×ₗ Nat

def revisionKey (r : UInt64) : Key := toLex (r.toNat, 0)

def positionKey (p : Position) : Key := toLex (p.commit.toNat, p.prepare.toNat)

inductive Target where
  | stream (streamName : Bytes)
  | all
  deriving DecidableEq, Repr

/-- What a request is about, whatever its offset. -/
structure Topic where
  target : Target
  resolveLinks : Bool
  filterOption : Option FilterOptions
  deriving DecidableEq, Repr

def Topic.key (t : Topic) (e : Proto.ReadEvent) : Key :=
  match e.original with
  | none => toLex (0, 0)
  | some r =>
    match t.target with
    | .stream _ => revisionKey r.streamRevision
    | .all => positionKey ⟨r.commitPosition, r.preparePosition⟩

def StreamOption.target : StreamOption → Target
  | .stream name _ => .stream name
  | .all _ => .all

def ReadOptions.topic (o : ReadOptions) : Topic :=
  ⟨o.streamOption.target, o.resolveLinks, o.filterOption⟩

/-- Where the server starts the reader of a request that finds `n` records. -/
def ReadOptions.origin (o : ReadOptions) (n : Nat) : From Key :=
  match o.streamOption with
  | .stream _ .start | .all .start => .start
  | .stream _ .end | .all .end => .tail n
  | .stream _ (.revision r) => .after (revisionKey r)
  | .all (.position p) => .after (positionKey p)

def ReadOptions.atEnd (o : ReadOptions) : Prop :=
  match o.streamOption with
  | .stream _ .end | .all .end => True
  | _ => False

/-- The options once the event has been handed out. -/
def ReadOptions.track (o : ReadOptions) (original : RecordedEvent) : ReadOptions :=
  { o with streamOption :=
      match o.streamOption with
      | .stream name _ => .stream name (.revision original.revision)
      | .all _ => .all (.position original.position) }

/-! ## The subscription -/

inductive Content where
  | event (e : Proto.ReadEvent)
  | confirmation (subscriptionId : String)
  | checkpoint (p : Position)
  | streamNotFound
  | firstStreamPosition (n : UInt64)
  | lastStreamPosition (n : UInt64)
  | lastAllStreamPosition (p : Position)
  | caughtUp
  | fellBehind
  deriving DecidableEq, Repr

structure ReadResp where
  content : Option Content
  deriving DecidableEq, Repr

inductive SubscriptionEvent where
  | confirmed (subscriptionId : String)
  | eventAppeared (e : ResolvedEvent)
  | checkpoint (p : Position)
  | firstStreamPosition (n : UInt64)
  | lastStreamPosition (n : UInt64)
  | lastAllPosition (p : Position)
  | caughtUp
  | fellBehind
  deriving DecidableEq, Repr

structure Subscription where
  channelId : Uuid
  stream : Option (Reader Key)
  attempts : Nat
  limit : Nat
  retryEnabled : Bool
  options : ReadOptions
  deriving DecidableEq

def Subscription.new (retry : Option RetryOptions) (options : ReadOptions) : Subscription :=
  let (limit, retryEnabled) := match retry with
    | some retry => (retry.limit, true)
    | none => (1, false)
  { channelId := Uuid.nil, limit, retryEnabled, options, stream := none, attempts := 1 }

def subscribeToStream (streamId : Bytes) (options : SubscribeToStreamOptions) : Subscription :=
  let revision := match options.position with
    | .start => RevisionOption.start
    | .end => .end
    | .position revision => .revision revision
  Subscription.new options.retry ⟨.stream streamId revision, options.resolveLinkTos, none⟩

def subscribeToAll (options : SubscribeToAllOptions) : Subscription :=
  let revision := match options.position with
    | .start => AllOption.start
    | .position pos => .position pos
    | .end => .end
  Subscription.new options.retry
    ⟨.all revision, options.resolveLinkTos, options.filter.map filterIntoProto⟩

/-- Where a call of `next_subscription_event` stands. -/
inductive Pc where
  /-- no call is in progress -/
  | idle
  /-- the stream is out of the subscription, waiting for its next message -/
  | receiving (stream : Reader Key)
  /-- waiting for the selected node -/
  | selecting
  /-- the read request is out; the reader is there once the server has accepted it -/
  | reading (opened : Option (Reader Key))
  | sleeping
  | panicked (message : String)
  deriving DecidableEq

inductive Turn where
  | again
  | sleep
  | ret (r : Except Error SubscriptionEvent)
  | panic (message : String)
  deriving DecidableEq

/-- What the call does after an await: the subscription, the report sent to the connection
task, and how the call goes on. -/
structure Outcome where
  sub : Subscription
  report : Option Msg := none
  turn : Turn

namespace Subscription

/-- The head of the loop: the stream is taken out, or a node is asked for. -/
def head (sub : Subscription) : Subscription × Pc :=
  match sub.stream with
  | some stream => ({ sub with stream := none }, .receiving stream)
  | none => (sub, .selecting)

def onContent (crates : Crates) (sub : Subscription) :
    Content → Call (Subscription × SubscriptionEvent)
  | .event e => do
    let event ← ResolvedEvent.from crates e
    let original ← event.getOriginalEvent
    return ({ sub with options := sub.options.track original }, .eventAppeared event)
  | .confirmation id => .ret (sub, .confirmed id)
  | .checkpoint p => .ret (sub, .checkpoint p)
  | .firstStreamPosition n => .ret (sub, .firstStreamPosition n)
  | .lastStreamPosition n => .ret (sub, .lastStreamPosition n)
  | .lastAllStreamPosition p => .ret (sub, .lastAllPosition p)
  | .caughtUp => .ret (sub, .caughtUp)
  | .fellBehind => .ret (sub, .fellBehind)
  | .streamNotFound => .panic "internal error: entered unreachable code"

/-- `stream.try_next()` is over; the stream is put back unless it failed. -/
def onItem (crates : Crates) (sub : Subscription) (stream : Reader Key) :
    Except Status (Option ReadResp) → Outcome
  | .error status =>
    let e := Error.fromGrpc status
    { sub := { sub with attempts := 1 }
      report := handleError sub.channelId e
      turn := if e.isAccessDenied || !sub.retryEnabled then .ret (.error e) else .again }
  | .ok resp =>
    let sub := { sub with stream := some stream }
    match resp.bind ReadResp.content with
    | none => { sub, turn := .again }
    | some content =>
      match sub.onContent crates content with
      | .ret (sub', ev) => { sub := sub', turn := .ret (.ok ev) }
      | .panic m => { sub, turn := .panic m }

/-- `client.read(req)` is over. -/
def onRead (sub : Subscription) : Except Status (Reader Key) → Outcome
  | .error status =>
    let e := Error.fromGrpc status
    let report := handleError sub.channelId e
    if !e.isAccessDenied && sub.attempts < sub.limit then
      { sub := { sub with attempts := sub.attempts + 1 }, report, turn := .sleep }
    else { sub, report, turn := .ret (.error e) }
  | .ok stream => { sub := { sub with stream := some stream }, turn := .again }

end Subscription

/-! ## Tracking keeps the topic and points behind the event -/

theorem track_topic (o : ReadOptions) (original : RecordedEvent) :
    (o.track original).topic = o.topic := by
  cases h : o.streamOption <;> simp [ReadOptions.track, ReadOptions.topic, h, StreamOption.target]

theorem track_origin {crates : Crates} {o : ReadOptions} {e : Proto.ReadEvent} {ev : ResolvedEvent}
    {original : RecordedEvent} (hconv : ResolvedEvent.from crates e = .ret ev)
    (horig : ev.getOriginalEvent = .ret original) (n : Nat) :
    (o.track original).origin n = .after (o.topic.key e) := by
  obtain ⟨r, hr, hfrom⟩ := getOriginalEvent_from hconv horig
  obtain ⟨hrev, hpos⟩ := recordedEvent_place hfrom
  cases h : o.streamOption with
  | stream name rev =>
    simp [ReadOptions.track, ReadOptions.origin, ReadOptions.topic, Topic.key, StreamOption.target,
      h, hr, hrev]
  | all opt =>
    simp [ReadOptions.track, ReadOptions.origin, ReadOptions.topic, Topic.key, StreamOption.target,
      h, hr, hpos]

end Kurrent
