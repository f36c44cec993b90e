import Kurrent.Streams.Write

/-!
# Reading a stream to its end

A caller asks a `ReadStream` for one event after the other until there are no more. What it
gets are the events the server sent, up to the first message that ends the read.

Together with the appends of `Write` this closes the circle: `Book` is what callers wrote,
event by event and as they built it, and a read gives the part of it that was asked for.
-/

namespace Kurrent

open Lib

/-- How a read came to an end. -/
inductive Ending where
  | finished
  | failed (e : Error) (report : Option Msg)
  /-- the server has sent no more so far -/
  | waiting
  | spins
  | panicked (message : String)

namespace ReadStream

/-- `while let Some(event) = stream.next().await?`, one pass. -/
def drainBody (crates : Crates) (channelId : Uuid) :
    List ResolvedEvent × Responses →
      Flow (List ResolvedEvent × Responses) (List ResolvedEvent × Ending)
  | (events, inner) =>
    match next crates ⟨channelId, inner⟩ with
    | .ret ⟨.ok (some event), _⟩ _ rest => .again (events ++ [event], rest)
    | .ret ⟨.ok none, _⟩ _ _ => .done (events, .finished)
    | .ret ⟨.error e, report⟩ _ _ => .done (events, .failed e report)
    | .waits | .left _ => .done (events, .waiting)
    | .spins => .done (events, .spins)
    | .panic m => .done (events, .panicked m)

/-- An event that was handed out came off the stream. -/
theorem next_size {crates : Crates} {channelId : Uuid} {inner rest : Responses}
    {event : ResolvedEvent} {report : Option Msg} {u : Unit}
    (h : next crates ⟨channelId, inner⟩ = .ret ⟨.ok (some event), report⟩ u rest) :
    rest.size < inner.size := by
  induction inner with
  | wait => cases h
  | close => cases h
  | fail status => cases h
  | msg resp tail ih =>
    rw [next_msg] at h
    split at h
    · cases h
    · cases h
    · next e he =>
      cases hev : ResolvedEvent.from crates e with
      | ret ev => rw [hev] at h; cases h; exact Nat.lt_succ_self _
      | panic m => rw [hev] at h; cases h
    · exact Nat.lt_succ_of_lt (ih h)

def drainLoop (crates : Crates) (channelId : Uuid) :
    Loop (List ResolvedEvent × Responses) (List ResolvedEvent × Ending) where
  body := drainBody crates channelId
  measure s := s.2.size
  decreases := by
    rintro ⟨events, inner⟩ s' h
    unfold drainBody at h
    dsimp only at h
    split at h
    · next hn => cases h; exact next_size hn
    all_goals cases h

/-- The events a caller gets in all, and how that ends. -/
def drain (crates : Crates) (s : ReadStream) : List ResolvedEvent × Ending :=
  (drainLoop crates s.channelId).run ([], s.inner)

/-- What there is to read, message by message. -/
def reading (crates : Crates) (channelId : Uuid) : Responses → List ResolvedEvent × Ending
  | .wait => ([], .waiting)
  | .close => ([], .finished)
  | .fail status =>
    let e := Error.fromGrpc status
    ([], .failed e (handleError channelId e))
  | .msg resp rest =>
    match resp.content with
    | none => ([], .panicked "called `Option::unwrap()` on a `None` value")
    | some .streamNotFound => ([], .failed .resourceNotFound none)
    | some (.event e) =>
      match ResolvedEvent.from crates e with
      | .ret event =>
        let (events, ending) := reading crates channelId rest
        (event :: events, ending)
      | .panic m => ([], .panicked m)
    | some _ => reading crates channelId rest

section

variable {crates : Crates} {channelId : Uuid}

variable {events : List ResolvedEvent} {inner rest : Responses}

theorem drain_done {r : List ResolvedEvent × Ending}
    (h : drainBody crates channelId (events, inner) = .done r) :
    (drainLoop crates channelId).run (events, inner) = r :=
  Loop.run_of_done (L := drainLoop crates channelId) h

theorem drain_again {s' : List ResolvedEvent × Responses}
    (h : drainBody crates channelId (events, inner) = .again s') :
    (drainLoop crates channelId).run (events, inner) = (drainLoop crates channelId).run s' :=
  Loop.run_of_again (L := drainLoop crates channelId) h

/-- A message that `next` passes over leaves the loop where it is. -/
theorem drain_pass (h : next crates ⟨channelId, inner⟩ = next crates ⟨channelId, rest⟩) :
    (drainLoop crates channelId).run (events, inner) =
      (drainLoop crates channelId).run (events, rest) := by
  have hbody : drainBody crates channelId (events, inner) =
      drainBody crates channelId (events, rest) := by simp only [drainBody, h]
  cases hb : drainBody crates channelId (events, rest) with
  | done r => rw [drain_done hb, drain_done (hbody.trans hb)]
  | again s' => rw [drain_again hb, drain_again (hbody.trans hb)]

theorem drain_run (inner : Responses) (events : List ResolvedEvent) :
    (drainLoop crates channelId).run (events, inner) =
      (events ++ (reading crates channelId inner).1, (reading crates channelId inner).2) := by
  induction inner generalizing events with
  | wait => rw [drain_done rfl, reading, List.append_nil]
  | close => rw [drain_done rfl, reading, List.append_nil]
  | fail status => rw [drain_done rfl, reading, List.append_nil]
  | msg resp rest ih =>
    have hn := @next_msg crates channelId resp rest
    cases hc : resp.content with
    | none =>
      rw [hc] at hn
      have hb : drainBody crates channelId (events, .msg resp rest) = .done (events,
          .panicked "called `Option::unwrap()` on a `None` value") := by simp only [drainBody, hn]
      rw [drain_done hb, reading, hc, List.append_nil]
    | some c =>
      rw [hc] at hn
      cases c with
      | event e =>
        cases he : ResolvedEvent.from crates e with
        | ret ev =>
          simp only [he] at hn
          have hb : drainBody crates channelId (events, .msg resp rest) =
              .again (events ++ [ev], rest) := by simp only [drainBody, hn]
          rw [drain_again hb, ih]
          simp only [reading, hc, he, List.append_assoc, List.singleton_append]
        | panic m =>
          simp only [he] at hn
          have hb : drainBody crates channelId (events, .msg resp rest) =
              .done (events, .panicked m) := by simp only [drainBody, hn]
          rw [drain_done hb]
          simp only [reading, hc, he, List.append_nil]
      | streamNotFound =>
        have hb : drainBody crates channelId (events, .msg resp rest) =
            .done (events, .failed .resourceNotFound none) := by simp only [drainBody, hn]
        rw [drain_done hb, reading, hc, List.append_nil]
      | confirmation | checkpoint | firstStreamPosition | lastStreamPosition
      | lastAllStreamPosition | caughtUp | fellBehind =>
        rw [drain_pass hn, ih]
        simp only [reading, hc]

/-- The caller gets what there is to read. -/
theorem drain_eq (inner : Responses) :
    drain crates ⟨channelId, inner⟩ = reading crates channelId inner := by
  unfold drain
  rw [drain_run, List.nil_append]

end

end ReadStream

/-! ## What callers wrote -/

/-- What an event stands for on the wire, under its id. -/
def Written.message (p : Written × Uuid) : Proto.ProposedMessage :=
  ⟨some (.from p.2), [("content-type", p.1.contentType), ("type", p.1.eventType)],
    p.1.customMetadata.getD [], p.1.payload⟩

/-- The events of a caller's append, each with its own id or the one that was drawn for it. -/
structure Posting where
  stream : Bytes
  state : StreamState
  events : List (Written × Uuid)

/-- The write that a posting becomes, alone or in a batch. -/
inductive Posts {P : Type} (toVec : P → Except String Bytes) : Posting → WriteReq → Prop where
  | append {newV4 : Nat → Uuid} {stream : NameArg} {options : AppendToStreamOptions}
      {state : StreamState} {ws : List Written} {events : List EventData} {req : WriteReq} :
    List.Forall₂ (fun w e => w.Builds toVec e) ws events →
      (appendToStreamCall newV4 stream (options.streamState state) events).write = some req →
      Posts toVec ⟨stream.intoStreamName, state,
        ws.mapIdx fun i w => (w, w.id.getD (newV4 i))⟩ req
  | batch {options : CommonOperationOptions} {now : SystemTime} {newV4 : Nat → Uuid} {b : Req}
      {m : Proto.BatchAppendReq} {ws : List Written} {req : WriteReq} :
    List.Forall₂ (fun w e => w.Builds toVec e) ws b.events →
      batchAppendReq options now newV4 b = .ret m → m.write = some req →
      Posts toVec ⟨Kurrent.utf8 b.streamName, b.expectedRevision,
        ws.mapIdx fun i w => (w, w.id.getD (newV4 i))⟩ req

/-- The streams as their writers see them. -/
abbrev Book := Bytes → List (Written × Uuid)

def Book.enter (book : Book) (p : Posting) : Book := writeAt p.stream p.state.expect p.events book

section

variable {P : Type} {toVec : P → Except String Bytes}

/-- Events that were built are sent as their messages. -/
theorem messages_of_builds {ws : List Written} {events : List EventData} (newV4 : Nat → Uuid)
    (h : List.Forall₂ (fun w e => w.Builds toVec e) ws events) :
    (events.mapIdx fun i e => e.message (newV4 i)) =
      (ws.mapIdx fun i w => (w, w.id.getD (newV4 i))).map Written.message := by
  have hevents : events = ws.map fun w => ⟨w.payload, w.id,
      [("content-type", w.contentType), ("type", w.eventType)], w.customMetadata⟩ := by
    induction h with
    | nil => rfl
    | cons hw _ ih => rw [List.map_cons, ← ih, hw.eq]
  rw [hevents]
  simp only [List.mapIdx_eq_zipIdx_map, List.zipIdx_map, List.map_map]
  rfl

theorem Posts.eq {p : Posting} {req : WriteReq} (h : Posts toVec p req) :
    req = ⟨p.stream, p.state, p.events.map Written.message⟩ := by
  cases h with
  | append hb hw =>
    rw [appendToStreamCall_write] at hw
    cases hw
    simp only [writeOf, messages_of_builds _ hb]
  | batch hb hm hw =>
    rw [(batchAppendReq_ret hm).2.2] at hw
    cases hw
    simp only [writeOf, messages_of_builds _ hb]

/-- The server's streams are the writers'. -/
theorem serve_all_book {ps : List Posting} {reqs : List WriteReq}
    (h : List.Forall₂ (Posts toVec) ps reqs) {stored : Stored} {book : Book}
    (hb : ∀ stream, stored stream = (book stream).map Written.message) (stream : Bytes) :
    reqs.foldl Stored.serve stored stream =
      (ps.foldl Book.enter book stream).map Written.message := by
  induction h generalizing stored book with
  | nil => exact hb stream
  | cons hp _ ih =>
    refine ih fun stream' => ?_
    obtain rfl := funext hb
    rw [hp.eq]
    exact writeAt_map _ _

end

/-! ## What a read asks for -/

/-- The part of a stream that the options of a read name. -/
def ReadStreamOptions.select {α : Type} (o : ReadStreamOptions) (count : Nat) (l : List α) :
    List α :=
  match o.direction, o.position with
  | .forward, .start => l.take count
  | .forward, .position rev => (l.drop rev.toNat).take count
  | .forward, .end => []
  | .backward, .start => (l.take 1).take count
  | .backward, .position rev => (l.take (rev.toNat + 1)).reverse.take count
  | .backward, .end => l.reverse.take count

/-- The messages a server reads for a request, from what it finds in it. -/
def Proto.ReadReq.messages (req : Proto.ReadReq) (stored : Stored) : List Proto.ProposedMessage :=
  match req.options.streamOption with
  | .all _ => []
  | .stream name revision =>
    let count := req.count.toNat
    if req.readDirection = 0 then
      match revision with
      | .start => (stored name).take count
      | .revision rev => ((stored name).drop rev.toNat).take count
      | .end => []
    else
      match revision with
      | .start => ((stored name).take 1).take count
      | .revision rev => ((stored name).take (rev.toNat + 1)).reverse.take count
      | .end => (stored name).reverse.take count

theorem select_map {α β : Type} (o : ReadStreamOptions) (count : Nat) (f : α → β) (l : List α) :
    o.select count (l.map f) = (o.select count l).map f := by
  unfold ReadStreamOptions.select
  cases o.direction <;> cases o.position <;>
    simp only [← List.map_take, ← List.map_drop, ← List.map_reverse, List.map_nil]

theorem readStreamCall_messages (options : ReadStreamOptions) (stream : NameArg) (count : UInt64)
    (stored : Stored) : (readStreamCall options stream count).messages stored =
      options.select count.toNat (stored stream.intoStreamName) := by
  unfold readStreamCall Proto.ReadReq.messages ReadStreamOptions.select
  cases options.direction <;> cases options.position <;> rfl

/-! ## What comes back -/

/-- The content says nothing of an event. -/
def Content.isControl : Content → Bool
  | .event _ | .streamNotFound => false
  | _ => true

/-- What a server may send for these messages: a record for each, with anything between them
that is not an event; the stream may fall silent or fail at any point. -/
inductive Served (crates : Crates) : List Proto.ProposedMessage → Responses → Prop where
  | finished : Served crates [] .close
  | notFound (rest : Responses) : Served crates [] (.msg ⟨some .streamNotFound⟩ rest)
  | silent (ms : List Proto.ProposedMessage) : Served crates ms .wait
  | fails (ms : List Proto.ProposedMessage) (status : Status) : Served crates ms (.fail status)
  | control {ms : List Proto.ProposedMessage} {c : Content} {rest : Responses} :
    c.isControl = true → Served crates ms rest → Served crates ms (.msg ⟨some c⟩ rest)
  | event {m : Proto.ProposedMessage} {ms : List Proto.ProposedMessage} {r : Proto.RecordedEvent}
      {rest : Responses} (position : Option Proto.EventPosition) :
    m.EchoedBy crates r → Served crates ms rest →
      Served crates (m :: ms) (.msg ⟨some (.event ⟨some r, none, position⟩)⟩ rest)

/-- The event is the one that was written, under its id. -/
def ReadsAs (p : Written × Uuid) (event : ResolvedEvent) : Prop :=
  ∃ e, event.event = some e ∧ event.link = none ∧ e.id = p.2 ∧ e.eventType = p.1.eventType ∧
    e.data = p.1.payload ∧ e.customMetadata = p.1.customMetadata.getD [] ∧
    (e.isJson = true ↔ p.1.isJson = true)

/-- The reader was not brought down. -/
def Ending.Orderly : Ending → Prop
  | .finished | .failed _ _ | .waiting => True
  | .spins | .panicked _ => False

section

variable {crates : Crates}

/-- The record of a message is read as what was written. -/
theorem readsAs_of_echo {p : Written × Uuid} {r : Proto.RecordedEvent}
    (h : (Written.message p).EchoedBy crates r) (position : Option Proto.EventPosition) :
    ∃ event, ResolvedEvent.from crates ⟨some r, none, position⟩ = .ret event ∧
      ReadsAs p event := by
  obtain ⟨e, he, -, hid, hty, hdata, hmeta, hjson⟩ := Echoes.readsBack h
    (p := ⟨r.id, r.streamIdentifier, r.streamRevision, r.preparePosition, r.commitPosition,
      r.metadata, r.customMetadata, r.data⟩) ⟨rfl, rfl, rfl, rfl, rfl, rfl, rfl, rfl⟩
  have hret : ∃ pos, ResolvedEvent.from crates ⟨some r, none, position⟩ =
      .ret ⟨some e, none, pos⟩ := by
    simp only [ResolvedEvent.from, recordedOpt, he, Call.ret_bind, Call.pure_eq]
    exact ⟨_, rfl⟩
  obtain ⟨pos, hret⟩ := hret
  exact ⟨_, hret, e, rfl, rfl, hid, hty, hdata, hmeta, hjson⟩

theorem reading_served (channelId : Uuid) {ms : List Proto.ProposedMessage} {inner : Responses}
    (h : Served crates ms inner) {ps : List (Written × Uuid)} (hps : ms = ps.map Written.message) :
    ∃ read, read <+: ps ∧
      List.Forall₂ ReadsAs read (ReadStream.reading crates channelId inner).1 ∧
      ((ReadStream.reading crates channelId inner).2 = .finished → read = ps) ∧
      (ReadStream.reading crates channelId inner).2.Orderly := by
  induction h generalizing ps with
  | finished =>
    obtain rfl := List.map_eq_nil_iff.mp hps.symm
    exact ⟨[], List.prefix_rfl, .nil, fun _ => rfl, trivial⟩
  | notFound rest => exact ⟨[], List.nil_prefix, .nil, nofun, trivial⟩
  | silent ms => exact ⟨[], List.nil_prefix, .nil, nofun, trivial⟩
  | fails ms status => exact ⟨[], List.nil_prefix, .nil, nofun, trivial⟩
  | control hc _ ih =>
    obtain ⟨read, hread⟩ := ih hps
    refine ⟨read, ?_⟩
    unfold ReadStream.reading
    split
    · next h => cases h
    · next h => cases h; cases hc
    · next h => cases h; cases hc
    · exact hread
  | event position hecho _ ih =>
    obtain ⟨p, ps, rfl, rfl, rfl⟩ := List.map_eq_cons_iff.mp hps.symm
    obtain ⟨read, hprefix, hreads, hall, horderly⟩ := ih rfl
    obtain ⟨event, hev, hp⟩ := readsAs_of_echo hecho position
    refine ⟨p :: read, List.cons_prefix_cons.mpr ⟨rfl, hprefix⟩, ?_⟩
    simp only [ReadStream.reading, hev]
    exact ⟨.cons hp hreads, fun hf => by rw [hall hf], horderly⟩

end

/-- **Written, then read**: whatever events callers build and append to whatever streams, one by
one or in batches and under whatever expectations, a read of a stream gives the part of it that
was asked for, event by event as it was written by the appends that were taken and in their
order: all of it if the read finishes, and otherwise what came before the server fell silent
or failed. The reader never panics. -/
theorem appends_read_back {crates : Crates} {P : Type} {toVec : P → Except String Bytes}
    {posts : List Posting} {reqs : List WriteReq} (hposts : List.Forall₂ (Posts toVec) posts reqs)
    {options : ReadStreamOptions} {stream : NameArg} {count : UInt64} {channelId : Uuid}
    {inner : Responses}
    (hserved : Served crates ((readStreamCall options stream count).messages
      (reqs.foldl Stored.serve fun _ => [])) inner) :
    ∃ events ending read, ReadStream.drain crates ⟨channelId, inner⟩ = (events, ending) ∧
      read <+: options.select count.toNat
        (posts.foldl Book.enter (fun _ => []) stream.intoStreamName) ∧
      List.Forall₂ ReadsAs read events ∧
      (ending = .finished → read = options.select count.toNat
        (posts.foldl Book.enter (fun _ => []) stream.intoStreamName)) ∧
      ending.Orderly := by
  have hstored := @serve_all_book _ _ _ _ hposts (fun _ => []) (fun _ => []) (fun _ => rfl)
    stream.intoStreamName
  rw [readStreamCall_messages, hstored, select_map] at hserved
  obtain ⟨read, hread⟩ := reading_served channelId hserved rfl
  exact ⟨_, _, read, ReadStream.drain_eq inner, hread⟩

/-- One event of bytes, appended under the id 7 and sent back. -/
def orderPosting : Posting :=
  ⟨Kurrent.utf8 "orders", .any, [(⟨false, "order", [1], none, none⟩, 7)]⟩

def orderServed : Responses :=
  .msg ⟨some (.firstStreamPosition 0)⟩ (.msg ⟨some (.event ⟨some ⟨some (.from 7), some [], 0, 0, 0,
    [("content-type", "application/octet-stream"), ("type", "order")], [], [1]⟩, none, none⟩)⟩
    .close)

theorem appends_read_back_order :
    ∃ events ending read, ReadStream.drain soloCrates ⟨1, orderServed⟩ = (events, ending) ∧
      List.Forall₂ ReadsAs read events ∧ ending.Orderly := by
  have hbuilds : List.Forall₂ (fun w e => Written.Builds (fun b : Bytes => .ok b) w e)
      [⟨false, "order", [1], none, none⟩] [EventData.binary "order" [1]] :=
    .cons (.binary "order" [1]) .nil
  have hposts : List.Forall₂ (Posts fun b : Bytes => .ok b) [orderPosting]
      [writeOf (fun _ => 7) (Kurrent.utf8 "orders") .any [EventData.binary "order" [1]]] :=
    .cons (.append hbuilds (appendToStreamCall_write (fun _ => 7) (.str "orders") {} .any _)) .nil
  have hserved : Served soloCrates ((readStreamCall {} (.str "orders") 10).messages
      ([writeOf (fun _ => 7) (Kurrent.utf8 "orders") .any [EventData.binary "order" [1]]].foldl
        Stored.serve fun _ => [])) orderServed :=
    .control rfl (.event none ⟨⟨_, _, rfl, rfl, .inl rfl⟩, rfl, fun _ _ h => h, rfl, rfl⟩ .finished)
  obtain ⟨events, ending, read, hdrain, -, hreads, -, horderly⟩ :=
    @appends_read_back _ _ _ _ _ hposts _ _ _ 1 _ hserved
  exact ⟨events, ending, read, hdrain, hreads, horderly⟩

end Kurrent
