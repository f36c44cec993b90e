import Kurrent.Streams.Delivery
import Kurrent.Streams.Drain

/-!
# Written, then delivered

Writers and a catch-up subscription on one server. The writers append what they built, to
any streams and in any interleaving with the subscription, which loses its reads, asks
again and is given up at any time. The journal is what the server has taken, in order and
with the places it gave it; what the caller of the subscription gets is held against the
part of it that the subscription is about.
-/

namespace Kurrent

open Lib

/-- An event as it was written, and where the server put it. -/
structure Publication where
  stream : Bytes
  event : Written × Uuid
  revision : UInt64
  position : Position

namespace Publication

/-- Its place among the records a subscription is about. -/
def key (target : Target) (p : Publication) : Key :=
  match target with
  | .stream _ => revisionKey p.revision
  | .all => positionKey p.position

def about (target : Target) (p : Publication) : Bool :=
  match target with
  | .stream name => p.stream == name
  | .all => true

/-- The record by which the server shows it, under its own id and in its place. -/
def ShownAs (crates : Crates) (p : Publication) (e : Proto.ReadEvent) : Prop :=
  ∃ r position, e = ⟨some r, none, position⟩ ∧ (Written.message p.event).EchoedBy crates r ∧
    r.streamRevision = p.revision ∧ r.commitPosition = p.position.commit ∧
    r.preparePosition = p.position.prepare

end Publication

/-- How a server reads a filter. -/
abbrev Filtering := FilterOptions → Publication → Bool

/-- The publications a topic shows. -/
def Topic.shows (passes : Filtering) (t : Topic) (p : Publication) : Bool :=
  p.about t.target && match t.filterOption with
    | none => true
    | some filter => passes filter p

/-- What a subscription to a topic from `f` on is to be given of the journal. -/
def Topic.due (passes : Filtering) (t : Topic) (f : From Key) (journal : List Publication) :
    List (Written × Uuid) :=
  (f.pending (Publication.key t.target) (journal.filter (t.shows passes))).map Publication.event

/-- The subscription with the writers beside it. -/
structure Published where
  catchUp : CatchUp
  stored : Stored
  journal : List Publication

namespace Published

def topic (s : Published) : Topic := s.catchUp.sub.options.topic

inductive Move where
  /-- a write arrives; if it is taken, these publications and the records of the topic are what
  becomes of it -/
  | post (posting : Posting) (req : WriteReq) (pubs : List Publication)
    (records : List Proto.ReadEvent)
  | sub (l : CatchUp.Label)

def init (sub : Subscription) (server : (t : Topic) → Log t.key) : Published :=
  ⟨.init sub server, fun _ => [], []⟩

def step (crates : Crates) (s : Published) : Move → Option Published
  | .post _ req pubs records =>
    if s.stored.takes req then
      (exec (CatchUp.step crates) s.catchUp (records.map (.append s.topic))).map fun catchUp =>
        { catchUp, stored := s.stored.serve req, journal := s.journal ++ pubs }
    else some s
  | .sub l => (s.catchUp.step crates l).map fun catchUp => { s with catchUp }

/-- What is written comes from a caller, is published as it was written, and is shown where the
topic shows it; nothing else is. -/
def Allowed {P : Type} (crates : Crates) (toVec : P → Except String Bytes) (passes : Filtering)
    (s : Published) : Move → Prop
  | .post posting req pubs records => Posts toVec posting req ∧
    pubs.map Publication.event = posting.events ∧ (∀ p ∈ pubs, p.stream = posting.stream) ∧
    List.Forall₂ (Publication.ShownAs crates) (pubs.filter (s.topic.shows passes)) records
  | .sub (.append t _) => t ≠ s.topic
  | .sub _ => True

/-- What was written to a stream, in the order it was taken. -/
def writtenTo (journal : List Publication) (stream : Bytes) : List (Written × Uuid) :=
  (journal.filter fun p => p.stream = stream).map Publication.event

/-- The journal is what the server holds, and the records of the topic are those of the
publications it shows. -/
structure Inv (crates : Crates) (passes : Filtering) (t : Topic) (s : Published) : Prop where
  topic : s.topic = t
  stored : ∀ stream, s.stored stream = (writtenTo s.journal stream).map Written.message
  shown : List.Forall₂ (Publication.ShownAs crates) (s.journal.filter (t.shows passes))
    (s.catchUp.records t)

end Published

/-! ## A step of the system -/

section

variable {crates : Crates} {w w' : CatchUp} {t : Topic}

/-- A step keeps the topic. -/
theorem topic_step {l : CatchUp.Label} (h : w.step crates l = some w') :
    w'.sub.options.topic = w.sub.options.topic := by
  cases CatchUp.step_change h with
  | grow happ heq => rw [heq]
  | quiet rs server options readers returned plain => rw [options]
  | opens s hs readers heq => rw [heq]
  | event hs next conv orig server options readers returned => rw [options, track_topic]

/-- A topic's records change only when they are appended to. -/
theorem records_step {l : CatchUp.Label} (h : w.step crates l = some w')
    (hl : ∀ e, l ≠ .append t e) : w'.records t = w.records t := by
  cases CatchUp.step_change h with
  | @grow t' e log happ heq =>
    rw [heq]
    by_cases ht : t = t'
    · subst ht
      exact absurd rfl (hl e)
    · simp only [CatchUp.records, Function.update_of_ne ht]
  | quiet rs server options readers returned plain => unfold CatchUp.records; rw [server]
  | opens s hs readers heq => rw [heq]; rfl
  | event hs next conv orig server options readers returned =>
    unfold CatchUp.records
    rw [server]

/-- Records that are appended one after the other stand behind those that were there. -/
theorem exec_append_records {es : List Proto.ReadEvent}
    (h : exec (CatchUp.step crates) w (es.map (.append t)) = some w') :
    w'.records t = w.records t ++ es ∧ w'.sub.options.topic = w.sub.options.topic := by
  induction es generalizing w with
  | nil => cases h; exact ⟨(List.append_nil _).symm, rfl⟩
  | cons e es ih =>
    obtain ⟨v, hv, hrest⟩ := exec_cons.mp h
    obtain ⟨hrecords, htopic⟩ := ih hrest
    obtain ⟨log, hlog, rfl⟩ := Option.map_eq_some_iff.mp hv
    refine ⟨?_, htopic⟩
    rw [hrecords]
    simp only [CatchUp.records, Function.update_self, Log.append_entries hlog, List.append_assoc,
      List.singleton_append]

end

namespace Published

section

variable {P : Type} {crates : Crates} {toVec : P → Except String Bytes} {passes : Filtering}
  {s s' : Published} {m : Move} {t : Topic}

theorem step_topic (hst : s.step crates m = some s') : s'.topic = s.topic := by
  cases m with
  | post posting req pubs records =>
    simp only [step] at hst
    split at hst
    · obtain ⟨w, hw, rfl⟩ := Option.map_eq_some_iff.mp hst
      exact (exec_append_records hw).2
    · cases hst
      rfl
  | sub l =>
    obtain ⟨w, hw, rfl⟩ := Option.map_eq_some_iff.mp hst
    exact topic_step hw

/-- Moves that are allowed whenever the topic is `t`, one after the other. -/
theorem along_of_topic {ms : List Move}
    (h : ∀ m ∈ ms, ∀ u : Published, u.topic = t → u.Allowed crates toVec passes m)
    (ht : s.topic = t) : Along (step crates) (Allowed crates toVec passes) s ms := by
  induction ms generalizing s with
  | nil => trivial
  | cons m ms ih =>
    obtain ⟨hm, hms⟩ := List.forall_mem_cons.mp h
    exact ⟨hm s ht, fun s' hst => ih hms ((step_topic hst).trans ht)⟩

/-- A write that is taken stands in its stream as it stands in the journal. -/
theorem stored_post {posting : Posting} {req : WriteReq} {pubs journal : List Publication}
    {stored : Stored} (hp : Posts toVec posting req)
    (hpubs : pubs.map Publication.event = posting.events)
    (hstream : ∀ p ∈ pubs, p.stream = posting.stream) (htakes : stored.takes req = true)
    (h : ∀ stream, stored stream = (writtenTo journal stream).map Written.message)
    (stream : Bytes) :
    stored.serve req stream = (writtenTo (journal ++ pubs) stream).map Written.message := by
  obtain rfl := hp.eq
  unfold writtenTo Stored.serve
  rw [List.filter_append, List.map_append, List.map_append]
  by_cases hs : stream = posting.stream
  · subst hs
    have hall : pubs.filter (fun p => p.stream = posting.stream) = pubs :=
      List.filter_eq_self.mpr fun p hmem => decide_eq_true (hstream p hmem)
    have hmet : posting.state.expect.met (stored posting.stream) = true := htakes
    rw [hall, hpubs, writeAt_self, write, if_pos hmet, Option.getD_some, h]
    rfl
  · have hnone : pubs.filter (fun p => p.stream = stream) = [] := by
      rw [List.filter_eq_nil_iff]
      intro p hmem
      rw [hstream p hmem, decide_eq_true_eq]
      exact fun he => hs he.symm
    rw [hnone, writeAt_of_ne hs, h]
    exact (List.append_nil _).symm

theorem inv_step (h : Inv crates passes t s) (ha : Allowed crates toVec passes s m)
    (hst : s.step crates m = some s') : Inv crates passes t s' := by
  have htopic := (step_topic hst).trans h.topic
  cases m with
  | post posting req pubs records =>
    obtain ⟨hp, hpubs, hstream, hshown⟩ := ha
    simp only [step] at hst
    split at hst
    · next htakes =>
      obtain ⟨w, hw, rfl⟩ := Option.map_eq_some_iff.mp hst
      obtain ⟨hrecords, -⟩ := exec_append_records hw
      rw [h.topic] at hrecords hshown
      refine ⟨htopic, stored_post hp hpubs hstream htakes h.stored, ?_⟩
      show List.Forall₂ _ ((s.journal ++ pubs).filter (t.shows passes)) (w.records t)
      rw [hrecords, List.filter_append]
      exact List.rel_append h.shown hshown
    · cases hst
      exact h
  | sub l =>
    obtain ⟨w, hw, rfl⟩ := Option.map_eq_some_iff.mp hst
    have hl : ∀ e, l ≠ .append t e := by
      rintro e rfl
      exact ha h.topic.symm
    refine ⟨htopic, h.stored, ?_⟩
    show List.Forall₂ _ (s.journal.filter (t.shows passes)) (w.records t)
    rw [records_step hw hl]
    exact h.shown

/-- A run of the system is one of the subscription and its server. -/
theorem exec_catchUp {ms : List Move} (h : exec (step crates) s ms = some s') :
    ∃ ls, exec (CatchUp.step crates) s.catchUp ls = some s'.catchUp := by
  refine exec_inv (P := fun u => ∃ ls, exec (CatchUp.step crates) s.catchUp ls = some u.catchUp)
    ?_ ⟨[], rfl⟩ h
  rintro u m u' ⟨ls, hls⟩ hst
  cases m with
  | post posting req pubs records =>
    simp only [step] at hst
    split at hst
    · obtain ⟨w, hw, rfl⟩ := Option.map_eq_some_iff.mp hst
      exact ⟨_, exec_append.mpr ⟨_, hls, hw⟩⟩
    · cases hst
      exact ⟨ls, hls⟩
  | sub l =>
    obtain ⟨w, hw, rfl⟩ := Option.map_eq_some_iff.mp hst
    exact ⟨ls ++ [l], exec_append.mpr ⟨_, hls, exec_cons.mpr ⟨w, hw, exec_nil w⟩⟩⟩

end

end Published

/-! ## What is handed out -/

section

variable {crates : Crates}

theorem shownAs_key {p : Publication} {e : Proto.ReadEvent} {t : Topic}
    (h : p.ShownAs crates e) : t.key e = p.key t.target := by
  obtain ⟨r, position, rfl, -, hrev, hcommit, hprepare⟩ := h
  unfold Topic.key Publication.key Proto.ReadEvent.original
  simp only [Option.or]
  cases t.target with
  | stream name => simp only [hrev]
  | all => simp only [hcommit, hprepare]

theorem readsAs_of_shown {p : Publication} {e : Proto.ReadEvent} (h : p.ShownAs crates e) :
    ∃ event, ResolvedEvent.from crates e = .ret event ∧ ReadsAs p.event event := by
  obtain ⟨r, position, rfl, hecho, -⟩ := h
  exact readsAs_of_echo hecho position

/-- What corresponds to a prefix. -/
theorem forall₂_initial {α β : Type} {R : α → β → Prop} {l : List α} {l' d : List β}
    (h : List.Forall₂ R l l') (hd : d <+: l') : List.Forall₂ R (l.take d.length) d := by
  have htake := List.forall₂_take d.length h
  rwa [← List.prefix_iff_eq_take.mp hd] at htake

/-- Records that show publications are handed out as what was written. -/
theorem readsAs_of_handed {ps : List Publication} {es : List Proto.ReadEvent}
    {events : List ResolvedEvent} (hs : List.Forall₂ (Publication.ShownAs crates) ps es)
    (hh : es.map (ResolvedEvent.from crates) = events.map .ret) :
    List.Forall₂ ReadsAs (ps.map Publication.event) events := by
  induction hs generalizing events with
  | nil =>
    obtain rfl := List.map_eq_nil_iff.mp hh.symm
    exact .nil
  | cons h _ ih =>
    obtain ⟨event, hev, hreads⟩ := readsAs_of_shown h
    cases events with
    | nil => cases hh
    | cons ev events =>
      rw [List.map_cons, List.map_cons, hev] at hh
      obtain ⟨he, hrest⟩ := List.cons.inj hh
      cases he
      exact .cons hreads (ih hrest)

end

open Published in
/-- **Written, then delivered**: in every run of any writers and a subscription that starts at
the beginning or after a given place, whatever is lost, refused, asked for again or given up on
the way, the caller has got a prefix of what the subscription is about, each event as it was
written and under its id, once and in order. What it is about is taken from the journal, and
the journal is what the server's streams hold. -/
theorem published_is_delivered {P : Type} {crates : Crates} {toVec : P → Except String Bytes}
    {passes : Filtering} {sub : Subscription} {f : From Key} {server : (t : Topic) → Log t.key}
    {ms : List Move} {s : Published} (hf : CatchUp.StartsFrom sub f)
    (hempty : (server sub.options.topic).entries = [])
    (hc : Along (step crates) (Allowed crates toVec passes) (init sub server) ms)
    (hrun : exec (step crates) (init sub server) ms = some s) :
    (∃ got, got <+: sub.options.topic.due passes f s.journal ∧
      List.Forall₂ ReadsAs got (events s.catchUp.returned)) ∧
    ∀ stream, s.stored stream = (writtenTo s.journal stream).map Written.message := by
  have hinit : Inv crates passes sub.options.topic (init sub server) := by
    refine ⟨rfl, fun stream => rfl, ?_⟩
    show List.Forall₂ _ [] (server sub.options.topic).entries
    rw [hempty]
    exact .nil
  have hinv := exec_along (fun u m u' hu => inv_step hu) hinit hc hrun
  obtain ⟨ls, hls⟩ := exec_catchUp hrun
  obtain ⟨d, hd⟩ := CatchUp.tracks_exec (CatchUp.init_tracks hf) hls
  have hkey (p : Publication) (e : Proto.ReadEvent) (h : p.ShownAs crates e) :
      p.key sub.options.topic.target = sub.options.topic.key e := (shownAs_key h).symm
  have hdue := pending_rel hkey f hinv.shown
  refine ⟨⟨_, ?_, readsAs_of_handed (forall₂_initial hdue hd.pending) hd.handed⟩, hinv.stored⟩
  exact (List.take_prefix _ _).map _

/-- An order of bytes, under an id of its own and as number `n` of its stream. -/
def orderOf (id : Uuid) (n : UInt64) : Publication :=
  ⟨Kurrent.utf8 "orders", (⟨false, "order", [1], none, none⟩, id), n, ⟨n, n⟩⟩

def orderShown (id : Uuid) (n : UInt64) : Proto.ReadEvent :=
  ⟨some ⟨some (.from id), some (Kurrent.utf8 "orders"), n, n, n,
    [("content-type", "application/octet-stream"), ("type", "order")], [], [1]⟩, none, none⟩

def postsOrder (id : Uuid) (n : UInt64) : Published.Move :=
  .post ⟨Kurrent.utf8 "orders", .any, [(orderOf id n).event]⟩
    ⟨Kurrent.utf8 "orders", .any, [Written.message (orderOf id n).event]⟩ [orderOf id n]
    [orderShown id n]

def ordersSubscription : Subscription :=
  subscribeToStream (Kurrent.utf8 "orders") { position := .start, retry := some {} }

def noRecords (t : Topic) : Log t.key := ⟨[], .nil⟩

def sendsOrder (id : Uuid) (n : UInt64) : Published.Move :=
  .sub (.item (.ok (some ⟨some (.event (orderShown id n))⟩)))

/-- One order is delivered, the stream is lost, another order is written and delivered too. -/
def twoOrders : List Published.Move :=
  [postsOrder 7 0, .sub .call] ++ connects.map .sub ++
    [sendsOrder 7 0, .sub .call, .sub drops, postsOrder 8 1] ++ connects.map .sub ++
    [sendsOrder 8 1]

theorem orderShown_shownAs (id : Uuid) (n : UInt64) :
    (orderOf id n).ShownAs soloCrates (orderShown id n) :=
  ⟨_, _, rfl, ⟨⟨_, _, rfl, rfl, .inl rfl⟩, rfl, fun _ _ h => h, rfl, rfl⟩, rfl, rfl, rfl⟩

theorem postsOrder_allowed {s : Published} (id : Uuid) (n : UInt64)
    (ht : s.topic = ordersSubscription.options.topic) :
    s.Allowed soloCrates (fun b : Bytes => .ok b) (fun _ _ => true) (postsOrder id n) := by
  refine ⟨?_, rfl, by simp [orderOf], ?_⟩
  · exact .append (.cons (.binary "order" [1]) .nil)
      (appendToStreamCall_write (fun _ => id) (.str "orders") {} .any _)
  · rw [ht]
    exact .cons (orderShown_shownAs id n) .nil

theorem published_is_delivered_twoOrders :
    ∃ s got, exec (Published.step soloCrates) (.init ordersSubscription noRecords) twoOrders =
        some s ∧ (events s.catchUp.returned).length = 2 ∧
      got <+: ordersSubscription.options.topic.due (fun _ _ => true) .start s.journal ∧
      List.Forall₂ ReadsAs got (events s.catchUp.returned) := by
  have hrun : (exec (Published.step soloCrates) (.init ordersSubscription noRecords)
      twoOrders).isSome := rfl
  obtain ⟨s, hs⟩ := Option.isSome_iff_exists.mp hrun
  have hallowed : Along (Published.step soloCrates)
      (Published.Allowed soloCrates (fun b : Bytes => .ok b) fun _ _ => true)
      (.init ordersSubscription noRecords) twoOrders := by
    refine Published.along_of_topic ?_ rfl
    simp only [twoOrders, connects, List.map_cons, List.map_nil, List.cons_append,
      List.nil_append, List.forall_mem_cons]
    refine ⟨fun u hu => postsOrder_allowed 7 0 hu, fun u hu => trivial, fun u hu => trivial,
      fun u hu => trivial, fun u hu => trivial, fun u hu => trivial, fun u hu => trivial,
      fun u hu => trivial, fun u hu => postsOrder_allowed 8 1 hu, fun u hu => trivial,
      fun u hu => trivial, fun u hu => trivial, fun u hu => trivial,
      fun m hm => absurd hm List.not_mem_nil⟩
  obtain ⟨⟨got, hgot, hreads⟩, -⟩ := published_is_delivered (.streamStart rfl) rfl hallowed hs
  refine ⟨s, got, hs, ?_, hgot, hreads⟩
  cases hs
  rfl

end Kurrent
