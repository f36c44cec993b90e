import Kurrent.Grpc.Failover
import Kurrent.Streams.CatchUp

/-!
# What a subscription delivers

`Tracks` ties the offset in the request, the live readers and the events handed out to one
sequence of the server's records, from a fixed starting point. A step keeps it whatever
fails: a new reader goes on after the last event handed out, and an old one has sent
nothing the caller did not get.
-/

namespace Kurrent

open Lib

namespace CatchUp

structure Tracks (crates : Crates) (t : Topic) (f : From Key) (d : List Proto.ReadEvent)
    (w : CatchUp) : Prop where
  topic : w.sub.options.topic = t
  pending : d <+: f.pending t.key (w.records t)
  handed : d.map (ResolvedEvent.from crates) = (events w.returned).map .ret
  offset : ∀ n, w.sub.options.origin n = resume t.key f d
  readers : ∀ r ∈ w.readers, OnTrack t.key f d r

section

variable {crates : Crates} {w w' : CatchUp} {l : Label} {t : Topic} {f : From Key}
  {d : List Proto.ReadEvent}

theorem events_append (rs rs' : List Returned) : events (rs ++ rs') = events rs ++ events rs' :=
  List.filterMap_append

theorem events_plain {rs : List Returned} {n : Nat}
    (h : ∀ r ∈ rs, r.event = none ∧ r.records = n) : events rs = [] := by
  unfold events
  rw [List.filterMap_eq_nil_iff]
  exact fun r hr => (h r hr).1

theorem records_grow {t' : Topic} {e : Proto.ReadEvent} {log : Log t'.key}
    (h : (w.server t').append e = some log) :
    w.records t <+: records { w with server := Function.update w.server t' log } t := by
  by_cases ht : t = t'
  · subst ht
    have he := Log.append_entries h
    simp only [records, Function.update_self, he]
    exact List.prefix_append _ _
  · simp only [records, Function.update_of_ne ht]
    exact List.prefix_refl _

/-- Handing out an event that a reader on track was sent puts the offset behind it. -/
theorem tracks_event {s : Reader Key} {e : Proto.ReadEvent} {ev : ResolvedEvent}
    {o : RecordedEvent} {n : Nat} (topic : w.sub.options.topic = t)
    (pending : d <+: f.pending t.key (w.records t))
    (handed : d.map (ResolvedEvent.from crates) = (events w.returned).map .ret)
    (hs : OnTrack t.key f d s) (next : s.next t.key (w.records t) = some e)
    (conv : ResolvedEvent.from crates e = .ret ev) (orig : ev.getOriginalEvent = .ret o)
    (server : w'.server = w.server) (options : w'.sub.options = w.sub.options.track o)
    (readers : w'.readers = [{ s with sent := s.sent + 1 }])
    (returned : w'.returned = w.returned ++ [⟨.ok (.eventAppeared ev), n⟩]) :
    Tracks crates t f (d ++ [e]) w' where
  topic := by rw [options, track_topic, topic]
  pending := by
    rw [records, server]
    exact hs.next (w.server t).sorted pending next
  handed := by
    rw [returned, events_append, List.map_append, List.map_append, handed]
    simp [events, Returned.event, conv]
  offset n := by rw [options, track_origin conv orig, resume_concat, topic]
  readers r hr := by
    rw [readers, List.mem_singleton] at hr
    rw [hr]
    exact hs.sent e

theorem tracks_step (hw : Tracks crates t f d w) (h : w.step crates l = some w') :
    Tracks crates t f d w' ∨ ∃ e, Tracks crates t f (d ++ [e]) w' := by
  cases step_change h with
  | grow happ heq =>
    subst heq
    exact .inl ⟨hw.topic, hw.pending.trans (pending_mono f (records_grow happ)), hw.handed,
      hw.offset, hw.readers⟩
  | quiet rs server options readers returned plain =>
    refine .inl ⟨by rw [options, hw.topic], ?_, ?_, ?_, fun r hr => hw.readers r (readers hr)⟩
    · rw [records, server]; exact hw.pending
    · rw [returned, events_append, events_plain plain, List.append_nil]; exact hw.handed
    · rw [options]; exact hw.offset
  | opens s hs readers heq =>
    subst heq
    refine .inl ⟨hw.topic, hw.pending, hw.handed, hw.offset, fun r hr => ?_⟩
    rcases List.mem_cons.mp (readers hr) with rfl | hr
    · rw [hs, hw.offset]
      exact OnTrack.fresh f d
    · exact hw.readers r hr
  | event hs next conv orig server options readers returned =>
    rw [hw.topic] at next
    exact .inr ⟨_, tracks_event hw.topic hw.pending hw.handed (hw.readers _ hs) next conv orig
      server options readers returned⟩

theorem tracks_exec {ls : List Label} (hw : Tracks crates t f d w)
    (h : exec (step crates) w ls = some w') : ∃ d', Tracks crates t f d' w' := by
  refine exec_inv (P := fun w => ∃ d', Tracks crates t f d' w) ?_ ⟨d, hw⟩ h
  rintro x l y ⟨d', hx⟩ hst
  rcases tracks_step hx hst with hy | ⟨e, hy⟩
  · exact ⟨d', hy⟩
  · exact ⟨d' ++ [e], hy⟩

end

/-! ## From a fixed starting point -/

/-- The subscriptions that start at the beginning or after a given record. -/
inductive StartsFrom : Subscription → From Key → Prop where
  | streamStart {name : Bytes} {o : SubscribeToStreamOptions} (h : o.position = .start) :
    StartsFrom (subscribeToStream name o) .start
  | streamPosition {name : Bytes} {o : SubscribeToStreamOptions} {r : UInt64}
    (h : o.position = .position r) :
    StartsFrom (subscribeToStream name o) (.after (revisionKey r))
  | allStart {o : SubscribeToAllOptions} (h : o.position = .start) :
    StartsFrom (subscribeToAll o) .start
  | allPosition {o : SubscribeToAllOptions} {p : Position} (h : o.position = .position p) :
    StartsFrom (subscribeToAll o) (.after (positionKey p))

theorem StartsFrom.origin {sub : Subscription} {f : From Key} (h : StartsFrom sub f) :
    sub.stream = none ∧ ∀ n, sub.options.origin n = f := by
  cases h with
  | streamStart h | streamPosition h =>
    simp [subscribeToStream, Subscription.new, ReadOptions.origin, h]
  | allStart h | allPosition h =>
    simp [subscribeToAll, Subscription.new, ReadOptions.origin, h]

theorem init_tracks {crates : Crates} {sub : Subscription} {f : From Key}
    {server : (t : Topic) → Log t.key} (hf : StartsFrom sub f) :
    Tracks crates sub.options.topic f [] (init sub server) where
  topic := rfl
  pending := List.nil_prefix
  handed := rfl
  offset := hf.origin.2
  readers := by simp [readers, init, hf.origin.1, heldBy]

end CatchUp

open CatchUp in
/-- **The events handed to the caller are a prefix of the server's sequence** after the
starting point, whatever fails, is refused, retried or dropped on the way. -/
theorem subscription_hands_out_prefix {crates : Crates} {sub : Subscription} {f : From Key}
    {server : (t : Topic) → Log t.key} {ls : List CatchUp.Label} {w : CatchUp}
    (hf : StartsFrom sub f) (hrun : exec (CatchUp.step crates) (CatchUp.init sub server) ls = some w) :
    ∃ d, d <+: f.pending sub.options.topic.key (w.records sub.options.topic) ∧
      d.map (ResolvedEvent.from crates) = (events w.returned).map .ret := by
  obtain ⟨d, hd⟩ := tracks_exec (init_tracks hf) hrun
  exact ⟨d, hd.pending, hd.handed⟩

/-- The record with number `n` of a sample stream. -/
def sampleEvent (n : UInt64) : Proto.ReadEvent :=
  ⟨some ⟨some ⟨none⟩, some [], n, n, n, [], [], []⟩, none, none⟩

/-- A server that has one record. -/
def sampleServer (t : Topic) : Log t.key := ⟨[sampleEvent 0], List.pairwise_singleton _ _⟩

def sampleSubscription (position : StreamPosition UInt64) : Subscription :=
  subscribeToStream [] { position, retry := some {} }

def sampleTopic : Topic := ⟨.stream [], false, none⟩

def sendsEvent (n : UInt64) : CatchUp.Label := .item (.ok (some ⟨some (.event (sampleEvent n))⟩))

def drops : CatchUp.Label := .item (.error ⟨.unavailable, "", [], ""⟩)

/-- A call that finds no stream gets one. -/
def connects : List CatchUp.Label :=
  [.node (.ok (Handle.ofInfo (soloInfo 1 2113))), .accept, .opened]

/-- The stream is lost between two events, with one more appended meanwhile. -/
def lossyRun : List CatchUp.Label :=
  .call :: connects ++ [sendsEvent 0, .call, drops, .append sampleTopic (sampleEvent 1)] ++
    connects ++ [sendsEvent 1]

theorem hands_out_prefix_after_drop :
    ∃ w d, exec (CatchUp.step soloCrates)
        (CatchUp.init (sampleSubscription .start) sampleServer) lossyRun = some w ∧
      d <+: w.records sampleTopic ∧ d.length = 2 ∧
      d.map (ResolvedEvent.from soloCrates) = (events w.returned).map .ret := by
  have hrun : (exec (CatchUp.step soloCrates)
      (CatchUp.init (sampleSubscription .start) sampleServer) lossyRun).isSome := rfl
  obtain ⟨w, hw⟩ := Option.isSome_iff_exists.mp hrun
  obtain ⟨d, hd, hmap⟩ := subscription_hands_out_prefix (.streamStart rfl) hw
  have hlen : (events w.returned).length = 2 := by cases hw; rfl
  refine ⟨w, d, hw, hd, ?_, hmap⟩
  rw [← hlen, ← List.length_map (Call.ret : ResolvedEvent → _), ← hmap, List.length_map]

end Kurrent
