import Mooring.Proofs.StreamChunks
import Mooring.Engine.Client
namespace Mooring.Engine.EventStream

open StreamDecoder

/-- The events the stream still gives: the decoded ones waiting, then those the chunks left
decode to. -/
def ahead (s : EventStream) : List StreamEvent :=
  s.pending ++ match s.body with
    | none => []
    | some (chunks, _) => (s.decoder.pushAll chunks).2.map StreamEvent.classify

/-- The failure the body ends with once the events ahead were given out, if it breaks off. -/
def failure (s : EventStream) : Option EngineError :=
  match s.body with
  | some (_, some reason) => some (.transport s.url reason)
  | _ => none

/-- What `nextEvent` answers once nothing is ahead: the failure, else that the stream ended. -/
def closing (s : EventStream) : Except EngineError (Option StreamEvent) :=
  match s.failure with
  | some e => .error e
  | none => .ok none

/-- What giving out the next event from `s` may do: give the first event ahead, leaving the rest
ahead, the same failure and that event's message recorded if it is an error; or, with nothing
ahead, answer the closing and leave the recorded messages as they were. -/
def Gives (s : EventStream) : Except EngineError (Option StreamEvent) × EventStream → Prop
  | (r, s') =>
    match s.ahead with
    | e :: rest => r = .ok (some e) ∧ s'.ahead = rest ∧ s'.failure = s.failure ∧
        s'.errors = s.errors ++ e.errorMessage?.toList
    | [] => r = s.closing ∧ s'.errors = s.errors

theorem gives_congr (s₁ s : EventStream) (ha : s₁.ahead = s.ahead) (hf : s₁.failure = s.failure)
    (he : s₁.errors = s.errors) : Gives s₁ = Gives s := by
  funext ⟨r, s'⟩
  simp only [Gives, ha, hf, he, closing]

theorem ahead_read (s : EventStream) (hp : s.pending = []) {chunk : List UInt8}
    {chunks : List (List UInt8)} {broken : Option String}
    (hb : s.body = some (chunk :: chunks, broken)) :
    ahead { s with
      decoder := (s.decoder.push chunk).1
      body := some (chunks, broken)
      pending := (s.decoder.push chunk).2.map StreamEvent.classify } = s.ahead := by
  simp [ahead, hp, hb, pushAll]

theorem nextEvent_gives (s : EventStream) : Gives s s.nextEvent := by
  fun_induction nextEvent s with
  | case1 s event rest hp =>
    simp [Gives, ahead, failure, hp]
  | case2 s hp hb =>
    simp [Gives, ahead, closing, failure, hp, hb]
  | case3 s hp hb ih =>
    -- the end finishes the decoder: nothing was ahead and nothing is
    have hend := gives_congr { s with decoder := s.decoder.finish, body := none } s
      (by simp [ahead, hp, hb, pushAll]) (by simp [failure, hb]) rfl
    rwa [hend] at ih
  | case4 s hp reason hb =>
    simp [Gives, ahead, closing, failure, hp, hb, pushAll]
  | case5 s hp chunk chunks broken hb decoder values hpush events ih =>
    have hread := ahead_read s hp hb
    rw [hpush] at hread
    rwa [gives_congr _ s hread (by cases broken <;> simp [failure, hb]) rfl] at ih

variable {σ : Type} (onEvent : σ → StreamEvent → σ)

theorem consume_gives (s : EventStream) (acc : σ) :
    ∃ r s', Gives s (r, s') ∧
      s.consume onEvent acc =
        match r with
        | .error e => (some e, acc, s')
        | .ok none => (none, acc, s')
        | .ok (some event) => s'.consume onEvent (onEvent acc event) := by
  have hg := nextEvent_gives s
  rw [consume]
  split <;> rename_i s' hstep <;> rw [hstep] at hg <;> exact ⟨_, s', hg, rfl⟩

theorem filterMap_errorMessage_cons (e : StreamEvent) (rest : List StreamEvent) :
    (e :: rest).filterMap StreamEvent.errorMessage? =
      e.errorMessage?.toList ++ rest.filterMap StreamEvent.errorMessage? := by
  cases h : e.errorMessage? <;> simp [h]

/-- Consuming the stream folds every event ahead in order, records the messages of the error
events among them, and ends with the stream's failure. The induction is on the events ahead,
one `nextEvent` per event. -/
theorem consume_spec (events : List StreamEvent) :
    ∀ (s : EventStream) (acc : σ), s.ahead = events →
      (s.consume onEvent acc).1 = s.failure ∧
        (s.consume onEvent acc).2.1 = events.foldl onEvent acc ∧
        (s.consume onEvent acc).2.2.errors =
          s.errors ++ events.filterMap StreamEvent.errorMessage? := by
  induction events with
  | nil =>
    intro s acc hs
    obtain ⟨r, s', hg, hconsume⟩ := consume_gives onEvent s acc
    simp only [Gives, hs] at hg
    obtain ⟨rfl, herrors⟩ := hg
    rw [hconsume]
    unfold closing
    cases s.failure <;> simp [herrors]
  | cons e rest ih =>
    intro s acc hs
    obtain ⟨r, s', hg, hconsume⟩ := consume_gives onEvent s acc
    simp only [Gives, hs] at hg
    obtain ⟨rfl, hrest, hfailure, herrors⟩ := hg
    obtain ⟨h1, h2, h3⟩ := ih s' (onEvent acc e) hrest
    rw [hconsume]
    refine ⟨h1.trans hfailure, h2, ?_⟩
    rw [h3, herrors, filterMap_errorMessage_cons, List.append_assoc]

@[simp] theorem ahead_ofReply (url : String) (reply : Reply) :
    (ofReply url reply).ahead = (empty.pushAll reply.chunks).2.map StreamEvent.classify := by
  simp [ahead, ofReply]

@[simp] theorem failure_ofReply (url : String) (reply : Reply) :
    (ofReply url reply).failure = reply.broken.map (.transport url) := by
  cases h : reply.broken <;> simp [failure, ofReply, h]

theorem length_filterMap_errorMessage (events : List StreamEvent) :
    (events.filterMap StreamEvent.errorMessage?).length = events.countP StreamEvent.isError := by
  induction events with
  | nil => rfl
  | cons e rest ih =>
    rw [filterMap_errorMessage_cons, List.length_append, ih, List.countP_cons]
    cases e <;> simp [StreamEvent.errorMessage?, StreamEvent.isError, Nat.add_comm]

/-- Draining a streamed answer hands every event of its body to `onEvent`, in order: the
classification of each value the decoder reads from the chunks, an error event included. A body
that breaks off fails the drain with its transport failure, once the events of the chunks before
it were handed out. A body that ends cleanly fails it exactly when an event was an error, with the
first error's message and the number of error events. -/
theorem drainWith_reports_every_event (url operation : String) (reply : Reply) (acc : σ) :
    let events := (empty.pushAll reply.chunks).2.map StreamEvent.classify
    (ofReply url reply).drainWith operation onEvent acc =
      (match reply.broken, events.filterMap StreamEvent.errorMessage? with
        | some reason, _ => .error (.transport url reason)
        | none, [] => .ok ()
        | none, first :: _ => .error (.stream operation first (events.countP StreamEvent.isError)),
       events.foldl onEvent acc) := by
  intro events
  obtain ⟨hfailure, hfold, herrors⟩ := consume_spec onEvent events (ofReply url reply) acc
    (ahead_ofReply url reply)
  unfold drainWith
  generalize (ofReply url reply).consume onEvent acc = r at hfailure hfold herrors
  obtain ⟨f, acc', s'⟩ := r
  simp only [failure_ofReply] at hfailure
  simp only at hfold herrors
  subst hfailure hfold
  rw [← length_filterMap_errorMessage]
  cases reply.broken with
  | some reason => rfl
  | none =>
    simp only [Option.map_none, herrors, ofReply, List.nil_append]
    cases events.filterMap StreamEvent.errorMessage? <;> rfl

end Mooring.Engine.EventStream

namespace Mooring.Engine

open StreamDecoder EventStream

theorem foldl_snoc {α : Type} (acc l : List α) :
    l.foldl (fun es e => es ++ [e]) acc = acc ++ l := by
  induction l generalizing acc with
  | nil => simp
  | cons e l ih => simp [ih]

theorem drain_spec (url : String) (reply : Reply) :
    let events := (empty.pushAll reply.chunks).2.map StreamEvent.classify
    (drain url reply).events = events ∧
      (drain url reply).errors = events.filterMap StreamEvent.errorMessage? ∧
      (drain url reply).failure = reply.broken.map (.transport url) := by
  intro events
  obtain ⟨hfailure, hfold, herrors⟩ := consume_spec (fun es e => es ++ [e]) events
    (ofReply url reply) [] (ahead_ofReply url reply)
  unfold drain
  generalize (ofReply url reply).consume (fun es e => es ++ [e]) [] = r at hfailure hfold herrors
  obtain ⟨f, events', s'⟩ := r
  simp only [failure_ofReply] at hfailure
  simp only [foldl_snoc, List.nil_append] at hfold herrors
  exact ⟨hfold, by simpa [ofReply] using herrors, hfailure⟩

theorem drain_result (url operation : String) (reply : Reply) :
    let events := (empty.pushAll reply.chunks).2.map StreamEvent.classify
    (drain url reply).result operation =
      match reply.broken, events.filterMap StreamEvent.errorMessage? with
      | some reason, _ => .error (.transport url reason)
      | none, [] => .ok ()
      | none, first :: _ => .error (.stream operation first (events.countP StreamEvent.isError)) := by
  intro events
  obtain ⟨-, herrors, hfailure⟩ := drain_spec url reply
  unfold Drained.result
  rw [herrors, hfailure, ← length_filterMap_errorMessage]
  cases reply.broken with
  | some reason => rfl
  | none => cases events.filterMap StreamEvent.errorMessage? <;> rfl

end Mooring.Engine
