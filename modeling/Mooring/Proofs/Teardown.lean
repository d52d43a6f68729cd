import Mooring.Proofs.StartSequence
namespace Mooring.Engine

/-- The requests `sent` after `log`, each with the engine's answer to it. -/
def exchanges (answer : Script) : List Request → List Request → List (Request × Except String Reply)
  | _, [] => []
  | log, q :: qs => (q, answer log q) :: exchanges answer (log ++ [q]) qs

theorem exchanges_append (answer : Script) (log a b : List Request) :
    exchanges answer log (a ++ b) = exchanges answer log a ++ exchanges answer (log ++ a) b := by
  induction a generalizing log with
  | nil => simp [exchanges]
  | cons q a ih => simp [exchanges, ih, List.append_assoc]

/-- Whether the engine's answer to a removal leaves the container gone: a whole answer that
succeeded, or one saying that the engine does not know the container. -/
def removalDone : Except String Reply → Bool
  | .ok reply => reply.broken.isNone && (reply.status == 204 || reply.status == 404)
  | .error _ => false

/-- How many of the requests `sent` after `log` are removals that left their container gone. -/
def removals (answer : Script) (log sent : List Request) : Nat :=
  (exchanges answer log sent).countP fun e => e.1.method == .delete && removalDone e.2

@[simp] theorem removals_nil (answer : Script) (log : List Request) : removals answer log [] = 0 :=
  rfl

theorem removals_append (answer : Script) (log a b : List Request) :
    removals answer log (a ++ b) = removals answer log a + removals answer (log ++ a) b := by
  simp [removals, exchanges_append, List.countP_append]

section Calls

variable (answer : Script) (c : Client)

theorem stopContainer_sent (id : String) (k : Nat) (log : List Request) (h : c.shutDown = false) :
    ((c.stopContainer answer.transport id k).run.run log).2 =
      log ++ [c.requestFor .post (c.urls.stopContainer id k) .empty] := by
  unfold Client.stopContainer
  rw [run_run_bind]
  have hsent := request_sent answer c .post (c.urls.stopContainer id k) .empty [204, 304] log h
  rcases hr : (c.request answer.transport .post _ _ [204, 304]).run.run log with ⟨_ | resp, s⟩ <;>
    rw [hr] at hsent <;> exact hsent

theorem removeContainer_run (id : String) (log : List Request) :
    (c.removeContainer answer.transport id true).run.run log =
      match (c.request answer.transport .delete (c.urls.removeContainer id true) .empty [204]).run.run
          log with
      | (.ok _, s) => (.ok (), s)
      | (.error e, s) => (.error e, s) := by
  unfold Client.removeContainer
  rw [run_run_bind]
  rcases (c.request answer.transport .delete _ _ [204]).run.run log with ⟨e | resp, s⟩ <;> rfl

/-- A removal counts when it succeeded or failed with not found: exactly when the engine's answer
left the container gone. -/
theorem removeContainer_gone (id : String) (log : List Request) (h : c.shutDown = false) :
    (match ((c.removeContainer answer.transport id true).run.run log).1 with
      | .ok () => true
      | .error e => e.isNotFound) = removalDone (answer log (c.removeRequest id)) := by
  rw [removeContainer_run]
  unfold Client.request Client.acquire Client.removeRequest Client.requestFor
  simp only [h, Bool.false_eq_true, if_false]
  rw [pure_bind, send_bind]
  generalize answer log _ = a
  rcases a with reason | ⟨status, chunks, _ | reason⟩
  · rfl
  · simp only [pure_bind]
    by_cases h204 : status = 204
    · subst h204
      rfl
    · -- any other status is refused, and counts only when it is 404
      have hrefused : ([204].contains status) = false := by simpa using h204
      simp only [hrefused, Bool.not_false, if_true]
      show (some status == some 404) = (true && (status == 204 || status == 404))
      simp [h204]
  · rfl

theorem stopContainer_shutDown (id : String) (k : Nat) (log : List Request) (h : c.shutDown = true) :
    ((c.stopContainer answer.transport id k).run.run log).2 = log := by
  unfold Client.stopContainer
  rw [run_run_bind, request_shutDown answer.transport c _ _ _ _ log h]

theorem removeContainer_shutDown (id : String) (log : List Request) (h : c.shutDown = true) :
    (c.removeContainer answer.transport id true).run.run log =
      (.error (.transport (c.urls.removeContainer id true) "engine client is shut down"), log) := by
  rw [removeContainer_run, request_shutDown answer.transport c _ _ _ _ log h]

end Calls

end Mooring.Engine

namespace Mooring.Run

open Mooring.Engine

/-- The request that stops a container at teardown, with the grace time teardown gives it. -/
def stopRequest (c : Client) (id : String) : Request :=
  c.requestFor .post (c.urls.stopContainer id stopGraceSecs) .empty

/-- The requests that tear down the containers `cs` in turn: each one's stop, then its removal. -/
def teardownRequests (c : Client) (cs : List StartedContainer) : List Request :=
  cs.flatMap fun x => [stopRequest c x.containerId, c.removeRequest x.containerId]

theorem removals_stop_remove (answer : Script) (c : Client) (id : String) (log : List Request) :
    removals answer log [stopRequest c id, c.removeRequest id] =
      (removalDone (answer (log ++ [stopRequest c id]) (c.removeRequest id))).toNat := by
  -- the stop is no removal; the removal counts when it left its container gone
  have hstop : (stopRequest c id).method = .post := rfl
  have hremove : (c.removeRequest id).method = .delete := rfl
  cases h : removalDone (answer (log ++ [stopRequest c id]) (c.removeRequest id)) <;>
    simp [removals, exchanges, hstop, hremove, h]

theorem liftM_bind_run {α β : Type} (y : StateM (List Request) α)
    (f : α → StateT Runner (StateM (List Request)) β) (r : Runner) (log : List Request) :
    ((liftM y >>= f : StateT Runner (StateM (List Request)) β).run r).run log =
      ((f (y.run log).1).run r).run (y.run log).2 := rfl

theorem forIn_tally (answer : Script) {α : Type}
    {body : α → Nat → StateT Runner (StateM (List Request)) (ForInStep Nat)}
    (sent : α → List Request)
    (hbody : ∀ x n r log, ((body x n).run r).run log =
      ((.yield (n + removals answer log (sent x)), r), log ++ sent x)) :
    ∀ (xs : List α) n r log, ((forIn xs n body).run r).run log =
      ((n + removals answer log (xs.flatMap sent), r), log ++ xs.flatMap sent) := by
  intro xs
  induction xs with
  | nil =>
    intro n r log
    simp only [List.forIn_nil, List.flatMap_nil, removals_nil, Nat.add_zero, List.append_nil]
    rfl
  | cons x xs ih =>
    intro n r log
    rw [List.forIn_cons, StateT.run_bind, StateT.run_bind, hbody]
    change ((forIn xs (n + removals answer log (sent x)) body).run r).run (log ++ sent x) = _
    rw [ih, List.flatMap_cons, removals_append, List.append_assoc, Nat.add_assoc]

section Teardown

variable (answer : Script) (world : World)

/-- Teardown forgets the tracked containers. Unless they are kept, it stops and then removes each
of them in reverse start order, going on whatever the engine answers, and gives how many of those
removals left their container gone (answered with success or not found): it sends each stop and
removal in turn. A client that was shut down fails every such call before sending it, so then
nothing is sent and no removal counts; kept containers get no call at all. -/
theorem stopAll_tears_down_in_reverse (r : Runner) (log : List Request) :
    let sent := if r.keepContainers || r.client.shutDown then []
      else teardownRequests r.client r.started.reverse
    ((Runner.stopAll (scriptedEnv answer world)).run r).run log =
      ((removals answer log sent, { r with started := [] }), log ++ sent) := by
  intro sent
  unfold sent Runner.stopAll
  simp only [StateT.run_bind, StateT.run_get, StateT.run_set, pure_bind]
  cases hkeep : r.keepContainers
  · simp only [Bool.false_eq_true, if_false, Bool.false_or, StateT.run_bind]
    cases hdown : r.client.shutDown with
    | false =>
      -- each turn stops its container, then removes it and counts the removal if it is gone
      rw [forIn_tally answer fun x => [stopRequest r.client x.containerId,
        r.client.removeRequest x.containerId]]
      · simp only [Bool.false_eq_true, if_false, Nat.zero_add]
        rfl
      · intro x n r' log'
        rw [liftM_bind_run, liftM_bind_run]
        have hstop : _ = log' ++ [stopRequest r.client x.containerId] :=
          stopContainer_sent answer r.client x.containerId stopGraceSecs log' hdown
        rcases hs : (r.client.stopContainer answer.transport x.containerId stopGraceSecs).run.run
          log' with ⟨stopped, log₁⟩
        rw [hs] at hstop
        dsimp only at hstop
        subst hstop
        have hremove := removeContainer_sent answer r.client x.containerId
          (log' ++ [stopRequest r.client x.containerId]) hdown
        have hgone := removeContainer_gone answer r.client x.containerId
          (log' ++ [stopRequest r.client x.containerId]) hdown
        rcases hr : (r.client.removeContainer answer.transport x.containerId true).run.run
          (log' ++ [stopRequest r.client x.containerId]) with ⟨removed, log₂⟩
        rw [hr] at hremove hgone
        dsimp only at hremove hgone
        subst hremove
        simp only [scriptedEnv_transport, hs, hr]
        rw [removals_stop_remove, ← hgone, List.append_assoc, List.singleton_append]
        rcases removed with e | ⟨⟩
        · cases he : e.isNotFound <;> simp only [he] <;> rfl
        · rfl
    | true =>
      rw [forIn_tally answer fun _ => []]
      · have hnothing : r.started.reverse.flatMap (fun _ => ([] : List Request)) = [] :=
          List.flatMap_eq_nil_iff.mpr fun _ _ => rfl
        simp only [hnothing, if_true, removals_nil]
        rfl
      · intro x n r' log'
        rw [liftM_bind_run, liftM_bind_run]
        simp only [scriptedEnv_transport, stopContainer_shutDown answer r.client x.containerId
          stopGraceSecs log' hdown, removeContainer_shutDown answer r.client x.containerId log' hdown,
          removals_nil, List.append_nil, Nat.add_zero]
        rfl
  · simp only [if_true, Bool.true_or, removals_nil, List.append_nil]
    rfl

end Teardown

end Mooring.Run
