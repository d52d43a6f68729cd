import Mooring.Engine.Client
namespace Mooring.Engine

/-- Answers compare by value, so that a call on fixed inputs is checked by evaluating it. -/
instance instDecidableEqExcept {ε α : Type} [DecidableEq ε] [DecidableEq α] :
    DecidableEq (Except ε α)
  | .error a, .error b => decidable_of_iff (a = b) (by simp)
  | .ok a, .ok b => decidable_of_iff (a = b) (by simp)
  | .error _, .ok _ => isFalse (by simp)
  | .ok _, .error _ => isFalse (by simp)

/-- A scripted engine: the answer to a request, given the requests sent before it. -/
abbrev Script := List Request → Request → Except String Reply

/-- The transport to a scripted engine, which keeps the requests it is sent. -/
def Script.transport (answer : Script) : Transport (StateM (List Request)) :=
  ⟨fun r => modifyGet fun sent => (answer sent r, sent ++ [r])⟩

/-- The request a call that reads a whole answer sends. -/
def Client.requestFor (c : Client) (method : Method) (url : String) (body : RequestBody) :
    Request :=
  ⟨method, url, body, none, c.options.requestTimeoutSecs⟩

theorem run_run_bind {ε σ α β : Type} (x : ExceptT ε (StateM σ) α)
    (f : α → ExceptT ε (StateM σ) β) (s : σ) :
    (x >>= f).run.run s = match x.run.run s with
      | (.ok a, s') => (f a).run.run s'
      | (.error e, s') => (.error e, s') := by
  simp only [ExceptT.run_bind, StateT.run_bind]
  rcases x.run.run s with ⟨_ | a, s'⟩ <;> rfl

theorem lift_run {σ α : Type} (r : Except EngineError α) (s : σ) :
    (Client.lift r : ExceptT EngineError (StateM σ) α).run.run s = (r, s) := rfl

theorem exceptLift_run {ε σ α : Type} (x : StateM σ α) (s : σ) :
    (ExceptT.lift x : ExceptT ε (StateM σ) α).run.run s = (.ok (x.run s).1, (x.run s).2) := rfl

section

variable {σ : Type} (T : Transport (StateM σ)) (c : Client)

theorem request_shutDown (method : Method) (url : String) (body : RequestBody)
    (accepted : List Nat) (s : σ) (h : c.shutDown = true) :
    (c.request T method url body accepted).run.run s =
      (.error (.transport url "engine client is shut down"), s) := by
  unfold Client.request Client.acquire
  simp only [h, if_true]
  rfl

theorem streamRequest_shutDown (method : Method) (url : String) (body : RequestBody)
    (auth : Option RegistryAuth) (s : σ) (h : c.shutDown = true) :
    (c.streamRequest T method url body auth).run.run s =
      (.error (.transport url "engine client is shut down"), s) := by
  unfold Client.streamRequest Client.acquire
  simp only [h, if_true]
  rfl

theorem request_ok_not_shutDown {method : Method} {url : String} {body : RequestBody}
    {accepted : List Nat} {s s' : σ} {r : Response}
    (h : (c.request T method url body accepted).run.run s = (.ok r, s')) : c.shutDown = false := by
  cases hc : c.shutDown
  · rfl
  · rw [request_shutDown T c method url body accepted s hc] at h
    cases h

end

section

variable (answer : Script) (c : Client)

theorem send_bind {β : Type} (r : Request)
    (g : Except String Reply → ExceptT EngineError (StateM (List Request)) β)
    (log : List Request) :
    (liftM (answer.transport.send r) >>= g).run.run log =
      (g (answer log r)).run.run (log ++ [r]) := rfl

theorem request_sent (method : Method) (url : String) (body : RequestBody)
    (accepted : List Nat) (log : List Request) (h : c.shutDown = false) :
    ((c.request answer.transport method url body accepted).run.run log).2 =
      log ++ [c.requestFor method url body] := by
  unfold Client.request Client.acquire
  simp only [h, Bool.false_eq_true, if_false]
  rw [pure_bind, send_bind]
  generalize answer log _ = a
  rcases a with reason | ⟨status, chunks, _ | reason⟩
  · rfl
  · simp only [pure_bind]
    split <;> rfl
  · rfl

/-- The engine's answer is whole and has one of the accepted statuses. -/
def Accepts (accepted : List Nat) : Except String Reply → Bool
  | .ok reply => reply.broken.isNone && accepted.contains reply.status
  | .error _ => false

theorem request_isOk (method : Method) (url : String) (body : RequestBody)
    (accepted : List Nat) (log : List Request) (h : c.shutDown = false) :
    ((c.request answer.transport method url body accepted).run.run log).1.isOk =
      Accepts accepted (answer log (c.requestFor method url body)) := by
  unfold Client.request Client.acquire Client.requestFor
  simp only [h, Bool.false_eq_true, if_false]
  rw [pure_bind, send_bind]
  generalize answer log _ = a
  rcases a with reason | ⟨status, chunks, _ | reason⟩
  · rfl
  · simp only [pure_bind, Accepts, Option.isNone_none, Bool.true_and]
    split <;> simp_all <;> rfl
  · rfl

theorem streamRequest_sent (method : Method) (url : String) (body : RequestBody)
    (auth : Option RegistryAuth) (log : List Request) (h : c.shutDown = false) :
    ((c.streamRequest answer.transport method url body auth).run.run log).2 =
      log ++ [⟨method, url, body, auth.map (·.toHeader), none⟩] := by
  unfold Client.streamRequest Client.acquire
  simp only [h, Bool.false_eq_true, if_false]
  rw [pure_bind, send_bind]
  generalize answer log _ = a
  rcases a with reason | reply
  · rfl
  · simp only [pure_bind]
    split <;> rfl

end

/-- Every request the call sends, from any log, has the property `P`. -/
def SendsOnly {α : Type} (P : Request → Prop) (x : ExceptT EngineError (StateM (List Request)) α) :
    Prop :=
  ∀ log, ∃ new, (x.run.run log).2 = log ++ new ∧ ∀ r ∈ new, P r

namespace SendsOnly

variable {P Q : Request → Prop} {α β : Type}

theorem pure (a : α) : SendsOnly P (Pure.pure a) :=
  fun log => ⟨[], by simp; rfl, by simp⟩

theorem throw (e : EngineError) : SendsOnly P (MonadExcept.throw e : ExceptT _ _ α) :=
  fun log => ⟨[], by simp; rfl, by simp⟩

theorem lift (r : Except EngineError α) : SendsOnly P (Client.lift r) :=
  fun log => ⟨[], by simp [lift_run], by simp⟩

theorem mono {x : ExceptT EngineError (StateM (List Request)) α} (h : SendsOnly P x)
    (hPQ : ∀ r, P r → Q r) : SendsOnly Q x := fun log => by
  obtain ⟨new, hnew, hP⟩ := h log
  exact ⟨new, hnew, fun r hr => hPQ r (hP r hr)⟩

theorem bind {x : ExceptT EngineError (StateM (List Request)) α}
    {f : α → ExceptT EngineError (StateM (List Request)) β} (hx : SendsOnly P x)
    (hf : ∀ a, SendsOnly P (f a)) : SendsOnly P (x >>= f) := fun log => by
  obtain ⟨new, hnew, hP⟩ := hx log
  rw [run_run_bind]
  rcases hxr : x.run.run log with ⟨_ | a, s⟩
  · rw [hxr] at hnew
    exact ⟨new, hnew, hP⟩
  · rw [hxr] at hnew
    obtain ⟨new', hnew', hP'⟩ := hf a s
    refine ⟨new ++ new', by rw [hnew', show s = log ++ new from hnew, List.append_assoc],
      fun r hr => ?_⟩
    rcases List.mem_append.mp hr with hr | hr
    · exact hP r hr
    · exact hP' r hr

end SendsOnly

section

variable (answer : Script) (c : Client)

theorem request_sendsOnly (method : Method) (url : String) (body : RequestBody)
    (accepted : List Nat) :
    SendsOnly (· = c.requestFor method url body)
      (c.request answer.transport method url body accepted) := fun log => by
  cases h : c.shutDown
  · exact ⟨_, request_sent answer c method url body accepted log h, by simp⟩
  · exact ⟨[], by rw [request_shutDown answer.transport c method url body accepted log h]; simp, by simp⟩

theorem streamRequest_sendsOnly (method : Method) (url : String) (body : RequestBody)
    (auth : Option RegistryAuth) :
    SendsOnly (· = ⟨method, url, body, auth.map (·.toHeader), none⟩)
      (c.streamRequest answer.transport method url body auth) := fun log => by
  cases h : c.shutDown
  · exact ⟨_, streamRequest_sent answer c method url body auth log h, by simp⟩
  · exact ⟨[], by rw [streamRequest_shutDown answer.transport c method url body auth log h]; simp,
      by simp⟩

end

end Mooring.Engine
