import Mooring.Proofs.PushCleanup
import Mooring.Wait.Probes
namespace Mooring.Engine

open Mooring.Text

theorem upperHexDigit_ne_question (n : Nat) : upperHexDigit n ≠ '?' := by
  unfold upperHexDigit
  rw [List.getD_eq_getElem?_getD]
  cases h : "0123456789ABCDEF".toList[n]? with
  | none => decide
  | some c =>
    have hall := List.all_eq_true.mp
      (show "0123456789ABCDEF".toList.all (· != '?') = true by decide) c (List.mem_of_getElem? h)
    simpa using hall

theorem question_not_mem_percentByte (b : UInt8) : '?' ∉ percentByte b := by
  unfold percentByte
  split
  · rename_i hb
    intro h
    -- a byte that stands for itself is a letter, a digit or one of `-_.~`, never `?`
    have hv : b.toNat.isValidChar := Or.inl (by have := b.toNat_lt; omega)
    have h63 := congrArg Char.toNat (List.mem_singleton.mp h).symm
    rw [Char.ofNat, dif_pos hv] at h63
    have hb63 : b = 63 := UInt8.toNat_inj.mp h63
    subst hb63
    revert hb
    decide
  · simp only [List.mem_cons, List.not_mem_nil, or_false, not_or]
    exact ⟨by decide, (upperHexDigit_ne_question _).symm, (upperHexDigit_ne_question _).symm⟩

namespace UrlBuilder

/-- The path of an address of the API: what follows the versioned prefix, up to the query. -/
def pathOf (b : UrlBuilder) (url : String) : Option String :=
  let pre := (b.baseUrl ++ "/v" ++ b.apiVersion ++ "/").toList
  if pre.isPrefixOf url.toList then
    some (String.ofList ((url.toList.drop pre.length).takeWhile (· != '?')))
  else none

theorem question_not_mem_segment (id : String) : '?' ∉ (segment id).toList := by
  simp only [segment, percentEncode, String.toList_ofList, List.mem_flatMap, not_exists, not_and]
  exact fun b _ => question_not_mem_percentByte b

theorem pathOf_url (b : UrlBuilder) {path : String} (h : '?' ∉ path.toList) (q : Query) :
    b.pathOf (b.url path q) = some path := by
  have hurl : (b.url path q).toList =
      (b.baseUrl ++ "/v" ++ b.apiVersion ++ "/").toList ++ (path.toList ++ (renderQuery q).toList) := by
    simp only [url, String.toList_append, List.append_assoc]
  have hpre : (b.baseUrl ++ "/v" ++ b.apiVersion ++ "/").toList.isPrefixOf
      ((b.baseUrl ++ "/v" ++ b.apiVersion ++ "/").toList ++ (path.toList ++ (renderQuery q).toList)) :=
    List.isPrefixOf_iff_prefix.mpr (List.prefix_append _ _)
  -- the query is empty or starts with its `?`
  have hquery : (renderQuery q).toList.takeWhile (· != '?') = [] := by
    unfold renderQuery
    split <;> simp
  have hpath : ∀ ch ∈ path.toList, (ch != '?') = true := by
    intro ch hc
    simp only [bne_iff_ne, ne_eq]
    rintro rfl
    exact h hc
  simp only [pathOf, hurl, hpre, if_true, List.drop_left, List.takeWhile_append_of_pos hpath,
    hquery, List.append_nil, String.ofList_toList]

end UrlBuilder

namespace Client

/-- A request that asks the engine to create a container. -/
def isCreate (c : Client) (q : Request) : Bool :=
  q.method == .post && c.urls.pathOf q.url == some "containers/create"

/-- The request that creates a container from `body`, under `name` if one is given. -/
def createRequestFor (c : Client) (body : CreateRequest) (name : Option String) : Request :=
  c.requestFor .post (c.urls.createContainer name) (.json body.toValue)

/-- The request that removes a container with its volumes. -/
def removeRequest (c : Client) (id : String) : Request :=
  c.requestFor .delete (c.urls.removeContainer id true) .empty

/-- A request that neither creates nor removes a container. -/
def Quiet (c : Client) (q : Request) : Prop := c.isCreate q = false ∧ q.method ≠ .delete

variable (c : Client)

@[simp] theorem isCreate_createRequestFor (body : CreateRequest) (name : Option String) :
    c.isCreate (c.createRequestFor body name) = true := by
  have h : c.urls.pathOf (c.urls.createContainer name) = some "containers/create" :=
    c.urls.pathOf_url (by decide) _
  simp [isCreate, createRequestFor, requestFor, h]

@[simp] theorem isCreate_removeRequest (id : String) : c.isCreate (c.removeRequest id) = false := by
  simp [isCreate, removeRequest, requestFor]

theorem quiet_of_get {q : Request} (h : q.method = .get) : c.Quiet q := by
  simp [Quiet, isCreate, h]

theorem quiet_of_post {q : Request} (h : q.method = .post)
    (hpath : c.urls.pathOf q.url ≠ some "containers/create") : c.Quiet q := by
  simp [Quiet, isCreate, h, hpath]

theorem quiet_of_container_path {q : Request} (h : q.method = .post) (id rest : String)
    (hurl : q.url = c.urls.url ("containers/" ++ UrlBuilder.segment id ++ rest) [])
    (hslash : '/' ∈ rest.toList) (hrest : '?' ∉ rest.toList) : c.Quiet q := by
  refine c.quiet_of_post h ?_
  have hq : '?' ∉ ("containers/" ++ UrlBuilder.segment id ++ rest).toList := by
    simp only [String.toList_append, List.mem_append, not_or]
    exact ⟨⟨by decide, UrlBuilder.question_not_mem_segment id⟩, hrest⟩
  rw [hurl, c.urls.pathOf_url hq]
  intro heq
  have hl := congrArg String.toList (Option.some.inj heq)
  simp only [String.toList_append, List.append_assoc] at hl
  rw [show "containers/create".toList = "containers/".toList ++ "create".toList from rfl,
    List.append_cancel_left_eq] at hl
  have hmem : '/' ∈ (UrlBuilder.segment id).toList ++ rest.toList := List.mem_append_right _ hslash
  rw [hl] at hmem
  revert hmem
  decide

theorem quiet_of_exec_path {q : Request} (h : q.method = .post) (id rest : String)
    (hurl : q.url = c.urls.url ("exec/" ++ UrlBuilder.segment id ++ rest) [])
    (hrest : '?' ∉ rest.toList) : c.Quiet q := by
  refine c.quiet_of_post h ?_
  have hq : '?' ∉ ("exec/" ++ UrlBuilder.segment id ++ rest).toList := by
    simp only [String.toList_append, List.mem_append, not_or]
    exact ⟨⟨by decide, UrlBuilder.question_not_mem_segment id⟩, hrest⟩
  rw [hurl, c.urls.pathOf_url hq]
  intro heq
  have hl := congrArg (fun t : String => t.toList.head?) (Option.some.inj heq)
  have he : ("exec/".toList ++ ((UrlBuilder.segment id).toList ++ rest.toList)).head? = some 'e' :=
    rfl
  simp only [String.toList_append, List.append_assoc, he] at hl
  exact absurd hl (by decide)

end Client

/-- The response a call that reads a whole answer goes on with, when the answer is whole and has
one of the accepted statuses. -/
def acceptedResponse (accepted : List Nat) (url : String) : Except String Reply → Option Response
  | .ok reply =>
    if reply.broken.isNone && accepted.contains reply.status then some ⟨url, reply.status, reply.body⟩
    else none
  | .error _ => none

/-- The id in the engine's answer to a request to create a container, when the create call reads
one. -/
def createdId (q : Request) (a : Except String Reply) : Option String :=
  (acceptedResponse [201] q.url a).bind fun r => (r.json Created.decoder).toOption.map (·.id)

/-- The ids the engine gives to the containers it is asked to create by the requests `new`, sent
after `log`. -/
def createdIds (answer : Script) (c : Client) : List Request → List Request → List String
  | _, [] => []
  | log, q :: new =>
    (if c.isCreate q then (createdId q (answer log q)).toList else []) ++
      createdIds answer c (log ++ [q]) new

section Created

variable (answer : Script) (c : Client)

theorem createdIds_append (log a b : List Request) :
    createdIds answer c log (a ++ b) =
      createdIds answer c log a ++ createdIds answer c (log ++ a) b := by
  induction a generalizing log with
  | nil => simp [createdIds]
  | cons q a ih => simp [createdIds, ih, List.append_assoc]

theorem createdIds_eq_nil {log new : List Request} (h : ∀ q ∈ new, c.isCreate q = false) :
    createdIds answer c log new = [] := by
  induction new generalizing log with
  | nil => rfl
  | cons q new ih =>
    simp only [createdIds, h q (by simp), Bool.false_eq_true, if_false, List.nil_append]
    exact ih fun q' hq' => h q' (by simp [hq'])

theorem createdIds_quiet {log new : List Request} (h : ∀ q ∈ new, c.Quiet q) :
    createdIds answer c log new = [] ∧ deletions new = [] :=
  ⟨createdIds_eq_nil answer c fun q hq => (h q hq).1,
    deletions_eq_nil fun q hq => by simpa using (h q hq).2⟩

@[simp] theorem createdIds_removeRequest (log : List Request) (id : String) :
    createdIds answer c log [c.removeRequest id] = [] := by
  simp [createdIds]

@[simp] theorem createdIds_createRequestFor (log : List Request) (body : CreateRequest)
    (name : Option String) :
    createdIds answer c log [c.createRequestFor body name] =
      (createdId (c.createRequestFor body name) (answer log (c.createRequestFor body name))).toList := by
  simp [createdIds]

end Created

/-- Every request the computation sends, from any log, has the property `P`. -/
def Adds {α : Type} (P : Request → Prop) (x : StateM (List Request) α) : Prop :=
  ∀ log, ∃ new, (x.run log).2 = log ++ new ∧ ∀ q ∈ new, P q

namespace Adds

variable {P : Request → Prop} {α β : Type}

theorem pure (a : α) : Adds P (Pure.pure a) := fun log => ⟨[], by simp; rfl, by simp⟩

theorem bind {x : StateM (List Request) α} {f : α → StateM (List Request) β} (hx : Adds P x)
    (hf : ∀ a, Adds P (f a)) : Adds P (x >>= f) := fun log => by
  obtain ⟨new, hnew, hP⟩ := hx log
  obtain ⟨new', hnew', hP'⟩ := hf (x.run log).1 (x.run log).2
  refine ⟨new ++ new', ?_, fun q hq => ?_⟩
  · change ((f (x.run log).1).run (x.run log).2).2 = _
    rw [hnew', hnew, List.append_assoc]
  · rcases List.mem_append.mp hq with hq | hq
    · exact hP q hq
    · exact hP' q hq

theorem get : Adds P (MonadState.get : StateM (List Request) (List Request)) :=
  fun log => ⟨[], by simp; rfl, by simp⟩

theorem filterM {p : β → StateM (List Request) Bool} (hp : ∀ a, Adds P (p a)) (l : List β) :
    Adds P (l.filterM p) := by
  have haux : ∀ (l acc : List β), Adds P (List.filterAuxM p l acc) := by
    intro l
    induction l with
    | nil => exact fun acc => pure acc
    | cons a l ih => exact fun acc => (hp a).bind fun b => ih _
  exact (haux l []).bind fun as => pure as.reverse

end Adds

section Calls

variable (answer : Script) (c : Client)

theorem request_eq_ok_iff (method : Method) (url : String) (body : RequestBody)
    (accepted : List Nat) (log : List Request) (h : c.shutDown = false) (resp : Response) :
    ((c.request answer.transport method url body accepted).run.run log).1 = .ok resp ↔
      acceptedResponse accepted url (answer log (c.requestFor method url body)) = some resp := by
  unfold Client.request Client.acquire Client.requestFor
  simp only [h, Bool.false_eq_true, if_false]
  rw [pure_bind, send_bind]
  generalize answer log _ = a
  rcases a with reason | ⟨status, chunks, _ | reason⟩
  · simp only [acceptedResponse, reduceCtorEq, iff_false]
    intro h
    cases h
  · simp only [pure_bind, acceptedResponse, Option.isNone_none, Bool.true_and]
    split
    · simp_all
    · simp_all
      exact ⟨fun h => Except.ok.inj h, fun h => by rw [← h]; rfl⟩
  · simp [acceptedResponse]

theorem createContainer_run (body : CreateRequest) (name : Option String) (log : List Request) :
    (c.createContainer answer.transport body name).run.run log =
      match (c.request answer.transport .post (c.urls.createContainer name) (.json body.toValue)
          [201]).run.run log with
      | (.ok resp, s) => ((resp.json Created.decoder).map (·.id), s)
      | (.error e, s) => (.error e, s) := by
  unfold Client.createContainer
  rw [run_run_bind]
  rcases (c.request answer.transport .post _ _ [201]).run.run log with ⟨e | resp, s⟩
  · rfl
  · simp only [run_run_bind, lift_run]
    cases resp.json Created.decoder <;> rfl

theorem createContainer_sent (body : CreateRequest) (name : Option String) (log : List Request)
    (h : c.shutDown = false) :
    ((c.createContainer answer.transport body name).run.run log).2 =
      log ++ [c.createRequestFor body name] := by
  have hsent := request_sent answer c .post (c.urls.createContainer name) (.json body.toValue) [201]
    log h
  rw [createContainer_run]
  rcases hr : (c.request answer.transport .post _ _ [201]).run.run log with ⟨e | resp, s⟩ <;>
    rw [hr] at hsent <;> exact hsent

/-- A create call gives an id exactly when the engine's answer to its request carries one. -/
theorem createContainer_eq_ok_iff (body : CreateRequest) (name : Option String)
    (log : List Request) (h : c.shutDown = false) (id : String) :
    ((c.createContainer answer.transport body name).run.run log).1 = .ok id ↔
      createdId (c.createRequestFor body name) (answer log (c.createRequestFor body name)) =
        some id := by
  have hreq := request_eq_ok_iff answer c .post (c.urls.createContainer name) (.json body.toValue)
    [201] log h
  rw [createContainer_run]
  simp only [createdId, Client.createRequestFor]
  rcases hr : (c.request answer.transport .post _ _ [201]).run.run log with ⟨e | resp, s⟩
  · rw [hr] at hreq
    have hnone : acceptedResponse [201] (c.urls.createContainer name)
        (answer log (c.requestFor .post (c.urls.createContainer name) (.json body.toValue))) =
          none := by
      cases hacc : acceptedResponse [201] _ _ with
      | none => rfl
      | some r => exact absurd ((hreq r).mpr hacc) (by simp)
    simp [Client.requestFor] at hnone
    simp [Client.requestFor, hnone]
  · rw [hr] at hreq
    have hsome := (hreq resp).mp rfl
    simp only [Client.requestFor] at hsome
    simp only [Client.requestFor, hsome, Option.bind_some]
    cases resp.json Created.decoder <;> simp [Except.map, Except.toOption]

theorem removeContainer_sent (id : String) (log : List Request) (h : c.shutDown = false) :
    ((c.removeContainer answer.transport id true).run.run log).2 = log ++ [c.removeRequest id] := by
  unfold Client.removeContainer
  rw [run_run_bind]
  have := request_sent answer c .delete (c.urls.removeContainer id true) .empty [204] log h
  rcases hr : (c.request answer.transport .delete _ _ [204]).run.run log with ⟨_ | resp, s⟩ <;>
    rw [hr] at this <;> exact this

theorem get_quiet {url : String} : ∀ q, q = c.requestFor .get url .empty → c.Quiet q := by
  rintro q rfl
  exact c.quiet_of_get rfl

theorem hasImage_quiet (name : String) : SendsOnly c.Quiet (c.hasImage answer.transport name) := by
  unfold Client.hasImage
  exact ((request_sendsOnly answer c _ _ _ _).mono (get_quiet c)).bind fun _ => .pure _

theorem pullImage_quiet (image : String) (registry : Option String) (auth : Option RegistryAuth) :
    SendsOnly c.Quiet (c.pullImage answer.transport image registry auth) := by
  unfold Client.pullImage
  refine (SendsOnly.lift _).bind fun name => ?_
  refine ((streamRequest_sendsOnly answer c _ _ _ _).mono ?_).bind fun _ => .lift _
  rintro q rfl
  refine c.quiet_of_post rfl ?_
  change c.urls.pathOf (c.urls.url "images/create" _) ≠ _
  rw [c.urls.pathOf_url (by decide)]
  decide

theorem startContainer_quiet (id : String) :
    SendsOnly c.Quiet (c.startContainer answer.transport id) := by
  unfold Client.startContainer
  refine ((request_sendsOnly answer c _ _ _ _).mono ?_).bind fun _ => .pure _
  rintro q rfl
  exact c.quiet_of_container_path rfl id "/start"
    (by simp [Client.requestFor, UrlBuilder.startContainer, String.append_assoc]) (by decide)
    (by decide)

theorem inspectContainer_quiet (id : String) :
    SendsOnly c.Quiet (c.inspectContainer answer.transport id) := by
  unfold Client.inspectContainer
  refine ((request_sendsOnly answer c _ _ _ _).mono (get_quiet c)).bind fun r => ?_
  split
  · exact .pure _
  · exact (SendsOnly.lift _).bind fun _ => .pure _

theorem containerNames_quiet : SendsOnly c.Quiet (c.containerNames answer.transport) := by
  unfold Client.containerNames Client.listContainers
  refine (((request_sendsOnly answer c _ _ _ _).mono (get_quiet c)).bind
    fun _ => .lift _).bind fun _ => .pure _

theorem logs_quiet (id : String) : SendsOnly c.Quiet (c.logs answer.transport id) := by
  unfold Client.logs
  exact ((request_sendsOnly answer c _ _ _ _).mono (get_quiet c)).bind fun _ => .pure _

theorem followLogs_quiet {σ : Type} (id : String) (init : σ)
    (callback : σ → LogLine → σ × LogControl) :
    SendsOnly c.Quiet (c.followLogs answer.transport id init callback) := fun log => by
  unfold Client.followLogs
  cases hc : c.shutDown
  · simp only [Bool.false_eq_true, if_false]
    rw [send_bind]
    refine ⟨[⟨.get, c.urls.containerLogs id true, .empty, none, none⟩], ?_,
      by simpa using c.quiet_of_get rfl⟩
    generalize answer log _ = a
    rcases a with reason | reply
    · rfl
    · simp only [pure_bind]
      split <;> rfl
  · exact ⟨[], by simp; rfl, by simp⟩

theorem createExec_quiet (id : String) (cmd : List String) :
    SendsOnly c.Quiet (c.createExec answer.transport id cmd) := by
  unfold Client.createExec
  refine ((request_sendsOnly answer c _ _ _ _).mono ?_).bind
    fun _ => (SendsOnly.lift _).bind fun _ => .pure _
  rintro q rfl
  exact c.quiet_of_container_path rfl id "/exec"
    (by simp [Client.requestFor, UrlBuilder.createExec, String.append_assoc]) (by decide)
    (by decide)

theorem startExec_quiet (id : String) : SendsOnly c.Quiet (c.startExec answer.transport id) := by
  unfold Client.startExec
  refine ((request_sendsOnly answer c _ _ _ _).mono ?_).bind fun _ => .pure _
  rintro q rfl
  exact c.quiet_of_exec_path rfl id "/start"
    (by simp [Client.requestFor, UrlBuilder.startExec, String.append_assoc]) (by decide)

theorem inspectExec_quiet (id : String) : SendsOnly c.Quiet (c.inspectExec answer.transport id) := by
  unfold Client.inspectExec
  exact ((request_sendsOnly answer c _ _ _ _).mono (get_quiet c)).bind fun _ => .lift _

end Calls

end Mooring.Engine

namespace Mooring.Wait

open Mooring.Engine

/-- A property of computations that every `pure` has and that `bind` keeps. -/
structure Stable {m : Type → Type} [Monad m] (Good : ∀ {α : Type}, m α → Prop) : Prop where
  pure : ∀ {α : Type} (a : α), Good (Pure.pure a)
  bind : ∀ {α β : Type} {x : m α} {f : α → m β}, Good x → (∀ a, Good (f a)) → Good (x >>= f)

section Stable

variable {m : Type → Type} [Monad m] {Good : ∀ {α : Type}, m α → Prop} (hG : Stable @Good)
include hG

theorem map_good [LawfulMonad m] {α β : Type} (f : α → β) {x : m α} (hx : Good x) :
    Good (f <$> x) := by
  rw [← bind_pure_comp]
  exact hG.bind hx fun _ => hG.pure _

theorem forIn_good {α β : Type} (l : List α) (f : α → β → m (ForInStep β))
    (hf : ∀ a ∈ l, ∀ b, Good (f a b)) : ∀ b, Good (forIn l b f) := by
  induction l with
  | nil => intro b; exact hG.pure _
  | cons a l ih =>
    intro b
    rw [List.forIn_cons]
    refine hG.bind (hf a (List.mem_cons_self ..) b) fun step => ?_
    cases step with
    | done b => exact hG.pure _
    | yield b => exact ih (fun a' ha' => hf a' (List.mem_cons_of_mem _ ha')) b

theorem pollRound_good (p : Poller m) (cancelAt : Option Nat) (checks : List (Check m))
    (hpoll : ∀ c ∈ checks, Good c.poll) : ∀ passed t, Good (p.pollRound cancelAt checks passed t) := by
  induction checks with
  | nil => intro passed t; exact hG.pure _
  | cons c cs ih =>
    intro passed t
    have ih' := ih fun c' hc' => hpoll c' (List.mem_cons_of_mem _ hc')
    cases passed with
    | nil => exact hG.pure _
    | cons done dones =>
      simp only [Poller.pollRound]
      split
      · exact hG.bind (ih' dones t) fun _ => hG.pure _
      · refine hG.bind (hpoll c (List.mem_cons_self ..)) fun ⟨answer, took⟩ => ?_
        dsimp only
        split
        · exact hG.pure _
        · exact hG.pure _
        · exact hG.bind (ih' dones _) fun _ => hG.pure _

theorem consultGuard_good (p : Poller m) (hguard : ∀ g ∈ p.guard, Good g) (cancelAt : Option Nat)
    (guarded : Bool) (now : Nat) : Good (p.consultGuard cancelAt guarded now) := by
  unfold Poller.consultGuard
  split
  · rename_i g hg
    refine hG.bind (hguard g hg) fun ⟨answer, took⟩ => ?_
    dsimp only
    split
    · exact hG.pure _
    · exact hG.pure _
    · exact hG.pure _
  · exact hG.pure _

theorem rounds_good (p : Poller m) (hpoll : ∀ c ∈ p.checks, Good c.poll)
    (hguard : ∀ g ∈ p.guard, Good g) (cancelAt : Option Nat) (guarded : Bool) (fuel : Nat) :
    ∀ now passed, Good (p.rounds cancelAt guarded fuel now passed) := by
  induction fuel with
  | zero => intro now passed; exact hG.pure _
  | succ fuel ih =>
    intro now passed
    rw [Poller.rounds]
    refine hG.bind (consultGuard_good hG p hguard cancelAt guarded now) fun ⟨t, stop⟩ => ?_
    rcases stop with _ | stop
    · refine hG.bind (pollRound_good hG p cancelAt p.checks hpoll passed t)
        fun ⟨passed', t', stop'⟩ => ?_
      rcases stop' with _ | stop'
      · dsimp only
        split
        · exact hG.pure _
        · split
          · exact hG.pure _
          · exact ih _ _
      · exact hG.pure _
    · exact hG.pure _

theorem wait_good (p : Poller m) (hpoll : ∀ c ∈ p.checks, Good c.poll)
    (hcleanup : ∀ c ∈ p.checks, Good c.cleanup) (hguard : ∀ g ∈ p.guard, Good g)
    (cancel : Cancellation) : Good (p.wait cancel) := by
  unfold Poller.wait
  dsimp only
  have hcleanups : ∀ run : WaitRun, Good (forIn p.checks PUnit.unit
      (fun c (_ : PUnit) => do c.cleanup; pure (ForInStep.yield PUnit.unit)) >>= fun _ => pure run) :=
    fun run => hG.bind (forIn_good hG p.checks _
      (fun c hc _ => hG.bind (hcleanup c hc) fun _ => hG.pure _) _) fun _ => hG.pure _
  split
  · exact hG.bind (hG.pure _) hcleanups
  split
  · exact hG.bind (hG.pure _) hcleanups
  · exact hG.bind (rounds_good hG p hpoll hguard _ _ _ _ _) hcleanups

end Stable

/-- Every request a step of a check sends, from any memory and any log, has the property `P`. -/
def ProbeSends (P : Request → Prop) {α : Type} (x : ProbeM (StateM (List Request)) α) : Prop :=
  ∀ memory, Adds P (x.run memory)

namespace ProbeSends

variable {P : Request → Prop}

theorem stable : Stable (@ProbeSends P) where
  pure a := fun memory => by
    change Adds P (Pure.pure (a, memory))
    exact Adds.pure _
  bind hx hf := fun memory => by
    rw [StateT.run_bind]
    exact (hx memory).bind fun am => hf am.1 am.2

theorem lift {α : Type} {x : StateM (List Request) α} (hx : Adds P x) :
    ProbeSends P (StateT.lift x : ProbeM (StateM (List Request)) α) := fun memory => by
  change Adds P (x >>= fun a => Pure.pure (a, memory))
  exact hx.bind fun _ => Adds.pure _

theorem call {α : Type} {x : ExceptT EngineError (StateM (List Request)) α} (hx : SendsOnly P x) :
    ProbeSends P (call x) := lift hx

theorem get : ProbeSends P (MonadState.get : ProbeM (StateM (List Request)) ProbeMemory) :=
  fun memory => Adds.pure (memory, memory)

theorem set (memory' : ProbeMemory) :
    ProbeSends P (MonadStateOf.set memory' : ProbeM (StateM (List Request)) PUnit) :=
  fun _ => Adds.pure (PUnit.unit, memory')

theorem modify (f : ProbeMemory → ProbeMemory) :
    ProbeSends P (MonadState.modifyGet fun s => (PUnit.unit, f s) : ProbeM (StateM (List Request)) PUnit) :=
  fun memory => Adds.pure (PUnit.unit, f memory)

end ProbeSends

/-- A check whose polls and cleanup send only requests with the property `P`. -/
def CheckSends (P : Request → Prop) (ch : Check (ProbeM (StateM (List Request)))) : Prop :=
  ProbeSends P ch.poll ∧ ProbeSends P ch.cleanup

theorem CheckSends.instant {P : Request → Prop} {label : String} {expectsExit : Bool}
    {poll : ProbeM (StateM (List Request)) (Except WaitError Bool)} (h : ProbeSends P poll) :
    CheckSends P (Check.instant label expectsExit poll) :=
  ⟨map_good ProbeSends.stable _ h, ProbeSends.stable.pure _⟩

section Probes

variable (answer : Script) (c : Client) (net : Network (StateM (List Request)))

theorem httpProbe_sends (hfetch : ∀ method url allow, Adds c.Quiet (net.fetch method url allow))
    (check : HttpCheck) : CheckSends c.Quiet (check.probe net) := by
  refine CheckSends.instant ?_
  refine ProbeSends.stable.bind (ProbeSends.lift (hfetch _ _ _)) fun status => ?_
  split <;> exact ProbeSends.stable.pure _

theorem tcpProbe_sends (hconnect : ∀ host port, Adds c.Quiet (net.connect host port))
    (check : TcpCheck) : CheckSends c.Quiet (check.probe net) := by
  refine CheckSends.instant ?_
  refine ProbeSends.stable.bind ProbeSends.get fun memory => ?_
  have hstill := Adds.filterM (fun port => (hconnect check.host port).bind fun accepts =>
    Adds.pure !accepts) memory.pendingPorts
  exact ProbeSends.stable.bind (ProbeSends.lift hstill) fun _ =>
    ProbeSends.stable.bind (ProbeSends.set _) fun _ => ProbeSends.stable.pure _

theorem logProbe_sends (check : LogCheck) : CheckSends c.Quiet (check.probe answer.transport c) := by
  refine CheckSends.instant ?_
  refine ProbeSends.stable.bind ProbeSends.get fun memory => ?_
  split
  · exact ProbeSends.stable.pure _
  · refine ProbeSends.stable.bind (ProbeSends.call (followLogs_quiet answer c _ _ _)) fun r => ?_
    split
    · exact ProbeSends.stable.pure _
    · exact ProbeSends.stable.bind (ProbeSends.modify _) fun _ => ProbeSends.stable.pure _

theorem healthProbe_sends (id : String) : CheckSends c.Quiet (healthProbe answer.transport c id) := by
  refine CheckSends.instant ?_
  refine ProbeSends.stable.bind (ProbeSends.call (inspectContainer_quiet answer c id)) fun r => ?_
  split
  · exact ProbeSends.stable.pure _
  · exact ProbeSends.stable.pure _
  · refine ProbeSends.stable.bind ProbeSends.get fun memory => ?_
    refine ProbeSends.stable.bind (ProbeSends.set _) fun _ => ?_
    split <;> exact ProbeSends.stable.pure _

theorem execProbe_sends (id : String) (cmd : List String) :
    CheckSends c.Quiet (execProbe answer.transport c id cmd) := by
  refine CheckSends.instant ?_
  have hrun := (createExec_quiet answer c id cmd).bind fun execId =>
    (startExec_quiet answer c execId).bind fun _ =>
      (inspectExec_quiet answer c execId).bind fun state => SendsOnly.pure state.exitCode
  refine ProbeSends.stable.bind (ProbeSends.call hrun) fun r => ?_
  split <;> exact ProbeSends.stable.pure _

theorem exitProbe_sends (id : String) (code : Int) :
    CheckSends c.Quiet (exitProbe answer.transport c id code) := by
  refine CheckSends.instant ?_
  refine ProbeSends.stable.bind (ProbeSends.call (inspectContainer_quiet answer c id)) fun r => ?_
  split <;> exact ProbeSends.stable.pure _

theorem runningGuard_sends (id : String) :
    ProbeSends c.Quiet (runningGuard answer.transport c id) := by
  refine ProbeSends.stable.bind (ProbeSends.call (inspectContainer_quiet answer c id)) fun r => ?_
  split
  · exact ProbeSends.stable.pure _
  · split
    · exact ProbeSends.stable.pure _
    · exact ProbeSends.stable.bind (ProbeSends.call (logs_quiet answer c id)) fun _ =>
        ProbeSends.stable.pure _
  · exact ProbeSends.stable.bind (ProbeSends.call (logs_quiet answer c id)) fun _ =>
      ProbeSends.stable.pure _

end Probes

end Mooring.Wait
