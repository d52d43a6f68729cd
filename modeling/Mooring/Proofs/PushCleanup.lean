import Mooring.Proofs.EngineScript
namespace Mooring.Engine

open Mooring.Image

section Phases

variable {σ : Type} (T : Transport (StateM σ)) (c : Client)

/-- The push request from state `s`: the stream opened, drained and judged as the push of the
name under the registry. -/
def Client.pushAttempt (name : ImageName) (registry : Option String) (auth : Option RegistryAuth)
    (s : σ) : Except EngineError Unit × σ :=
  let url := c.urls.pushImage name registry
  let (reply, s') := (c.streamRequest T .post url .empty auth).run.run s
  (reply.bind fun reply =>
    (drain url reply).result ("push of " ++ Client.pullImage.quoted (name.fullName registry)), s')

/-- The push made its temporary tag: the name has no registry, one is given, the existence check
found no image under the target and the tag call succeeded, leaving the engine at `after`. -/
def TaggedForPush (name : ImageName) (registry : Option String) (start after : σ) : Prop :=
  name.hasRegistry = false ∧ registry.isSome ∧
    ∃ s, (c.hasImage T (name.fullName registry)).run.run start = (.ok false, s) ∧
      (c.tagImage T (name.fullName none) (name.fullName registry) false).run.run s = (.ok (), after)

theorem tagTemporary_run (name : ImageName) (registry : Option String) (s : σ) :
    (c.tagTemporary T name registry).run.run s =
      if name.hasRegistry || registry.isNone then (.ok none, s)
      else match (c.hasImage T (name.fullName registry)).run.run s with
        | (.error e, s₁) => (.error e, s₁)
        | (.ok existed, s₁) =>
          match (c.tagImage T (name.fullName none) (name.fullName registry) false).run.run s₁ with
          | (.error e, s₂) => (.error e, s₂)
          | (.ok (), s₂) => (.ok (if existed then none else some (name.fullName registry)), s₂) := by
  unfold Client.tagTemporary
  split
  · rfl
  · simp only [run_run_bind]
    rcases (c.hasImage T (name.fullName registry)).run.run s with ⟨e | existed, s₁⟩
    · rfl
    · dsimp only
      rcases (c.tagImage T (name.fullName none) (name.fullName registry) false).run.run s₁
        with ⟨e | _, s₂⟩ <;> rfl

/-- The tag the push removes afterwards is the target, and it is there exactly when the push
made it. -/
theorem tagTemporary_eq_some_iff (name : ImageName) (registry : Option String)
    (target : String) (start after : σ) :
    (c.tagTemporary T name registry).run.run start = (.ok (some target), after) ↔
      target = name.fullName registry ∧ TaggedForPush T c name registry start after := by
  rw [tagTemporary_run, TaggedForPush]
  by_cases hskip : name.hasRegistry || registry.isNone
  · have hcond : ¬(name.hasRegistry = false ∧ registry.isSome) := by
      cases registry <;> simp_all
    rw [if_pos hskip]
    constructor
    · intro h
      cases h
    · rintro ⟨-, hreg, hsome, -⟩
      exact absurd ⟨hreg, hsome⟩ hcond
  · have hcond : name.hasRegistry = false ∧ registry.isSome := by
      cases registry <;> simp_all
    rw [if_neg hskip]
    rcases hhas : (c.hasImage T (name.fullName registry)).run.run start with ⟨e | existed, s₁⟩
    -- the existence check failed: no tag, and the push fails with it
    · constructor
      · intro h
        cases h
      · rintro ⟨-, -, -, s, h, -⟩
        cases h
    · dsimp only
      rcases htag : (c.tagImage T (name.fullName none) (name.fullName registry) false).run.run s₁
        with ⟨e | ⟨⟩, s₂⟩
      · constructor
        · intro h
          cases h
        · rintro ⟨-, -, -, s, h, htag'⟩
          cases h
          rw [htag] at htag'
          cases htag'
      · cases existed
        · constructor
          · intro h
            cases h
            exact ⟨rfl, hcond.1, hcond.2, s₁, rfl, htag⟩
          · rintro ⟨rfl, -, -, s, h, htag'⟩
            cases h
            rw [htag] at htag'
            cases htag'
            rfl
        -- the target existed: no tag to remove, whatever the tag call did
        · constructor
          · intro h
            cases h
          · rintro ⟨-, -, -, s, h, -⟩
            cases h

/-- A push in its phases: reading the name, the temporary tag, the push request, and the
removal of the tag when the push made one. -/
theorem pushImage_run (image : String) (registry : Option String) (auth : Option RegistryAuth)
    (s : σ) :
    (c.pushImage T image registry auth).run.run s =
      match Client.parseImage image with
      | .error e => (.error e, s)
      | .ok name =>
        match (c.tagTemporary T name registry).run.run s with
        | (.error e, s₁) => (.error e, s₁)
        | (.ok none, s₁) => c.pushAttempt T name registry auth s₁
        | (.ok (some target), s₁) =>
          let (pushed, s₂) := c.pushAttempt T name registry auth s₁
          let (removal, s₃) := (c.removeImage T target true).run.run s₂
          (pushed.bind fun () => if removal.isOk then .ok () else .error (.temporaryTag target),
            s₃) := by
  unfold Client.pushImage Client.pushAttempt
  simp only [run_run_bind, lift_run, exceptLift_run]
  rcases Client.parseImage image with e | name
  · rfl
  · dsimp only
    rcases (c.tagTemporary T name registry).run.run s with ⟨e | _ | target, s₁⟩
    · rfl
    · dsimp only
      rcases (c.streamRequest T .post (c.urls.pushImage name registry) .empty auth).run.run s₁
        with ⟨reply, s₂⟩
      simp only [run_run_bind, lift_run, pure_bind]
      generalize Except.bind reply _ = pushed
      rcases pushed with e | _ <;> rfl
    · dsimp only
      rcases (c.streamRequest T .post (c.urls.pushImage name registry) .empty auth).run.run s₁
        with ⟨reply, s₂⟩
      simp only [run_run_bind, exceptLift_run, pure_bind]
      rcases (c.removeImage T target true).run.run s₂ with ⟨removal, s₃⟩
      generalize Except.bind reply _ = pushed
      rcases removal with e' | _ <;> rcases pushed with e | _ <;> rfl

theorem tagTemporary_some_not_shutDown {name : ImageName} {registry : Option String}
    {target : String} {start after : σ}
    (h : (c.tagTemporary T name registry).run.run start = (.ok (some target), after)) :
    c.shutDown = false := by
  obtain ⟨-, -, -, s, hhas, -⟩ := (tagTemporary_eq_some_iff T c name registry target start after).mp h
  unfold Client.hasImage at hhas
  rw [run_run_bind] at hhas
  rcases hreq : (c.request T .get (c.urls.inspectImage (name.fullName registry)) .empty
    [200, 404]).run.run start with ⟨e | r, s'⟩
  · rw [hreq] at hhas
    cases hhas
  · exact request_ok_not_shutDown T c hreq

end Phases

section Script

variable (answer : Script) (c : Client)

/-- The request that removes the temporary tag `target`. -/
def Client.untagRequest (target : String) : Request :=
  c.requestFor .delete (c.urls.removeImage target true) .empty

/-- The requests of a log that remove something. -/
def deletions (rs : List Request) : List Request := rs.filter (·.method == .delete)

@[simp] theorem deletions_append (rs rs' : List Request) :
    deletions (rs ++ rs') = deletions rs ++ deletions rs' :=
  List.filter_append ..

theorem deletions_eq_nil {rs : List Request} (h : ∀ r ∈ rs, r.method ≠ .delete) :
    deletions rs = [] :=
  List.filter_eq_nil_iff.mpr fun r hr => by simpa using h r hr

@[simp] theorem deletions_untagRequest (target : String) :
    deletions [c.untagRequest target] = [c.untagRequest target] := rfl

theorem hasImage_sendsOnly (name : String) :
    SendsOnly (·.method = .get) (c.hasImage answer.transport name) := by
  unfold Client.hasImage
  refine (SendsOnly.bind (request_sendsOnly answer c _ _ _ _) fun _ => .pure _).mono ?_
  rintro r rfl
  rfl

theorem tagImage_sendsOnly (source target : String) (force : Bool) :
    SendsOnly (·.method = .post) (c.tagImage answer.transport source target force) := by
  unfold Client.tagImage
  refine .bind (.lift _) fun _ => .bind (.lift _) fun _ => ?_
  refine (SendsOnly.bind (request_sendsOnly answer c _ _ _ _) fun _ => .pure _).mono ?_
  rintro r rfl
  rfl

theorem tagTemporary_sendsOnly (name : ImageName) (registry : Option String) :
    SendsOnly (·.method ≠ .delete) (c.tagTemporary answer.transport name registry) := by
  unfold Client.tagTemporary
  split
  · exact .pure _
  · refine .bind ((hasImage_sendsOnly answer c _).mono ?_) fun _ =>
      .bind ((tagImage_sendsOnly answer c _ _ _).mono ?_) fun _ => .pure _
    all_goals
      intro r hr
      simp [hr]

theorem pushAttempt_sent (name : ImageName) (registry : Option String)
    (auth : Option RegistryAuth) (s : List Request) :
    ∃ new, (c.pushAttempt answer.transport name registry auth s).2 = s ++ new ∧
      ∀ r ∈ new, r.method ≠ .delete := by
  obtain ⟨new, hnew, hpost⟩ :=
    streamRequest_sendsOnly answer c .post (c.urls.pushImage name registry) .empty auth s
  refine ⟨new, hnew, fun r hr => ?_⟩
  rw [hpost r hr]
  simp

theorem removeImage_run (target : String) (s : List Request) (h : c.shutDown = false) :
    ((c.removeImage answer.transport target true).run.run s).2 = s ++ [c.untagRequest target] ∧
      ((c.removeImage answer.transport target true).run.run s).1.isOk =
        Accepts [200, 404] (answer s (c.untagRequest target)) := by
  have hsent := request_sent answer c .delete (c.urls.removeImage target true) .empty [200, 404] s h
  have hok := request_isOk answer c .delete (c.urls.removeImage target true) .empty [200, 404] s h
  unfold Client.removeImage
  rw [run_run_bind]
  rcases hreq : (c.request answer.transport .delete (c.urls.removeImage target true) .empty
    [200, 404]).run.run s with ⟨e | r, s'⟩
  all_goals
    rw [hreq] at hsent hok
    exact ⟨hsent, hok⟩

/-- The DELETEs of a push: the removal of the temporary tag, when the push made one. -/
theorem pushImage_deletions (image : String) (registry : Option String)
    (auth : Option RegistryAuth) (log : List Request) (name : ImageName)
    (hname : Client.parseImage image = .ok name) :
    deletions ((c.pushImage answer.transport image registry auth).run.run log).2 =
      deletions log ++ match (c.tagTemporary answer.transport name registry).run.run log with
        | (.ok (some target), _) => [c.untagRequest target]
        | _ => [] := by
  rw [pushImage_run, hname]
  dsimp only
  obtain ⟨new, hnew, hdel⟩ := tagTemporary_sendsOnly answer c name registry log
  rcases ht : (c.tagTemporary answer.transport name registry).run.run log
    with ⟨e | _ | target, s₁⟩
  all_goals
    rw [ht] at hnew
    dsimp only at hnew ⊢
    subst hnew
  · simp [deletions_eq_nil hdel]
  · obtain ⟨new₂, hnew₂, hdel₂⟩ := pushAttempt_sent answer c name registry auth (log ++ new)
    simp [hnew₂, deletions_eq_nil hdel, deletions_eq_nil hdel₂]
  · obtain ⟨new₂, hnew₂, hdel₂⟩ := pushAttempt_sent answer c name registry auth (log ++ new)
    have hup := tagTemporary_some_not_shutDown answer.transport c ht
    rcases hpush : c.pushAttempt answer.transport name registry auth (log ++ new)
      with ⟨pushed, s₂⟩
    rw [hpush] at hnew₂
    dsimp only at hnew₂ ⊢
    subst hnew₂
    obtain ⟨hsent, -⟩ := removeImage_run answer c target (log ++ new ++ new₂) hup
    rcases hrem : (c.removeImage answer.transport target true).run.run (log ++ new ++ new₂)
      with ⟨removal, s₃⟩
    rw [hrem] at hsent
    dsimp only at hsent ⊢
    subst hsent
    simp [deletions_eq_nil hdel, deletions_eq_nil hdel₂, deletions_untagRequest]

theorem pushImage_removes_nothing (image : String) (registry : Option String)
    (auth : Option RegistryAuth) (log : List Request) (name : ImageName)
    (hname : Client.parseImage image = .ok name)
    (huntagged : ¬∃ s, TaggedForPush answer.transport c name registry log s) :
    deletions ((c.pushImage answer.transport image registry auth).run.run log).2 =
      deletions log := by
  rw [pushImage_deletions answer c image registry auth log name hname]
  rcases ht : (c.tagTemporary answer.transport name registry).run.run log
    with ⟨e | _ | target, s₁⟩
  · simp
  · simp
  · obtain ⟨-, htagged⟩ := (tagTemporary_eq_some_iff _ c name registry target log s₁).mp ht
    exact absurd ⟨s₁, htagged⟩ huntagged

theorem pushImage_removes_tag (image : String) (registry : Option String)
    (auth : Option RegistryAuth) (log : List Request) (name : ImageName)
    (hname : Client.parseImage image = .ok name) {s : List Request}
    (htagged : TaggedForPush answer.transport c name registry log s) :
    deletions ((c.pushImage answer.transport image registry auth).run.run log).2 =
      deletions log ++ [c.untagRequest (name.fullName registry)] := by
  have ht := (tagTemporary_eq_some_iff _ c name registry _ log s).mpr ⟨rfl, htagged⟩
  rw [pushImage_deletions answer c image registry auth log name hname, ht]

/-- The answer of a push: the failure of the name, the existence check or the tag call as it is;
else the push's own answer, and with a temporary tag, the removal's failure after a push that
worked. -/
theorem pushImage_answer (image : String) (registry : Option String)
    (auth : Option RegistryAuth) (log : List Request) (name : ImageName)
    (hname : Client.parseImage image = .ok name) :
    let push := (c.pushImage answer.transport image registry auth).run.run log
    match (c.tagTemporary answer.transport name registry).run.run log with
    | (.error e, s) => push = (.error e, s)
    | (.ok none, s) => push = c.pushAttempt answer.transport name registry auth s
    | (.ok (some tag), s) =>
      let (pushed, s') := c.pushAttempt answer.transport name registry auth s
      push.1 = pushed.bind fun () =>
        if Accepts [200, 404] (answer s' (c.untagRequest tag)) then .ok ()
        else .error (.temporaryTag tag) := by
  dsimp only
  rw [pushImage_run, hname]
  dsimp only
  rcases ht : (c.tagTemporary answer.transport name registry).run.run log
    with ⟨e | _ | tag, s₁⟩
  · rfl
  · rfl
  · dsimp only
    have hup := tagTemporary_some_not_shutDown answer.transport c ht
    rcases hpush : c.pushAttempt answer.transport name registry auth s₁ with ⟨pushed, s₂⟩
    dsimp only
    obtain ⟨-, hok⟩ := removeImage_run answer c tag s₂ hup
    rcases hrem : (c.removeImage answer.transport tag true).run.run s₂ with ⟨removal, s₃⟩
    rw [hrem] at hok
    dsimp only at hok ⊢
    rw [hok]

/-- Pushing under a fallback registry removes the temporary tag exactly when the push made it,
with one DELETE and nothing else removed, never removes an image that stood under the target
before, and answers with the first failure in the order name, existence check, tag call, push,
removal: a removal the engine does not answer whole with 200 or 404 fails a push that
otherwise worked. -/
theorem push_removes_only_its_temporary_tag (image : String) (registry : Option String)
    (auth : Option RegistryAuth) (log : List Request) :
    let push := (c.pushImage answer.transport image registry auth).run.run log
    match Client.parseImage image with
    | .error e => push = (.error e, log)
    | .ok name =>
      let target := name.fullName registry
      (deletions push.2 = deletions log ++ [c.untagRequest target] ↔
          ∃ s, TaggedForPush answer.transport c name registry log s) ∧
        (deletions push.2 = deletions log ∨
          deletions push.2 = deletions log ++ [c.untagRequest target]) ∧
        (∀ s, (c.hasImage answer.transport target).run.run log = (.ok true, s) →
          deletions push.2 = deletions log) ∧
        match (c.tagTemporary answer.transport name registry).run.run log with
        | (.error e, s) => push = (.error e, s)
        | (.ok none, s) => push = c.pushAttempt answer.transport name registry auth s
        | (.ok (some tag), s) =>
          let (pushed, s') := c.pushAttempt answer.transport name registry auth s
          push.1 = pushed.bind fun () =>
            if Accepts [200, 404] (answer s' (c.untagRequest tag)) then .ok ()
            else .error (.temporaryTag tag) := by
  dsimp only
  rcases hname : Client.parseImage image with e | name
  -- a name that does not read fails the push before anything is sent
  · rw [pushImage_run, hname]
  · dsimp only
    refine ⟨?_, ?_, ?_, pushImage_answer answer c image registry auth log name hname⟩
    all_goals by_cases htagged : ∃ s, TaggedForPush answer.transport c name registry log s
    · obtain ⟨s, hs⟩ := htagged
      exact iff_of_true (pushImage_removes_tag answer c image registry auth log name hname hs)
        ⟨s, hs⟩
    · rw [pushImage_removes_nothing answer c image registry auth log name hname htagged]
      simpa using htagged
    · obtain ⟨s, hs⟩ := htagged
      exact .inr (pushImage_removes_tag answer c image registry auth log name hname hs)
    · exact .inl (pushImage_removes_nothing answer c image registry auth log name hname htagged)
    -- an existing target fails the existence check's part of the tag condition
    · obtain ⟨s, -, -, s', hhas', -⟩ := htagged
      intro s'' hhas
      rw [hhas] at hhas'
      cases hhas'
    · exact fun _ _ => pushImage_removes_nothing answer c image registry auth log name hname htagged

/-- A failed existence check is the push's answer, though nothing was pushed: an engine that
answers 500 to everything fails the push of a name without registry under a fallback one at its
first request, and no other request is sent. -/
theorem push_answers_existence_check_failure :
    let c := Client.new ⟨.http, "http://fake-engine:2375", none, none⟩ ClientOptions.default "1.41"
    let push := (c.pushImage (Script.transport fun _ _ => .ok ⟨500, [], none⟩) "team/app:1.0"
      (some "registry.local:5000") none).run.run []
    push.1 = .error (.status "GET"
        "http://fake-engine:2375/v1.41/images/registry.local%3A5000%2Fteam%2Fapp%3A1.0/json" 500 "") ∧
      push.2.map (·.url) =
        ["http://fake-engine:2375/v1.41/images/registry.local%3A5000%2Fteam%2Fapp%3A1.0/json"] := by
  dsimp only
  decide +kernel

end Script

end Mooring.Engine
