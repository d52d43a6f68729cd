import Mooring.Proofs.FreshNames
namespace Mooring.Plan

open Mooring.Order

/-- The names a spec refers to: its shared volumes, its links' names on a network that is not
user-defined, and the container whose network it joins. -/
def RunSpec.referredNames (spec : RunSpec) : List String :=
  spec.volumesFrom ++ (if spec.network.isCustom then [] else spec.links.map linkTarget) ++
    spec.network.containerAlias.toList

end Mooring.Plan

namespace Mooring.Run

open Mooring.Engine Mooring.Plan Mooring.Order Mooring.Collections Mooring.Ports

/-- The references a create request writes for a spec, each name resolved by `resolve`: its
shared volumes, its links on a network that is not user-defined, and the container whose network
it joins. -/
structure WritesReferences (spec : RunSpec) (resolve : String → String) (body : CreateRequest) :
    Prop where
  volumesFrom : body.hostConfig.volumesFrom = spec.volumesFrom.map resolve
  links : body.hostConfig.links =
    if spec.network.isCustom then [] else
      spec.links.map fun link => resolve (linkTarget link) ++ ":" ++ linkAlias link
  network : ∀ name, spec.network = .container name →
    body.hostConfig.networkMode = some ("container:" ++ resolve name)

theorem foldl_view_eq {α β γ : Type} {g : γ → α → γ} (view : γ → β)
    (h : ∀ acc a, view (g acc a) = view acc) (xs : List α) (init : γ) :
    view (xs.foldl g init) = view init := by
  induction xs generalizing init with
  | nil => rfl
  | cons a xs ih => rw [List.foldl_cons, ih, h]

theorem foldl_view_append {α β γ : Type} {g : γ → α → γ} (view : γ → List β) {f : α → β}
    (h : ∀ acc a, view (g acc a) = view acc ++ [f a]) (xs : List α) (init : γ) :
    view (xs.foldl g init) = view init ++ xs.map f := by
  induction xs generalizing init with
  | nil => simp
  | cons a xs ih =>
    rw [List.foldl_cons, ih, h, List.map_cons, List.append_assoc, List.singleton_append]

@[simp] theorem withNetwork_volumesFrom (q : CreateRequest) (mode : String) (aliases : List String) :
    (q.withNetwork mode aliases).hostConfig.volumesFrom = q.hostConfig.volumesFrom := by
  unfold CreateRequest.withNetwork
  split <;> rfl

@[simp] theorem withNetwork_links (q : CreateRequest) (mode : String) (aliases : List String) :
    (q.withNetwork mode aliases).hostConfig.links = q.hostConfig.links := by
  unfold CreateRequest.withNetwork
  split <;> rfl

@[simp] theorem withNetwork_networkMode (q : CreateRequest) (mode : String)
    (aliases : List String) : (q.withNetwork mode aliases).hostConfig.networkMode = some mode := by
  unfold CreateRequest.withNetwork
  split <;> rfl

/-- A spec's create request writes its references resolved through the map of references. -/
theorem createRequest_writesReferences (r : Runner) (spec : RunSpec) (mapper : PortMapper)
    (references : KeyMap String) :
    WritesReferences spec (fun name => (references.find? name).getD name)
      (r.createRequest spec mapper references) := by
  unfold Runner.createRequest
  extract_lets resolve base withEnv withLabels withCmd withEntry withBinds withVolumes withLinks
  -- the settings before the shared volumes leave the host configuration as the image's
  have hentry : withEntry.hostConfig = base.hostConfig := by
    have henv : withEnv.hostConfig = base.hostConfig :=
      foldl_view_eq CreateRequest.hostConfig (fun _ _ => by rfl) _ _
    have hlabels : withLabels.hostConfig = withEnv.hostConfig :=
      foldl_view_eq CreateRequest.hostConfig (fun _ _ => by rfl) _ _
    have hcmd : withCmd.hostConfig = withLabels.hostConfig := by
      simp only [withCmd]
      split <;> rfl
    have hentry : withEntry.hostConfig = withCmd.hostConfig := by
      simp only [withEntry]
      split <;> rfl
    rw [hentry, hcmd, hlabels, henv]
  have hbinds : (withBinds.hostConfig.volumesFrom, withBinds.hostConfig.links,
      withBinds.hostConfig.networkMode) = ([], [], none) := by
    refine (foldl_view_eq (fun q : CreateRequest => (q.hostConfig.volumesFrom, q.hostConfig.links,
      q.hostConfig.networkMode)) (fun _ _ => by rfl) spec.binds withEntry).trans ?_
    rw [hentry]
    rfl
  simp only [Prod.mk.injEq] at hbinds
  obtain ⟨hv₀, hl₀, -⟩ := hbinds
  have hvolumes : withVolumes.hostConfig.volumesFrom = spec.volumesFrom.map resolve := by
    refine (foldl_view_append (fun q : CreateRequest => q.hostConfig.volumesFrom)
      (fun _ _ => by rfl) spec.volumesFrom withBinds).trans ?_
    rw [hv₀, List.nil_append]
  have hlinks : withLinks.hostConfig.volumesFrom = spec.volumesFrom.map resolve ∧
      withLinks.hostConfig.links = if spec.network.isCustom then [] else
        spec.links.map fun link => resolve (linkTarget link) ++ ":" ++ linkAlias link := by
    have hkept : withVolumes.hostConfig.links = [] :=
      (foldl_view_eq (fun q : CreateRequest => q.hostConfig.links) (fun _ _ => by rfl) _ _).trans
        hl₀
    simp only [withLinks]
    split
    · exact ⟨hvolumes, hkept⟩
    · refine ⟨(foldl_view_eq (fun q : CreateRequest => q.hostConfig.volumesFrom)
        (fun _ _ => by rfl) _ _).trans hvolumes, ?_⟩
      refine (foldl_view_append (fun q : CreateRequest => q.hostConfig.links) (fun _ _ => by rfl)
        spec.links withVolumes).trans ?_
      rw [hkept, List.nil_append]
  obtain ⟨hv, hl⟩ := hlinks
  -- the network step writes the mode, and the reference for a container's network
  split
  · rename_i target hnet
    refine ⟨by simpa using hv, by simpa using hl, fun name h => ?_⟩
    rw [hnet] at h
    cases h
    exact withNetwork_networkMode _ _ _
  · rename_i network hnet
    refine ⟨by simpa using hv, by simpa using hl, fun name h => ?_⟩
    rw [hnet] at h
    cases h
  · rename_i other hcontainer _
    have hnone : ∀ name, spec.network ≠ .container name := fun name h => hcontainer name h
    split
    · exact ⟨by simpa using hv, by simpa using hl, fun name h => absurd h (hnone name)⟩
    · exact ⟨hv, hl, fun name h => absurd h (hnone name)⟩

theorem mem_addNew_of_mem_left {d : String} : ∀ {acc : List String} (ds : List String),
    d ∈ acc → d ∈ addNew acc ds
  | _, [], h => h
  | acc, e :: ds, h => by
    rw [addNew]
    split
    · exact mem_addNew_of_mem_left ds h
    · exact mem_addNew_of_mem_left ds (List.mem_append_left _ h)

theorem mem_addNew {d : String} (hd : d ≠ "") : ∀ (acc ds : List String), d ∈ ds →
    d ∈ addNew acc ds
  | _, [], h => absurd h List.not_mem_nil
  | acc, e :: ds, h => by
    rw [addNew]
    rcases List.mem_cons.mp h with rfl | h
    · -- the name is added here unless it was there already
      split
      · rename_i hskip
        have hin : d ∈ acc := by simpa [String.isEmpty_iff, hd] using hskip
        exact mem_addNew_of_mem_left ds hin
      · exact mem_addNew_of_mem_left ds (List.mem_append_right _ (List.mem_singleton_self d))
    · split
      · exact mem_addNew hd acc ds h
      · exact mem_addNew hd _ ds h

/-- A non-empty name among the shared volumes, the links' names on a network that is not
user-defined, or the container whose network is joined, is a dependency. -/
theorem Declarations.mem_dependencies {decl : Declarations} {d : String}
    (hd : d ∈ decl.volumesFrom ++ (if decl.network.isCustom then [] else decl.links.map linkTarget) ++
      decl.network.containerAlias.toList)
    (hne : d ≠ "") : d ∈ decl.dependencies := by
  unfold Declarations.dependencies
  rw [List.mem_append, List.mem_append] at hd
  by_cases hcustom : decl.network.isCustom = true
  · -- on a user-defined network the links name no container
    rw [if_pos hcustom, List.mem_nil_iff, or_false] at hd
    rw [if_pos hcustom, if_pos hcustom]
    apply mem_addNew_of_mem_left
    rcases hd with hv | hn
    · exact mem_addNew_of_mem_left _ (mem_addNew hne _ _ hv)
    · exact mem_addNew hne _ _ hn
  · rw [if_neg hcustom] at hd
    rw [if_neg hcustom, if_neg hcustom]
    rcases hd with (hv | hl) | hn
    · exact mem_addNew_of_mem_left _ (mem_addNew_of_mem_left _ (mem_addNew hne _ _ hv))
    · exact mem_addNew_of_mem_left _ (mem_addNew hne _ _ hl)
    · exact mem_addNew hne _ _ hn

theorem mem_dependencies_of_referred {spec : RunSpec} {d : String} (hd : d ∈ spec.referredNames)
    (hne : d ≠ "") : d ∈ Dependent.dependencies spec :=
  Declarations.mem_dependencies hd hne

namespace StartedContainer

/-- The container is known by the name `d`: it is the name or the alias of its spec. -/
def KnownAs (c : StartedContainer) (d : String) : Prop := c.specName = d ∨ c.aliasName = some d

instance (c : StartedContainer) (d : String) : Decidable (c.KnownAs d) :=
  inferInstanceAs (Decidable (_ ∨ _))

/-- The container was started for the spec: it carries its name and alias. -/
def IsFor (c : StartedContainer) (spec : RunSpec) : Prop :=
  c.specName = spec.name ∧ c.aliasName = spec.aliasName

end StartedContainer

/-- What a name resolves to among the containers started before, in start order: the reference
of the last one known by it, or the name itself. -/
def referenceAmong (earlier : List StartedContainer) (d : String) : String :=
  earlier.foldl (fun ref c => if c.KnownAs d then c.reference else ref) d

theorem referenceAmong_append_single (earlier : List StartedContainer) (c : StartedContainer)
    (d : String) :
    referenceAmong (earlier ++ [c]) d =
      if c.KnownAs d then c.reference else referenceAmong earlier d := by
  simp [referenceAmong, List.foldl_append]

/-- A map of references that resolves every name as the containers `done` do. -/
def Represents (references : KeyMap String) (done : List StartedContainer) : Prop :=
  ∀ d, (references.find? d).getD d = referenceAmong done d

theorem represents_nil : Represents [] [] := fun _ => rfl

section Track

variable {references : KeyMap String} {done : List StartedContainer} {c : StartedContainer}
  {spec : RunSpec}

theorem Represents.insert_name (h : Represents references done) (hc : c.IsFor spec)
    (ha : spec.aliasName = none) :
    Represents (references.insert spec.name c.reference) (done ++ [c]) := by
  intro d
  rw [referenceAmong_append_single, KeyMap.find?_insert]
  by_cases hd : d = spec.name
  · simp [hd, StartedContainer.KnownAs, hc.1]
  · have hknown : ¬ c.KnownAs d := by
      simp [StartedContainer.KnownAs, hc.1, hc.2, ha, Ne.symm hd]
    simp [hd, hknown, h d]

theorem Represents.insert_alias {a : String} (h : Represents references done) (hc : c.IsFor spec)
    (ha : spec.aliasName = some a) :
    Represents ((references.insert spec.name c.reference).insert a c.reference) (done ++ [c]) := by
  intro d
  rw [referenceAmong_append_single, KeyMap.find?_insert, KeyMap.find?_insert]
  by_cases hda : d = a
  · simp [hda, StartedContainer.KnownAs, hc.2, ha]
  · by_cases hd : d = spec.name
    · simp [hd, StartedContainer.KnownAs, hc.1]
    · have hknown : ¬ c.KnownAs d := by
        simp [StartedContainer.KnownAs, hc.1, hc.2, ha, Ne.symm hd, Ne.symm hda]
      simp [hd, hda, hknown, h d]

end Track

theorem exists_knownAs_of_isFor {cs : List StartedContainer} {ys : List RunSpec}
    (h : List.Forall₂ StartedContainer.IsFor cs ys) {y : RunSpec} (hy : y ∈ ys) {d : String}
    (hd : d = y.name ∨ y.aliasName = some d) : ∃ c ∈ cs, c.KnownAs d := by
  induction h with
  | nil => exact absurd hy List.not_mem_nil
  | cons hfor _ ih =>
    rcases List.mem_cons.mp hy with rfl | hy
    · refine ⟨_, List.mem_cons_self, ?_⟩
      rcases hd with rfl | hd
      · exact .inl hfor.1
      · exact .inr (hfor.2.trans hd)
    · obtain ⟨c, hc, hknown⟩ := ih hy
      exact ⟨c, List.mem_cons_of_mem _ hc, hknown⟩

/-- What one container's start leaves, from the runner `r` and the log `log`, where `created`
says whether the engine created its container before: the client stays; it sends at most one
create request, none once created, and the body of that request has the property `P`. A container
it gives back was created, has the property `Q`, and is tracked after those tracked before; a
start that fails tracks nothing. -/
def StartedAs (c : Client) (P : CreateRequest → Prop) (Q : StartedContainer → Prop) (created : Bool)
    (r : Runner) (log : List Request) : Outcome StartedContainer → Prop
  | ((result, r'), log') => r'.client = c ∧ ∃ new, log' = log ++ new ∧
    ∃ asked : Option (CreateRequest × Option String),
      new.filter c.isCreate = (asked.map fun a => c.createRequestFor a.1 a.2).toList ∧
      (∀ a ∈ asked, P a.1) ∧ (created = true → asked = none) ∧
      match result with
      | .ok container => (created || asked.isSome) = true ∧ Q container ∧
          r'.started = r.started ++ [container]
      | .error _ => r'.started = r.started

theorem nothing_asked {P : CreateRequest → Prop} :
    ∀ a ∈ (none : Option (CreateRequest × Option String)), P a.1 :=
  fun _ h => absurd h (Option.not_mem_none _)

theorem StartedAs.prepend {c : Client} {P : CreateRequest → Prop} {Q : StartedContainer → Prop}
    {created : Bool} {r r' : Runner} {log log' pre : List Request} {o : Outcome StartedContainer}
    (hlog : log' = log ++ pre) (hs : r'.started = r.started) (hq : ∀ q ∈ pre, c.Quiet q)
    (h : StartedAs c P Q created r' log' o) : StartedAs c P Q created r log o := by
  obtain ⟨⟨result, r''⟩, log''⟩ := o
  obtain ⟨hc, new, hnew, asked, hfilter, hasked, hcreated, hresult⟩ := h
  refine ⟨hc, pre ++ new, by rw [hnew, hlog, List.append_assoc], asked, ?_, hasked, hcreated, ?_⟩
  · rw [List.filter_append, filter_isCreate_quiet hq, hfilter, List.nil_append]
  · rw [← hs]
    exact hresult

/-- A start step, from every runner whose client is `c`. -/
def CreatesAs (c : Client) (P : CreateRequest → Prop) (Q : StartedContainer → Prop) (created : Bool)
    (x : RunM (StateM (List Request)) StartedContainer) : Prop :=
  ∀ r log, r.client = c → StartedAs c P Q created r log ((x.run.run r).run log)

namespace CreatesAs

variable {c : Client} {P : CreateRequest → Prop} {Q : StartedContainer → Prop} {created : Bool}
  {α : Type}

theorem get_bind {f : Runner → RunM (StateM (List Request)) StartedContainer}
    (hf : ∀ r, r.client = c → CreatesAs c P Q created (f r)) :
    CreatesAs c P Q created (MonadState.get >>= f) := fun r log hr => by
  rw [runM_run_bind]
  exact hf r hr r log hr

theorem throw_bind (e : RunError) (f : α → RunM (StateM (List Request)) StartedContainer) :
    CreatesAs c P Q created (MonadExcept.throw e >>= f) := fun r log hr => by
  rw [throw_bind_run]
  exact ⟨hr, [], by simp, none, rfl, nothing_asked, fun _ => rfl, rfl⟩

theorem calm_bind {x : RunM (StateM (List Request)) α}
    {f : α → RunM (StateM (List Request)) StartedContainer} (hx : Calm c x)
    (hf : ∀ a, CreatesAs c P Q created (f a)) : CreatesAs c P Q created (x >>= f) :=
  fun r log hr => by
    rw [runM_run_bind]
    obtain ⟨hc, hs, new, hnew, hq⟩ := hx r log hr
    rcases hxr : ((x.run.run r).run log : Outcome α) with ⟨⟨e | a, r'⟩, log'⟩
    · rw [hxr] at hc hs hnew
      exact ⟨hc, new, hnew, none, by simp [filter_isCreate_quiet hq], nothing_asked,
        fun _ => rfl, hs⟩
    · rw [hxr] at hc hs hnew
      exact StartedAs.prepend hnew hs hq (hf a r' log' hc)

theorem exceptLift_bind {x : RunM (StateM (List Request)) α}
    {f : Except RunError α → RunM (StateM (List Request)) StartedContainer} (hx : Calm c x)
    (hf : ∀ a, CreatesAs c P Q created (f a)) :
    CreatesAs c P Q created (ExceptT.lift x.run >>= f) := fun r log hr => by
  rw [runM_run_bind, exceptLift_run]
  obtain ⟨hc, hs, new, hnew, hq⟩ := hx r log hr
  exact StartedAs.prepend hnew hs hq (hf _ _ _ hc)

end CreatesAs

section Create

variable (answer : Script) (world : World)
  {c : Client} {P : CreateRequest → Prop} {Q : StartedContainer → Prop}

/-- The create sends the one create request of the start, with a body that has the property `P`;
what follows it creates nothing more. -/
theorem CreatesAs.create_bind {body : CreateRequest} {name : Option String}
    {k : String → RunM (StateM (List Request)) StartedContainer} (hbody : P body)
    (hk : c.shutDown = false → ∀ id, CreatesAs c P Q true (k id)) :
    CreatesAs c P Q false
      (Runner.engine (c.createContainer answer.transport body name) >>= k) := fun r log hr => by
  rw [runM_run_bind, engine_run]
  cases hdown : c.shutDown with
  | true =>
    rw [createContainer_run, request_shutDown answer.transport c _ _ _ _ log hdown]
    exact ⟨hr, [], by simp, none, rfl, nothing_asked, fun _ => rfl, rfl⟩
  | false =>
    have hsent := createContainer_sent answer c body name log hdown
    have hcreate : [c.createRequestFor body name].filter c.isCreate =
        ((some (body, name)).map fun a => c.createRequestFor a.1 a.2).toList := by simp
    have hasked : ∀ a ∈ some (body, name), P a.1 := fun a ha => by
      cases ha
      exact hbody
    rcases hc : (c.createContainer answer.transport body name).run.run log with ⟨e | id, log₁⟩
    · rw [hc] at hsent
      exact ⟨hr, [c.createRequestFor body name], hsent, some (body, name), hcreate, hasked, nofun,
        rfl⟩
    · rw [hc] at hsent
      simp only [Except.mapError]
      dsimp only at hsent ⊢
      have hrest := hk hdown id r log₁ hr
      rcases hrun : (((k id).run.run r).run log₁ : Outcome StartedContainer) with
        ⟨⟨result, r'⟩, log'⟩
      rw [hrun] at hrest
      obtain ⟨hc', new, hnew, asked, hfilter, -, hnone, hresult⟩ := hrest
      obtain rfl : asked = none := hnone rfl
      refine ⟨hc', [c.createRequestFor body name] ++ new, by rw [hnew, hsent, List.append_assoc],
        some (body, name), ?_, hasked, nofun, ?_⟩
      · rw [List.filter_append, hcreate, hfilter]
        rfl
      · cases result with
        | ok container =>
          obtain ⟨-, hQ, hstarted⟩ := hresult
          exact ⟨rfl, hQ, hstarted⟩
        | error e => exact hresult

theorem CreatesAs.discard_throw (hdown : c.shutDown = false) (id : String) (e : RunError) :
    CreatesAs c P Q true
      (Runner.discard (scriptedEnv answer world) id >>= fun _ => throw e) :=
  fun r log hr => by
    rw [runM_run_bind, discard_run answer world id r log (hr ▸ hdown)]
    exact ⟨hr, [r.client.removeRequest id], rfl, none, by simp [hr], nothing_asked,
      fun _ => rfl, rfl⟩

theorem CreatesAs.track (container : StartedContainer) (hQ : Q container) :
    CreatesAs c P Q true
      (modify (fun r => { r with started := r.started ++ [container] }) >>= fun _ =>
        pure container) := fun r log hr => by
  rw [runM_run_bind, modify_run]
  exact ⟨hr, [], by simp, none, rfl, nothing_asked, fun _ => rfl, rfl, hQ, rfl⟩

/-- One container's start sends at most one create request, which writes the spec's references
resolved through the map of references; a container it gives back was started for the spec and is
tracked. -/
theorem startOne_createsAs (spec : RunSpec) (known references : KeyMap String)
    (existing : List String) :
    CreatesAs c (WritesReferences spec fun name => (references.find? name).getD name)
      (·.IsFor spec) false
      (Runner.startOne (scriptedEnv answer world) spec known references existing) := by
  unfold Runner.startOne
  refine CreatesAs.get_bind fun r _ => ?_
  refine CreatesAs.calm_bind (Calm.lift (scriptedEnv_now_adds answer world))
    fun now => ?_
  dsimp only
  split
  · rw [pure_bind]
    refine CreatesAs.calm_bind (Calm.onTable _) fun mapper => ?_
    refine CreatesAs.calm_bind (ensureImage_calm answer world c _) fun _ => ?_
    refine CreatesAs.get_bind fun r₁ hr₁ => ?_
    subst hr₁
    refine CreatesAs.create_bind answer (createRequest_writesReferences r₁ spec _ references)
      fun hdown id => ?_
    refine CreatesAs.exceptLift_bind (bringUp_calm answer world _ spec id _)
      fun brought => ?_
    split
    · exact CreatesAs.discard_throw answer world hdown id _
    · exact CreatesAs.track _ ⟨rfl, rfl⟩
  · exact CreatesAs.throw_bind _ _

end Create

/-- What one turn of a start loop leaves, from the runner `r` and the log `log`, with the loop
state `s`: the client stays, and it sends at most one create request, which writes the spec's
references resolved among the containers the loop started before. A turn that goes on sent one,
started a container for the spec and tracks it, and goes on with it added to those started and
with a map of references that resolves as they do. -/
def TurnRefers {σ : Type} (refsOf : σ → KeyMap String) (doneOf : σ → List StartedContainer)
    (spec : RunSpec) (s : σ) (r : Runner) (log : List Request) :
    (Except RunError (ForInStep σ) × Runner) × List Request → Prop
  | ((result, r'), log') => r'.client = r.client ∧ ∃ new, log' = log ++ new ∧
    ∃ asked : Option (CreateRequest × Option String),
      new.filter r.client.isCreate = (asked.map fun a => r.client.createRequestFor a.1 a.2).toList ∧
      (∀ a ∈ asked, WritesReferences spec (referenceAmong (doneOf s)) a.1) ∧
      match result with
      | .ok (.yield s') => asked.isSome = true ∧ ∃ container, container.IsFor spec ∧
          r'.started = r.started ++ [container] ∧ doneOf s' = doneOf s ++ [container] ∧
          Represents (refsOf s') (doneOf s')
      | .ok (.done _) => False
      | .error _ => r'.started = r.started

namespace TurnRefers

variable {σ : Type} {refsOf : σ → KeyMap String} {doneOf : σ → List StartedContainer}
  {spec : RunSpec} {s : σ}

theorem throw_bind {α : Type} (e : RunError) (f : α → RunM (StateM (List Request)) (ForInStep σ))
    (r : Runner) (log : List Request) :
    TurnRefers refsOf doneOf spec s r log (((MonadExcept.throw e >>= f).run.run r).run log) := by
  rw [throw_bind_run]
  exact ⟨rfl, [], by simp, none, rfl, nothing_asked, rfl⟩

/-- A turn that starts its container and goes on with it added to those started. -/
theorem bind_yield {x : RunM (StateM (List Request)) StartedContainer}
    {k : StartedContainer → RunM (StateM (List Request)) (ForInStep σ)} {r : Runner}
    {log : List Request}
    (hx : StartedAs r.client (WritesReferences spec (referenceAmong (doneOf s))) (·.IsFor spec)
      false r log ((x.run.run r).run log))
    (hk : ∀ container r' log', container.IsFor spec → ∃ s',
      ((k container).run.run r').run log' = ((.ok (.yield s'), r'), log') ∧
        doneOf s' = doneOf s ++ [container] ∧ Represents (refsOf s') (doneOf s')) :
    TurnRefers refsOf doneOf spec s r log (((x >>= k).run.run r).run log) := by
  rw [runM_run_bind]
  rcases hrun : ((x.run.run r).run log : Outcome StartedContainer) with
    ⟨⟨e | container, r'⟩, log'⟩
  · rw [hrun] at hx
    obtain ⟨hc, new, hnew, asked, hfilter, hwrites, -, hstarted⟩ := hx
    exact ⟨hc, new, hnew, asked, hfilter, hwrites, hstarted⟩
  · rw [hrun] at hx
    obtain ⟨hc, new, hnew, asked, hfilter, hwrites, -, hsome, hfor, hstarted⟩ := hx
    obtain ⟨s', hks, hdone, hrep⟩ := hk container r' log' hfor
    dsimp only
    rw [hks]
    exact ⟨hc, new, hnew, asked, hfilter, hwrites, hsome, container, hfor, hstarted, hdone, hrep⟩

end TurnRefers

/-- What the rest of a start loop leaves about create requests, from the runner `r` and the log
`log`, with the containers `done` started before: its create requests carry, in turn, the bodies
`bodies`, one for each spec from the first; it tracks the containers `ups` after those tracked
before, one started for each spec from the first, and all but the last create came up. The body
for a spec writes its references resolved among the containers started before it. -/
def RefersRun {β : Type} (c : Client) (specs : List RunSpec) (done : List StartedContainer)
    (r : Runner) (log : List Request) : (Except RunError β × Runner) × List Request → Prop
  | ((_, r'), log') => ∃ (bodies : List CreateRequest) (ups : List StartedContainer)
      (new : List Request), log' = log ++ new ∧
    List.Forall₂ (fun q body => ∃ name, q = c.createRequestFor body name)
      (new.filter c.isCreate) bodies ∧
    r'.started = r.started ++ ups ∧ ups.length ≤ bodies.length ∧
    bodies.length ≤ ups.length + 1 ∧ bodies.length ≤ specs.length ∧
    List.Forall₂ StartedContainer.IsFor ups (specs.take ups.length) ∧
    ∀ i spec body, specs[i]? = some spec → bodies[i]? = some body →
      WritesReferences spec (referenceAmong (done ++ ups.take i)) body

namespace RefersRun

variable {β : Type} {c : Client} {spec : RunSpec} {specs : List RunSpec}
  {done : List StartedContainer} {r r' : Runner} {log : List Request}

theorem nil (c : Client) (specs : List RunSpec) (done : List StartedContainer)
    (result : Except RunError β) (r : Runner) (log : List Request) :
    RefersRun c specs done r log ((result, r), log) :=
  ⟨[], [], [], by simp, by simp, by simp, le_refl _, by simp, by simp, by simp, by simp⟩

/-- A start that fails ends the loop, with at most its own create request sent. -/
theorem failed {result : Except RunError β} {new : List Request}
    {asked : Option (CreateRequest × Option String)}
    (hfilter : new.filter c.isCreate = (asked.map fun a => c.createRequestFor a.1 a.2).toList)
    (hwrites : ∀ a ∈ asked, WritesReferences spec (referenceAmong done) a.1)
    (hstarted : r'.started = r.started) :
    RefersRun c (spec :: specs) done r log ((result, r'), log ++ new) := by
  rcases asked with _ | a
  · exact ⟨[], [], new, rfl, by rw [hfilter]; exact .nil, by simp [hstarted], le_refl _, by simp,
      by simp, by simp, by simp⟩
  · refine ⟨[a.1], [], new, rfl, ?_, by simp [hstarted], by simp, le_refl _, by simp, by simp,
      fun i spec' body hs hb => ?_⟩
    · rw [hfilter]
      exact .cons ⟨a.2, rfl⟩ .nil
    · -- the only body is the first
      obtain rfl : i = 0 := by
        cases i
        · rfl
        · simp at hb
      simp only [List.getElem?_cons_zero, Option.some.injEq] at hs hb
      subst hs hb
      simpa using hwrites a rfl

/-- A container that came up, followed by the rest of the loop. -/
theorem cons {o : (Except RunError β × Runner) × List Request} {log' new : List Request}
    {container : StartedContainer} {a : CreateRequest × Option String} (hnew : log' = log ++ new)
    (hfilter : new.filter c.isCreate = [c.createRequestFor a.1 a.2])
    (hwrites : WritesReferences spec (referenceAmong done) a.1) (hfor : container.IsFor spec)
    (hstarted : r'.started = r.started ++ [container])
    (hrest : RefersRun c specs (done ++ [container]) r' log' o) :
    RefersRun c (spec :: specs) done r log o := by
  obtain ⟨⟨result, r''⟩, log''⟩ := o
  obtain ⟨bodies, ups, new', hnew', hcreates, hstarted', hle, hle', hlen, hfor', hbodies⟩ := hrest
  refine ⟨a.1 :: bodies, container :: ups, new ++ new', by rw [hnew', hnew, List.append_assoc],
    ?_, ?_, by simp [hle], by simp [hle'], by simp [hlen], ?_, ?_⟩
  · rw [List.filter_append, hfilter]
    exact .cons ⟨a.2, rfl⟩ hcreates
  · rw [hstarted', hstarted, List.append_assoc, List.singleton_append]
  · rw [List.length_cons, List.take_succ_cons]
    exact .cons hfor hfor'
  · intro i spec' body hs hb
    cases i with
    | zero =>
      simp only [List.getElem?_cons_zero, Option.some.injEq] at hs hb
      subst hs hb
      simpa using hwrites
    | succ i =>
      -- a later body sees this container among those started before
      simp only [List.getElem?_cons_succ] at hs hb
      rw [List.take_succ_cons, List.append_cons]
      exact hbodies i spec' body hs hb

end RefersRun

/-- A start loop whose every turn writes its references among the containers started before, and
keeps a map of references that resolves as they do, writes all its references so. The induction
is on the specs left, with the loop state, the runner and the log generalized. -/
theorem forIn_refersRun {σ : Type} (refsOf : σ → KeyMap String)
    (doneOf : σ → List StartedContainer)
    (body : RunSpec → σ → RunM (StateM (List Request)) (ForInStep σ))
    (hbody : ∀ spec s r log, Represents (refsOf s) (doneOf s) →
      TurnRefers refsOf doneOf spec s r log (((body spec s).run.run r).run log)) :
    ∀ (specs : List RunSpec) (s : σ) (r : Runner) (log : List Request),
      Represents (refsOf s) (doneOf s) →
      RefersRun r.client specs (doneOf s) r log (((forIn specs s body).run.run r).run log) := by
  intro specs
  induction specs with
  | nil =>
    intro s r log _
    rw [List.forIn_nil]
    exact RefersRun.nil _ _ _ _ r log
  | cons spec specs ih =>
    intro s r log hrep
    rw [List.forIn_cons, runM_run_bind]
    have hturn := hbody spec s r log hrep
    rcases hrun : ((body spec s).run.run r).run log with ⟨⟨e | step, r'⟩, log'⟩
    · rw [hrun] at hturn
      obtain ⟨-, new, rfl, asked, hfilter, hwrites, hstarted⟩ := hturn
      exact RefersRun.failed hfilter hwrites hstarted
    · rw [hrun] at hturn
      cases step with
      | done b => obtain ⟨-, -, -, -, -, -, ⟨⟩⟩ := hturn
      | yield s' =>
        obtain ⟨hc, new, hnew, asked, hfilter, hwrites, hsome, container, hfor, hstarted, hdone,
          hrep'⟩ := hturn
        obtain ⟨a, rfl⟩ := Option.isSome_iff_exists.mp hsome
        have hrest := ih s' r' log' hrep'
        rw [hc, hdone] at hrest
        exact RefersRun.cons hnew hfilter (hwrites a rfl) hfor hstarted hrest

theorem RefersRun.bind_pure {β γ : Type} {c : Client} {specs : List RunSpec}
    {done : List StartedContainer} {x : RunM (StateM (List Request)) β} {f : β → γ} {r : Runner}
    {log : List Request} (h : RefersRun c specs done r log ((x.run.run r).run log)) :
    RefersRun c specs done r log (((x >>= fun b => pure (f b)).run.run r).run log) := by
  rw [runM_run_bind]
  rcases hx : ((x.run.run r).run log : (Except RunError β × Runner) × List Request) with
    ⟨⟨e | b, r'⟩, log'⟩ <;> rw [hx] at h <;> exact h

theorem listed_of_unresolved {listed : List String} {ordered : List RunSpec}
    (hord : IsStartOrder listed ordered) {ups : List StartedContainer}
    (hups : List.Forall₂ StartedContainer.IsFor ups (ordered.take ups.length)) {i : Nat}
    (hi : i ≤ ups.length) {spec : RunSpec} (hspec : ordered[i]? = some spec) {d : String}
    (hd : d ∈ spec.referredNames) (hne : d ≠ "") (hnone : ∀ c ∈ ups.take i, ¬ c.KnownAs d) :
    d ∈ listed := by
  obtain ⟨hlt, rfl⟩ := List.getElem?_eq_some_iff.mp hspec
  have hsplit : ordered = ordered.take i ++ ordered[i] :: ordered.drop (i + 1) := by
    rw [← List.drop_eq_getElem_cons hlt, List.take_append_drop]
  rcases hord _ _ _ hsplit d (mem_dependencies_of_referred hd hne) with hlisted | ⟨y, hy, hname⟩
  · exact hlisted
  · -- a spec before it is known by the name, and the container started for it is before too
    have hbefore : List.Forall₂ StartedContainer.IsFor (ups.take i) (ordered.take i) := by
      have htake := List.forall₂_take i hups
      rwa [List.take_take, Nat.min_eq_left hi] at htake
    obtain ⟨c, hc, hknown⟩ := exists_knownAs_of_isFor hbefore hy hname
    exact absurd hknown (hnone c hc)

/-- What a start sequence leaves about create requests, from the runner `r` and the log `log`,
once the engine's names were read as `listing`: its create requests carry, in turn, the bodies
`bodies`; it tracks the containers `ups` after those tracked before, and all but the last create
came up. Once the engine's names are listed, these run through the start order from its first
spec: each container was started for its spec, and the body for a spec writes its references
resolved among the containers started before it; a name it refers to that none of them is known
by names a container the engine listed. -/
def ResolvedRun {β : Type} (c : Client) (listing : Except EngineError (List String))
    (specs : List RunSpec) (r : Runner) (log : List Request)
    (out : (Except RunError β × Runner) × List Request) : Prop :=
  ∃ (bodies : List CreateRequest) (ups : List StartedContainer) (new : List Request),
    out.2 = log ++ new ∧
    List.Forall₂ (fun q body => ∃ name, q = c.createRequestFor body name)
      (new.filter c.isCreate) bodies ∧
    out.1.2.started = r.started ++ ups ∧ ups.length ≤ bodies.length ∧
    bodies.length ≤ ups.length + 1 ∧
    (bodies = [] ∨ ∃ listed ordered, listing = .ok listed ∧
      order listed specs = .ok ordered ∧ bodies.length ≤ ordered.length ∧
      List.Forall₂ StartedContainer.IsFor ups (ordered.take ups.length) ∧
      ∀ i spec body, ordered[i]? = some spec → bodies[i]? = some body →
        WritesReferences spec (referenceAmong (ups.take i)) body ∧
        ∀ d ∈ spec.referredNames, d ≠ "" → (∀ c ∈ ups.take i, ¬ c.KnownAs d) →
          d ∈ listed)

theorem ResolvedRun.of_loop {β : Type} {c : Client} {specs ordered : List RunSpec}
    {listed : List String} {r : Runner} {log log₁ new₀ : List Request}
    {out : (Except RunError β × Runner) × List Request} (h : RefersRun c ordered [] r log₁ out)
    (hnew₀ : log₁ = log ++ new₀) (hnone : new₀.filter c.isCreate = [])
    (hord : order listed specs = .ok ordered) :
    ResolvedRun c (.ok listed) specs r log out := by
  obtain ⟨⟨result, r'⟩, log'⟩ := out
  obtain ⟨bodies, ups, new, hnew, hcreates, hstarted, hle, hle', hlen, hfor, hbodies⟩ := h
  refine ⟨bodies, ups, new₀ ++ new, by rw [hnew, hnew₀, List.append_assoc], ?_, hstarted, hle,
    hle', .inr ⟨listed, ordered, rfl, hord, hlen, hfor, fun i spec body hs hb => ?_⟩⟩
  · rw [List.filter_append, hnone, List.nil_append]
    exact hcreates
  · have hi : i ≤ ups.length := by
      have := (List.getElem?_eq_some_iff.mp hb).1
      omega
    refine ⟨by simpa using hbodies i spec body hs hb, fun d hd hne hunknown => ?_⟩
    exact listed_of_unresolved (order_sound hord).2 hfor hi hs hd hne hunknown

theorem ResolvedRun.quiet {β : Type} {c : Client} {listing : Except EngineError (List String)}
    {specs : List RunSpec} {result : Except RunError β} {r : Runner} {log new : List Request}
    (hnone : new.filter c.isCreate = []) :
    ResolvedRun c listing specs r log ((result, r), log ++ new) :=
  ⟨[], [], new, rfl, by rw [hnone]; exact .nil, by simp, le_refl _, by simp, .inl rfl⟩

section Run

variable (answer : Script) (world : World)

/-- The references the start sequence writes follow its start order. Its create requests carry,
in turn, the bodies `bodies`, and it tracks the containers `ups`: all the creates but the last
came up. Once the engine's names are listed, the bodies are those of a start order's specs from
its first, and each container was started for its spec. The body for a spec writes its shared
volumes, its links on a network that is not user-defined, as the reference, a colon and the
alias, and the container whose network it joins, each name resolved to the reference of the last
container started before it that is known by that name, or left as it is. A name, not empty,
that no container started before it is known by names a container the engine listed when the run
began. -/
theorem startAll_references_resolved (specs : List RunSpec) (known : KeyMap String)
    (r : Runner) (log : List Request) :
    let run := ((Runner.startAll (scriptedEnv answer world) specs
      known).run.run r).run log
    ∃ (bodies : List CreateRequest) (ups : List StartedContainer) (new : List Request),
      run.2 = log ++ new ∧
      List.Forall₂ (fun q body => ∃ name, q = r.client.createRequestFor body name)
        (new.filter r.client.isCreate) bodies ∧
      run.1.2.started = r.started ++ ups ∧ ups.length ≤ bodies.length ∧
      bodies.length ≤ ups.length + 1 ∧
      (bodies = [] ∨ ∃ listed ordered,
        ((r.client.containerNames answer.transport).run.run log).1 = .ok listed ∧
        order listed specs = .ok ordered ∧ bodies.length ≤ ordered.length ∧
        List.Forall₂ StartedContainer.IsFor ups (ordered.take ups.length) ∧
        ∀ i spec body, ordered[i]? = some spec → bodies[i]? = some body →
          WritesReferences spec (referenceAmong (ups.take i)) body ∧
          ∀ d ∈ spec.referredNames, d ≠ "" → (∀ c ∈ ups.take i, ¬ c.KnownAs d) →
            d ∈ listed) := by
  intro run
  show ResolvedRun r.client ((r.client.containerNames answer.transport).run.run log).1 specs r log
    run
  unfold run Runner.startAll
  rw [runM_run_bind, get_run]
  dsimp only
  rw [runM_run_bind, engine_run, scriptedEnv_transport]
  obtain ⟨new₀, hnew₀, hquiet⟩ := containerNames_quiet answer r.client log
  have hnone := filter_isCreate_quiet hquiet
  rcases hnames : (r.client.containerNames answer.transport).run.run log with ⟨e | listed, log₁⟩
  · rw [hnames] at hnew₀
    dsimp only at hnew₀
    rw [hnew₀]
    exact ResolvedRun.quiet hnone
  rw [hnames] at hnew₀
  dsimp only [Except.mapError] at hnew₀ ⊢
  rcases hord : order listed specs with e | ordered
  · rw [hnew₀]
    exact ResolvedRun.quiet hnone
  dsimp only
  rw [pure_bind]
  refine ResolvedRun.of_loop (RefersRun.bind_pure (forIn_refersRun
    (fun s : List String × KeyMap String × List StartedContainer => s.2.1) (fun s => s.2.2) _ ?_
    ordered (listed, [], []) r log₁ represents_nil)) hnew₀ hnone hord
  intro spec s r₀ log₀ hrep
  rw [token_bind_run]
  split
  · exact TurnRefers.throw_bind _ _ r₀ log₀
  · refine TurnRefers.bind_yield ?_ fun container r' log' hfor => ?_
    · have hresolve : (fun name => (s.2.1.find? name).getD name) = referenceAmong s.2.2 :=
        funext hrep
      have hstart := startOne_createsAs answer world spec known s.2.1 s.1 r₀ log₀ rfl
      rw [hresolve] at hstart
      exact hstart
    · -- the container's reference is recorded under the spec's name, then under its alias
      rcases halias : spec.aliasName with _ | a
      · split <;> exact ⟨_, rfl, rfl, hrep.insert_name hfor halias⟩
      · split <;> exact ⟨_, rfl, rfl, hrep.insert_alias hfor halias⟩

end Run

end Mooring.Run
