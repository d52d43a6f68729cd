import Mooring.Proofs.IndexSearch
import Mooring.Proofs.StartSequence
namespace Mooring.Naming

open Mooring.Text NameResolver

/-- Text that holds no `%` and no `i`, and is not empty: a `%i` can neither stand in it nor run
across it. A written build time is one. -/
def Stamp (s : List Char) : Prop := s ≠ [] ∧ ∀ c ∈ s, c ≠ '%' ∧ c ≠ 'i'

theorem stamp_toDigits (n : Nat) : ∀ c ∈ Nat.toDigits 10 n, c ≠ '%' ∧ c ≠ 'i' := by
  intro c hc
  have hdigit := Nat.isDigit_of_mem_toDigits (by omega) (Nat.le_refl _) hc
  simp only [Char.isDigit, Bool.and_eq_true, decide_eq_true_eq] at hdigit
  constructor <;> rintro rfl <;> simp at hdigit

theorem stamp_toString (ts : Int) : Stamp (toString ts).toList := by
  cases ts with
  | ofNat n =>
    have hs : (toString (Int.ofNat n)).toList = Nat.toDigits 10 n := by
      simp [toString, Int.repr, Nat.repr]
    rw [hs]
    exact ⟨Nat.toDigits_ne_nil, stamp_toDigits n⟩
  | negSucc n =>
    -- a minus sign, then the digits of the magnitude
    have hs : (toString (Int.negSucc n)).toList = '-' :: Nat.toDigits 10 (n + 1) := by
      simp [toString, Int.repr, Nat.repr]
    rw [hs]
    refine ⟨List.cons_ne_nil _ _, fun c hc => ?_⟩
    rcases List.mem_cons.mp hc with rfl | hc
    · decide
    · exact stamp_toDigits (n + 1) c hc

theorem index_infix_cons (x : Char) (s : List Char) :
    "%i".toList <:+: x :: s ↔ (x = '%' ∧ s.head? = some 'i') ∨ "%i".toList <:+: s := by
  rw [List.infix_cons_iff]
  cases s with
  | nil => simp
  | cons y s => simp [List.cons_prefix_cons, eq_comm]

/-- Two texts alike as to `%i`: it stands in both or in neither, and both or neither start with
the `i` that a `%` before them would make one. -/
def IndexAlike (a b : List Char) : Prop :=
  ("%i".toList <:+: a ↔ "%i".toList <:+: b) ∧ (a.head? = some 'i' ↔ b.head? = some 'i')

theorem IndexAlike.append_left {a b : List Char} (h : IndexAlike a b) :
    ∀ x : List Char, IndexAlike (x ++ a) (x ++ b)
  | [] => h
  | c :: x => by
    have ih := h.append_left x
    refine ⟨?_, by simp⟩
    rw [List.cons_append, List.cons_append, index_infix_cons, index_infix_cons, ih.1, ih.2]

theorem index_infix_stamp_append {x : List Char} (hx : ∀ c ∈ x, c ≠ '%' ∧ c ≠ 'i')
    (a : List Char) : "%i".toList <:+: x ++ a ↔ "%i".toList <:+: a := by
  induction x with
  | nil => rfl
  | cons c x ih =>
    rw [List.cons_append, index_infix_cons, ih fun d hd => hx d (List.mem_cons_of_mem _ hd)]
    simp [(hx c List.mem_cons_self).1]

theorem IndexAlike.stamps {a b x y : List Char} (h : IndexAlike a b) (hx : Stamp x)
    (hy : Stamp y) : IndexAlike (x ++ a) (y ++ b) := by
  refine ⟨?_, ?_⟩
  · rw [index_infix_stamp_append hx.2, index_infix_stamp_append hy.2]
    exact h.1
  · -- both start with their stamp, which has no `i`
    obtain ⟨c, x', rfl⟩ := List.exists_cons_of_ne_nil hx.1
    obtain ⟨d, y', rfl⟩ := List.exists_cons_of_ne_nil hy.1
    simp [(hx.2 c List.mem_cons_self).2, (hy.2 d List.mem_cons_self).2]

/-- Two pieces of renderings at different build times: the same, or both a written build time. -/
def Retimed (p q : Piece) : Prop :=
  p = q ∨ ∃ a b, p = .value a ∧ q = .value b ∧ Stamp a.toList ∧ Stamp b.toList

theorem retimed_chars {ps qs : List Piece} (h : List.Forall₂ Retimed ps qs) :
    IndexAlike (ps.flatMap Piece.chars) (qs.flatMap Piece.chars) := by
  induction h with
  | nil => exact ⟨Iff.rfl, Iff.rfl⟩
  | cons hpq _ ih =>
    rw [List.flatMap_cons, List.flatMap_cons]
    rcases hpq with rfl | ⟨a, b, rfl, rfl, ha, hb⟩
    · exact ih.append_left _
    · exact ih.stamps ha hb

section Retime

variable {l₁ l₂ : Char → Except NamingError (Option Piece)}

/-- Rendering with two lookups that differ at most in the build time they give gives pieces that
differ at most there. The induction follows the rendering. -/
theorem render_retimed (hl : ∀ t, l₁ t = l₂ t ∨ ∃ a b, l₁ t = .ok (some (.value a)) ∧
      l₂ t = .ok (some (.value b)) ∧ Stamp a.toList ∧ Stamp b.toList) :
    ∀ s ps qs, render l₁ s = .ok ps → render l₂ s = .ok qs → List.Forall₂ Retimed ps qs := by
  intro s
  induction s using render.induct with
  | case1 =>
    intro ps qs h₁ h₂
    cases h₁
    cases h₂
    exact .nil
  | case2 t rest ih_rest ih_tail =>
    intro ps qs h₁ h₂
    rcases hl t with heq | ⟨a, b, ha, hb, hsa, hsb⟩
    · -- the same value, or the same `%` left as text
      cases hx : l₁ t with
      | error e => rw [render_percent_error hx] at h₁; cases h₁
      | ok o =>
        rw [hx] at heq
        cases o with
        | some p =>
          rw [render_percent_some hx] at h₁
          rw [render_percent_some heq.symm] at h₂
          obtain ⟨ps', h₁', rfl⟩ := ok_of_map_eq_ok h₁
          obtain ⟨qs', h₂', rfl⟩ := ok_of_map_eq_ok h₂
          exact .cons (.inl rfl) (ih_rest ps' qs' h₁' h₂')
        | none =>
          rw [render_percent_none hx] at h₁
          rw [render_percent_none heq.symm] at h₂
          obtain ⟨ps', h₁', rfl⟩ := ok_of_map_eq_ok h₁
          obtain ⟨qs', h₂', rfl⟩ := ok_of_map_eq_ok h₂
          exact .cons (.inl rfl) (ih_tail ps' qs' h₁' h₂')
    · rw [render_percent_some ha] at h₁
      rw [render_percent_some hb] at h₂
      obtain ⟨ps', h₁', rfl⟩ := ok_of_map_eq_ok h₁
      obtain ⟨qs', h₂', rfl⟩ := ok_of_map_eq_ok h₂
      exact .cons (.inr ⟨a, b, rfl, rfl, hsa, hsb⟩) (ih_rest ps' qs' h₁' h₂')
  | case3 c rest hc ih =>
    intro ps qs h₁ h₂
    rw [render_literal hc] at h₁ h₂
    obtain ⟨ps', h₁', rfl⟩ := ok_of_map_eq_ok h₁
    obtain ⟨qs', h₂', rfl⟩ := ok_of_map_eq_ok h₂
    exact .cons (.inl rfl) (ih ps' qs' h₁' h₂')

end Retime

theorem lookup_retimed (ctx : NamingContext) (ts : Int) (existing : List String) (t : Char) :
    ctx.lookup t = { ctx with timestampMillis := ts, existing := existing }.lookup t ∨
      ∃ a b, ctx.lookup t = .ok (some (.value a)) ∧
        { ctx with timestampMillis := ts, existing := existing }.lookup t = .ok (some (.value b)) ∧
        Stamp a.toList ∧ Stamp b.toList := by
  by_cases ht : t = 't'
  · subst ht
    exact .inr ⟨_, _, rfl, rfl, stamp_toString _, stamp_toString _⟩
  · left
    unfold NamingContext.lookup
    split
    · rfl
    · rfl
    · exact absurd rfl ht
    · rfl

theorem asksIndex_retimed {ctx : NamingContext} {ts : Int} {existing : List String} {p q : String}
    (hp : ctx.partialName = .ok p)
    (hq : { ctx with timestampMillis := ts, existing := existing }.partialName = .ok q) :
    asksIndex p = asksIndex q := by
  obtain ⟨ps, hps, hpchars⟩ := partialName_chars ctx hp
  obtain ⟨qs, hqs, hqchars⟩ := partialName_chars _ hq
  have halike := retimed_chars (render_retimed (lookup_retimed ctx ts existing) _ ps qs hps hqs)
  rw [← hpchars, ← hqchars] at halike
  unfold asksIndex
  rw [Bool.eq_iff_iff, ← infix_iff_contains, ← infix_iff_contains]
  exact halike.1

theorem pattern_of_usesEmptyName {pattern : String} (h : usesEmptyName pattern = .ok true) :
    pattern = "%e" := by
  unfold usesEmptyName at h
  split at h
  · assumption
  · split at h <;> cases h

theorem partialName_empty (ctx : NamingContext) (h : ctx.pattern = "%e") :
    ctx.partialName = .ok "%e" := by
  have hr : render ctx.lookup ['%', 'e'] = .ok [.literal '%', .literal 'e'] := by
    rw [render_percent_none rfl, render_literal (by simp)]
    rfl
  unfold NamingContext.partialName
  rw [h, show "%e".toList = ['%', 'e'] from rfl, hr]
  rfl

/-- A name computed for a context whose filled-in pattern asks for an index, at some build time:
a name that is not taken. -/
theorem calculateName_fresh {r : NameResolver} {ctx : NamingContext} {name : Option String}
    (h : r.calculateName ctx = .ok name) {ts : Int} {p₀ : String}
    (hp₀ : { ctx with timestampMillis := ts, existing := [] }.partialName = .ok p₀)
    (hasks : asksIndex p₀ = true) : ∃ n, name = some n ∧ n ∉ ctx.existing := by
  cases hu : usesEmptyName ctx.pattern with
  | error e => simp [calculateName, hu, bind, Except.bind] at h
  | ok empty =>
    cases empty with
    | true =>
      -- the engine is to choose only for the pattern `%e`, which asks for no index
      rw [partialName_empty { ctx with timestampMillis := ts, existing := [] }
        (pattern_of_usesEmptyName hu)] at hp₀
      cases hp₀
      exact absurd hasks (by decide)
    | false =>
      cases hp : ctx.partialName with
      | error e => simp [calculateName, hu, hp, bind, Except.bind] at h
      | ok p =>
        have hi : asksIndex p = true := (asksIndex_retimed hp₀ hp).symm.trans hasks
        rw [calculateName_of_asksIndex hu hp hi] at h
        cases hf : firstFree p ctx.existing 1 r.maxIndex with
        | none => simp [hf] at h
        | some k =>
          simp only [hf, Option.elim, Except.ok.injEq] at h
          exact ⟨_, h.symm, (firstFree_eq_some_iff.mp hf).2.2.1⟩

end Mooring.Naming

namespace Mooring.Run

open Mooring.Engine Mooring.Naming Mooring.Plan Mooring.Config Mooring.Ports Mooring.Order
  Mooring.Collections

/-- A run step that leaves the runner's settings as they are. -/
def KeepsSettings {α : Type} (x : RunM (StateM (List Request)) α) : Prop :=
  ∀ r log, ((x.run.run r).run log : Outcome α).1.2.settings = r.settings

namespace KeepsSettings

variable {α β : Type}

theorem pure (a : α) : KeepsSettings (Pure.pure a : RunM (StateM (List Request)) α) :=
  fun _ _ => rfl

theorem throw (e : RunError) :
    KeepsSettings (MonadExcept.throw e : RunM (StateM (List Request)) α) :=
  fun _ _ => rfl

theorem throw_bind (e : RunError) (f : α → RunM (StateM (List Request)) β) :
    KeepsSettings (MonadExcept.throw e >>= f) := fun _ _ => rfl

theorem bind {x : RunM (StateM (List Request)) α} {f : α → RunM (StateM (List Request)) β}
    (hx : KeepsSettings x) (hf : ∀ a, KeepsSettings (f a)) : KeepsSettings (x >>= f) :=
  fun r log => by
    rw [runM_run_bind]
    have hs := hx r log
    rcases hxr : ((x.run.run r).run log : Outcome α) with ⟨⟨e | a, r'⟩, log'⟩
    · rw [hxr] at hs
      exact hs
    · rw [hxr] at hs
      exact (hf a r' log').trans hs

theorem get_bind {f : Runner → RunM (StateM (List Request)) β} (hf : ∀ r, KeepsSettings (f r)) :
    KeepsSettings (MonadState.get >>= f) := fun r log => by
  rw [runM_run_bind]
  exact hf r r log

theorem engine (x : ExceptT EngineError (StateM (List Request)) α) :
    KeepsSettings (Runner.engine x) := fun r log => by
  rw [engine_run]

theorem lift (y : StateM (List Request) α) :
    KeepsSettings (liftM y : RunM (StateM (List Request)) α) := fun _ _ => rfl

theorem onTable (step : TableM α) :
    KeepsSettings (Runner.onTable step : RunM (StateM (List Request)) α) := fun r log => by
  rw [onTable_run]

theorem exceptLift {x : RunM (StateM (List Request)) α} (hx : KeepsSettings x) :
    KeepsSettings (ExceptT.lift x.run : RunM (StateM (List Request)) (Except RunError α)) :=
  fun r log => by
    rw [exceptLift_run]
    exact hx r log

theorem track (container : StartedContainer) :
    KeepsSettings (modify (fun r => { r with started := r.started ++ [container] }) >>= fun _ =>
      Pure.pure container : RunM (StateM (List Request)) StartedContainer) := fun _ _ => rfl

end KeepsSettings

section Settings

variable (env : RunEnv (StateM (List Request)))

theorem ensureImage_keepsSettings (image : String) :
    KeepsSettings (Runner.ensureImage env image) := by
  unfold Runner.ensureImage
  refine KeepsSettings.get_bind fun r => KeepsSettings.bind (.engine _) fun present => ?_
  split
  · exact .pure _
  · exact .engine _

theorem bringUp_keepsSettings (spec : RunSpec) (id : String) (mapper : PortMapper) :
    KeepsSettings (Runner.bringUp env spec id mapper) := by
  unfold Runner.bringUp
  refine KeepsSettings.get_bind fun r => .bind (.engine _) fun _ => .bind (.engine _) fun found => ?_
  split
  · refine KeepsSettings.bind (.onTable _) fun ports => ?_
    dsimp only
    split
    · refine KeepsSettings.get_bind fun r' => ?_
      split
      · rename_i built _
        rw [pure_bind]
        obtain ⟨poller, memory⟩ := built
        refine KeepsSettings.bind (.lift _) fun cancel => .bind (.lift _) fun ended => ?_
        obtain ⟨run, _⟩ := ended
        dsimp only
        split
        · exact .throw_bind _ _
        · exact .pure _
      · exact .throw_bind _ _
    · exact .pure _
  · exact .throw _

theorem discard_keepsSettings (id : String) : KeepsSettings (Runner.discard env id) := by
  unfold Runner.discard
  exact KeepsSettings.get_bind fun r => .bind (.lift _) fun _ => .pure _

theorem startOne_keepsSettings (spec : RunSpec) (known references : KeyMap String)
    (existing : List String) :
    KeepsSettings (Runner.startOne env spec known references existing) := by
  unfold Runner.startOne
  refine KeepsSettings.get_bind fun r => .bind (.lift _) fun now => ?_
  dsimp only
  split
  · rw [pure_bind]
    refine KeepsSettings.bind (.onTable _) fun mapper => ?_
    refine KeepsSettings.bind (ensureImage_keepsSettings env _) fun _ => ?_
    refine KeepsSettings.get_bind fun r₁ => .bind (.engine _) fun id => ?_
    refine KeepsSettings.bind (.exceptLift (bringUp_keepsSettings env spec id mapper)) fun up => ?_
    split
    · exact .bind (discard_keepsSettings env id) fun _ => .throw _
    · exact .track _
  · exact .throw_bind _ _

end Settings

/-- The context a spec's name is computed in, at a build time, with some names taken. -/
def namingContext (settings : Settings) (spec : RunSpec) (ts : Int) (existing : List String) :
    NamingContext :=
  { pattern := spec.namePattern.getD settings.naming.pattern
    imageName := spec.image
    aliasName := some (spec.aliasName.getD spec.name)
    timestampMillis := ts
    existing := existing }

/-- Whether the spec's pattern, filled in at some build time, asks for an index; by
`asksIndex_retimed` it then does at every build time. -/
def AsksIndex (settings : Settings) (spec : RunSpec) : Prop :=
  ∃ ts p, (namingContext settings spec ts []).partialName = .ok p ∧ asksIndex p = true

/-- A name given for the spec, seen from the names `taken`: when the spec asks for an index, a
name that is not taken. -/
def FreshFor (settings : Settings) (taken : List String) (g : RunSpec × Option String) : Prop :=
  AsksIndex settings g.1 → ∃ n, g.2 = some n ∧ n ∉ taken

theorem calculateName_freshFor {names : NameResolver} {settings : Settings} {spec : RunSpec}
    {ts : Int} {existing : List String} {name : Option String}
    (h : names.calculateName (namingContext settings spec ts existing) = .ok name) :
    FreshFor settings existing (spec, name) := fun ⟨_, _, hp₀, hasks⟩ =>
  calculateName_fresh h hp₀ hasks

/-- What a step of a container's start sends that creates a container. Before the create
(`created` false) it sends at most one create request, asking for `name`; after it, none. A
container the step gives back was created, and has the name `name`. -/
def CreatesNamed (c : Client) (name : Option String) (created : Bool)
    (x : RunM (StateM (List Request)) StartedContainer) : Prop :=
  ∀ r log, r.client = c →
    ∃ new, ((x.run.run r).run log : Outcome StartedContainer).2 = log ++ new ∧
      ∃ asked : Option CreateRequest,
        new.filter c.isCreate = (asked.map (c.createRequestFor · name)).toList ∧
        (created = true → asked = none) ∧
        ∀ container, ((x.run.run r).run log : Outcome StartedContainer).1.1 = .ok container →
          (created || asked.isSome) = true ∧ container.containerName = name

theorem filter_isCreate_quiet {c : Client} {new : List Request} (h : ∀ q ∈ new, c.Quiet q) :
    new.filter c.isCreate = [] :=
  List.filter_eq_nil_iff.mpr fun q hq => by simp [(h q hq).1]

namespace CreatesNamed

variable {c : Client} {name : Option String} {created : Bool} {α : Type}

theorem get_bind {f : Runner → RunM (StateM (List Request)) StartedContainer}
    (hf : ∀ r, r.client = c → CreatesNamed c name created (f r)) :
    CreatesNamed c name created (MonadState.get >>= f) := fun r log hr => by
  rw [runM_run_bind]
  exact hf r hr r log hr

theorem calm_bind {x : RunM (StateM (List Request)) α}
    {f : α → RunM (StateM (List Request)) StartedContainer} (hx : Calm c x)
    (hf : ∀ a, CreatesNamed c name created (f a)) : CreatesNamed c name created (x >>= f) :=
  fun r log hr => by
    rw [runM_run_bind]
    obtain ⟨hc, -, new, hnew, hq⟩ := hx r log hr
    have hnone := filter_isCreate_quiet hq
    rcases hxr : ((x.run.run r).run log : Outcome α) with ⟨⟨e | a, r'⟩, log'⟩
    · rw [hxr] at hnew
      exact ⟨new, hnew, none, by simp [hnone], fun _ => rfl, fun _ h => by cases h⟩
    · rw [hxr] at hc hnew
      dsimp only at hc hnew ⊢
      obtain ⟨new', hnew', asked, hfilter, hcreated, hresult⟩ := hf a r' log' hc
      refine ⟨new ++ new', by rw [hnew', hnew, List.append_assoc], asked, ?_, hcreated, hresult⟩
      rw [List.filter_append, hnone, hfilter, List.nil_append]

theorem exceptLift_bind {x : RunM (StateM (List Request)) α}
    {f : Except RunError α → RunM (StateM (List Request)) StartedContainer} (hx : Calm c x)
    (hf : ∀ a, CreatesNamed c name created (f a)) :
    CreatesNamed c name created (ExceptT.lift x.run >>= f) := fun r log hr => by
  rw [runM_run_bind, exceptLift_run]
  obtain ⟨hc, -, new, hnew, hq⟩ := hx r log hr
  obtain ⟨new', hnew', asked, hfilter, hcreated, hresult⟩ := hf _ _ _ hc
  refine ⟨new ++ new', by rw [hnew', hnew, List.append_assoc], asked, ?_, hcreated, hresult⟩
  rw [List.filter_append, filter_isCreate_quiet hq, hfilter, List.nil_append]

end CreatesNamed

section Create

variable (answer : Script) (world : World)
  {c : Client} {name : Option String}

/-- The create sends the one create request of the start, asking for `name`; what follows it
creates nothing more. -/
theorem CreatesNamed.create_bind {body : CreateRequest}
    {k : String → RunM (StateM (List Request)) StartedContainer}
    (hk : c.shutDown = false → ∀ id, CreatesNamed c name true (k id)) :
    CreatesNamed c name false
      (Runner.engine (c.createContainer answer.transport body name) >>= k) := fun r log hr => by
  rw [runM_run_bind, engine_run]
  cases hdown : c.shutDown with
  | true =>
    rw [createContainer_run, request_shutDown answer.transport c _ _ _ _ log hdown]
    exact ⟨[], by rw [List.append_nil]; rfl, none, rfl, fun _ => rfl, fun _ h => by cases h⟩
  | false =>
    have hsent := createContainer_sent answer c body name log hdown
    have hcreate : [c.createRequestFor body name].filter c.isCreate =
        ((some body).map (c.createRequestFor · name)).toList := by simp
    rcases hc : (c.createContainer answer.transport body name).run.run log with ⟨e | id, log₁⟩
    · rw [hc] at hsent
      exact ⟨[c.createRequestFor body name], hsent, some body, hcreate, nofun,
        fun _ h => by cases h⟩
    · rw [hc] at hsent
      simp only [Except.mapError]
      dsimp only at hsent ⊢
      obtain ⟨new, hnew, asked, hfilter, hnone, hresult⟩ := hk hdown id r log₁ hr
      have hasked : asked = none := hnone rfl
      subst hasked
      refine ⟨[c.createRequestFor body name] ++ new, by rw [hnew, hsent, List.append_assoc],
        some body, ?_, nofun, fun container h => ⟨rfl, (hresult container h).2⟩⟩
      rw [List.filter_append, hcreate, hfilter]
      rfl

theorem CreatesNamed.discard_throw (hdown : c.shutDown = false) (id : String) (e : RunError) :
    CreatesNamed c name true
      (Runner.discard (scriptedEnv answer world) id >>= fun _ => throw e) :=
  fun r log hr => by
    rw [runM_run_bind, discard_run answer world id r log (hr ▸ hdown)]
    exact ⟨[r.client.removeRequest id], rfl, none, by simp [hr], fun _ => rfl,
      fun _ h => by cases h⟩

theorem CreatesNamed.track (container : StartedContainer) (hname : container.containerName = name) :
    CreatesNamed c name true
      (modify (fun r => { r with started := r.started ++ [container] }) >>= fun _ =>
        pure container) := fun r log hr => by
  rw [runM_run_bind, modify_run]
  exact ⟨[], by rw [List.append_nil]; rfl, none, rfl, fun _ => rfl,
    fun container' h => by cases h; exact ⟨rfl, hname⟩⟩

/-- What one container's start sends that creates a container, from the runner `r` and the log
`log`, with the names `existing` taken: at most one create request, and its name is fresh for the
names taken; a container it gives back was created by it, and has its name. -/
def StartNamed (c : Client) (settings : Settings) (spec : RunSpec) (existing : List String)
    (log : List Request) : Outcome StartedContainer → Prop
  | ((result, _), log') => ∃ new, log' = log ++ new ∧
    ∃ asked : Option (CreateRequest × Option String),
      new.filter c.isCreate = (asked.map fun a => c.createRequestFor a.1 a.2).toList ∧
      (∀ a ∈ asked, FreshFor settings existing (spec, a.2)) ∧
      ∀ container, result = .ok container → ∃ a ∈ asked, container.containerName = a.2

theorem StartNamed.of_creates {c : Client} {name : Option String} {settings : Settings}
    {spec : RunSpec} {existing : List String} {x : RunM (StateM (List Request)) StartedContainer}
    (hx : CreatesNamed c name false x) (hfresh : FreshFor settings existing (spec, name))
    (r : Runner) (hr : r.client = c) (log : List Request) :
    StartNamed c settings spec existing log ((x.run.run r).run log) := by
  obtain ⟨new, hnew, asked, hfilter, -, hresult⟩ := hx r log hr
  rcases hrun : ((x.run.run r).run log : Outcome StartedContainer) with ⟨⟨result, r'⟩, log'⟩
  rw [hrun] at hnew hresult
  refine ⟨new, hnew, asked.map (·, name), by rw [Option.map_map]; exact hfilter,
    fun a ha => ?_, fun container h => ?_⟩
  · obtain ⟨body, -, rfl⟩ := Option.mem_map.mp ha
    exact hfresh
  · obtain ⟨hsome, hname⟩ := hresult container h
    obtain ⟨body, hbody⟩ := Option.isSome_iff_exists.mp (by simpa using hsome)
    exact ⟨(body, name), by simp [hbody], hname⟩

theorem scriptedEnv_now_run (log : List Request) :
    (scriptedEnv answer world).now.run log = (world.clock log, log) := rfl

/-- One container's start asks for at most one name, the one it computed, which is fresh for the
names taken. -/
theorem startOne_named (spec : RunSpec) (known references : KeyMap String)
    (existing : List String) (r : Runner) (log : List Request) :
    StartNamed r.client r.settings spec existing log
      (((Runner.startOne (scriptedEnv answer world) spec known references
        existing).run.run r).run log) := by
  unfold Runner.startOne
  rw [runM_run_bind, get_run]
  dsimp only
  rw [runM_run_bind, liftM_run, scriptedEnv_now_run]
  dsimp only
  split
  · -- the name computed: what follows asks for it, once
    rename_i name hname
    rw [pure_bind]
    refine StartNamed.of_creates ?_ (calculateName_freshFor hname) r rfl log
    refine CreatesNamed.calm_bind (Calm.onTable _) fun mapper => ?_
    refine CreatesNamed.calm_bind (ensureImage_calm answer world r.client _)
      fun _ => ?_
    refine CreatesNamed.get_bind fun r₁ hr₁ => ?_
    rw [hr₁]
    refine CreatesNamed.create_bind answer fun hdown id => ?_
    refine CreatesNamed.exceptLift_bind (bringUp_calm answer world _ spec id _)
      fun brought => ?_
    split
    · exact CreatesNamed.discard_throw answer world hdown id _
    · exact CreatesNamed.track _ rfl
  · -- no name: nothing is sent
    rw [throw_bind_run]
    exact ⟨[], by rw [List.append_nil], none, rfl, fun _ h => absurd h (Option.not_mem_none _),
      fun _ h => by cases h⟩

end Create

/-- What the rest of a start loop leaves about names, from the log `log` with the names `taken`:
its create requests ask, in turn, for the names of `named`, given for a run of the specs from the
first. Each is fresh for the names taken where its spec asks for an index, and then differs from
every name before it. -/
def NamedRun (c : Client) (settings : Settings) (specs : List RunSpec) (taken : List String)
    (log log' : List Request) : Prop :=
  ∃ (named : List (RunSpec × Option String)) (new : List Request), log' = log ++ new ∧
    named.map (·.1) <+: specs ∧
    List.Forall₂ (fun q g => ∃ body, q = c.createRequestFor body g.2) (new.filter c.isCreate) named ∧
    (∀ g ∈ named, FreshFor settings taken g) ∧
    named.Pairwise fun a b => AsksIndex settings b.1 → a.2 ≠ b.2

theorem NamedRun.refl (c : Client) (settings : Settings) (specs : List RunSpec)
    (taken : List String) (log : List Request) : NamedRun c settings specs taken log log :=
  ⟨[], [], (List.append_nil log).symm, List.nil_prefix, .nil, List.forall_mem_nil _, .nil⟩

/-- What one turn of a start loop leaves about names, from the runner `r` and the log `log`, with
the names `taken`: the client and the settings stay, and it asks for at most one name, fresh for
the names taken. A turn that goes on asked for one, and takes it as well as every name taken
before. -/
def TurnNamed {σ : Type} (spec : RunSpec) (takenOf : σ → List String) (taken : List String)
    (r : Runner) (log : List Request) : (Except RunError (ForInStep σ) × Runner) × List Request → Prop
  | ((result, r'), log') => r'.client = r.client ∧ r'.settings = r.settings ∧
    ∃ new, log' = log ++ new ∧ ∃ asked : Option (CreateRequest × Option String),
      new.filter r.client.isCreate = (asked.map fun a => r.client.createRequestFor a.1 a.2).toList ∧
      (∀ a ∈ asked, FreshFor r.settings taken (spec, a.2)) ∧
      match result with
      | .ok (.yield s) => ∃ a ∈ asked, taken ⊆ takenOf s ∧ ∀ n, a.2 = some n → n ∈ takenOf s
      | .ok (.done _) => False
      | .error _ => True

namespace TurnNamed

variable {σ : Type} {spec : RunSpec} {takenOf : σ → List String} {taken : List String}

theorem throw_bind {α : Type} (e : RunError) (f : α → RunM (StateM (List Request)) (ForInStep σ))
    (r : Runner) (log : List Request) :
    TurnNamed spec takenOf taken r log (((MonadExcept.throw e >>= f).run.run r).run log) := by
  rw [throw_bind_run]
  exact ⟨rfl, rfl, [], by simp, none, rfl, fun _ h => absurd h (Option.not_mem_none _), trivial⟩

/-- A turn that starts its container and goes on taking the name it is known by. -/
theorem bind_yield {x : RunM (StateM (List Request)) StartedContainer}
    {k : StartedContainer → RunM (StateM (List Request)) (ForInStep σ)} {r : Runner}
    {log : List Request}
    (hx : StartNamed r.client r.settings spec taken log ((x.run.run r).run log))
    (hc : ((x.run.run r).run log : Outcome StartedContainer).1.2.client = r.client)
    (hs : ((x.run.run r).run log : Outcome StartedContainer).1.2.settings = r.settings)
    (hk : ∀ container r' log', ∃ s, ((k container).run.run r').run log' = ((.ok (.yield s), r'), log') ∧
      taken ⊆ takenOf s ∧ container.reference ∈ takenOf s) :
    TurnNamed spec takenOf taken r log (((x >>= k).run.run r).run log) := by
  rw [runM_run_bind]
  rcases hrun : ((x.run.run r).run log : Outcome StartedContainer) with ⟨⟨e | container, r'⟩, log'⟩
  · rw [hrun] at hx hc hs
    obtain ⟨new, hnew, asked, hfilter, hfresh, -⟩ := hx
    exact ⟨hc, hs, new, hnew, asked, hfilter, hfresh, trivial⟩
  · rw [hrun] at hx hc hs
    obtain ⟨new, hnew, asked, hfilter, hfresh, hresult⟩ := hx
    obtain ⟨a, ha, hname⟩ := hresult container rfl
    obtain ⟨s, hks, hsub, href⟩ := hk container r' log'
    dsimp only
    rw [hks]
    refine ⟨hc, hs, new, hnew, asked, hfilter, hfresh, a, ha, hsub, fun n hn => ?_⟩
    -- the container is known by the name it asked for
    have : container.reference = n := by simp [StartedContainer.reference, hname, hn]
    exact this ▸ href

end TurnNamed

/-- A start loop whose every turn asks for a fresh name and takes it gives fresh names to all its
containers. The induction is on the specs left, with the loop state, the runner and the log
generalized; the names taken grow along the run. -/
theorem forIn_named {σ : Type} (takenOf : σ → List String)
    (body : RunSpec → σ → RunM (StateM (List Request)) (ForInStep σ))
    (hbody : ∀ spec s r log,
      TurnNamed spec takenOf (takenOf s) r log (((body spec s).run.run r).run log)) :
    ∀ (specs : List RunSpec) (s : σ) (r : Runner) (log : List Request),
      NamedRun r.client r.settings specs (takenOf s) log
        (((forIn specs s body).run.run r).run log).2 := by
  intro specs
  induction specs with
  | nil =>
    intro s r log
    rw [List.forIn_nil]
    exact NamedRun.refl _ _ _ _ log
  | cons spec specs ih =>
    intro s r log
    rw [List.forIn_cons, runM_run_bind]
    have hturn := hbody spec s r log
    rcases hrun : ((body spec s).run.run r).run log with ⟨⟨e | step, r'⟩, log'⟩
    · -- the turn failed: at most its own name was asked for
      rw [hrun] at hturn
      obtain ⟨-, -, new, hnew, asked, hfilter, hfresh, -⟩ := hturn
      rcases asked with _ | a
      · exact ⟨[], new, hnew, List.nil_prefix, by rw [hfilter]; exact .nil, List.forall_mem_nil _,
          .nil⟩
      · refine ⟨[(spec, a.2)], new, hnew, by simp, ?_, by simpa using hfresh, by simp⟩
        rw [hfilter]
        exact .cons ⟨a.1, rfl⟩ .nil
    · rw [hrun] at hturn
      cases step with
      | done b => obtain ⟨-, -, -, -, -, -, -, ⟨⟩⟩ := hturn
      | yield s' =>
        obtain ⟨hc, hset, new, hnew, asked, hfilter, hfresh, a, ha, hsub, htake⟩ := hturn
        obtain rfl : asked = some a := ha
        obtain ⟨named, new', hnew', hprefix, hcreates, hfresh', hpair⟩ := ih s' r' log'
        rw [hc] at hcreates
        rw [hset] at hfresh' hpair
        dsimp only
        refine ⟨(spec, a.2) :: named, new ++ new', by rw [hnew', hnew, List.append_assoc],
          by simpa using hprefix, ?_, ?_, ?_⟩
        · rw [List.filter_append, hfilter]
          exact .cons ⟨a.1, rfl⟩ hcreates
        · -- the later names are fresh for more names than were taken before the turn
          intro g hg
          rcases List.mem_cons.mp hg with rfl | hg
          · exact hfresh a rfl
          · intro hasks
            obtain ⟨n, hn, hfree⟩ := hfresh' g hg hasks
            exact ⟨n, hn, fun hmem => hfree (hsub hmem)⟩
        · refine List.pairwise_cons.mpr ⟨fun b hb hasks heq => ?_, hpair⟩
          -- a later name is not one taken, and this turn took its own
          obtain ⟨n, hn, hfree⟩ := hfresh' b hb hasks
          exact hfree (htake n (heq.trans hn))

theorem takes_added (existing : List String) (reference : String) :
    existing ⊆ existing ++ [reference] ∧ reference ∈ existing ++ [reference] := by
  simp

theorem takes_kept {existing : List String} {reference : String}
    (h : ¬ (!existing.contains reference) = true) : existing ⊆ existing ∧ reference ∈ existing := by
  simpa using h

/-- The names a run asks for, read off its create requests after the log `log`: each asks for one
name of `named`, given for a spec; once the engine's names `listing` are read, these specs run
through the start order from its first, and a name whose spec asks for an index is none of the
names listed. A name whose spec asks for an index differs from every name given before it. -/
def FreshlyNamed (c : Client) (settings : Settings) (listing : Except EngineError (List String))
    (specs : List RunSpec) (log log' : List Request) : Prop :=
  ∃ (named : List (RunSpec × Option String)) (new : List Request),
    log' = log ++ new ∧
    List.Forall₂ (fun q g => ∃ body, q = c.createRequestFor body g.2) (new.filter c.isCreate) named ∧
    named.Pairwise (fun a b => AsksIndex settings b.1 → a.2 ≠ b.2) ∧
    ∀ listed, listing = .ok listed →
      (∀ ordered, order listed specs = .ok ordered → named.map (·.1) <+: ordered) ∧
      ∀ g ∈ named, AsksIndex settings g.1 → ∃ n, g.2 = some n ∧ n ∉ listed

theorem FreshlyNamed.of_loop {c : Client} {settings : Settings} {specs ordered : List RunSpec}
    {listed : List String} {log log₁ new₀ log' : List Request}
    (h : NamedRun c settings ordered listed log₁ log') (hnew₀ : log₁ = log ++ new₀)
    (hnone : new₀.filter c.isCreate = []) (hord : order listed specs = .ok ordered) :
    FreshlyNamed c settings (.ok listed) specs log log' := by
  obtain ⟨named, new, hnew, hprefix, hcreates, hfresh, hpair⟩ := h
  refine ⟨named, new₀ ++ new, by rw [hnew, hnew₀, List.append_assoc], ?_, hpair,
    fun listed' h => ?_⟩
  · rw [List.filter_append, hnone, List.nil_append]
    exact hcreates
  · obtain rfl : listed = listed' := Except.ok.inj h
    refine ⟨fun ordered' hord' => ?_, hfresh⟩
    rw [hord] at hord'
    cases hord'
    exact hprefix

theorem FreshlyNamed.quiet {c : Client} {settings : Settings} {listing : Except EngineError (List String)}
    {specs : List RunSpec} {log new : List Request} (hnone : new.filter c.isCreate = [])
    (hlisting : ∀ listed, listing = .ok listed → ∀ ordered, order listed specs ≠ .ok ordered) :
    FreshlyNamed c settings listing specs log (log ++ new) :=
  ⟨[], new, rfl, by rw [hnone]; exact .nil, .nil, fun listed h =>
    ⟨fun ordered hord => absurd hord (hlisting listed h ordered), List.forall_mem_nil _⟩⟩

section Run

variable (answer : Script) (world : World)

theorem startOne_client (spec : RunSpec) (known references : KeyMap String)
    (existing : List String) (r : Runner) (log : List Request) :
    (((Runner.startOne (scriptedEnv answer world) spec known references
      existing).run.run r).run log : Outcome StartedContainer).1.2.client = r.client := by
  have hone := startOne_startsOne answer world r.client spec known references
    existing r log rfl
  revert hone
  rcases (((Runner.startOne (scriptedEnv answer world) spec known references
    existing).run.run r).run log : Outcome StartedContainer) with ⟨⟨_, r'⟩, _⟩
  exact fun h => h.1

theorem bind_pure_log {β γ : Type} (x : RunM (StateM (List Request)) β) (f : β → γ) (r : Runner)
    (log : List Request) :
    ((((x >>= fun b => pure (f b)).run.run r).run log : Outcome γ)).2 =
      ((x.run.run r).run log : Outcome β).2 := by
  rw [runM_run_bind]
  rcases ((x.run.run r).run log : Outcome β) with ⟨⟨e | b, r'⟩, log'⟩ <;> rfl

/-- The names a run gives never collide where they ask for an index. Every create request the
start sequence sends asks, in turn, for one name of `named`, given for a spec; once the engine's
names are read, these specs run through the start order from its first. A name whose spec's
filled-in pattern asks for an index is none of the names the engine listed when the run began, and
differs from every name given before it in the run. -/
theorem startAll_indexed_names_fresh (specs : List RunSpec) (known : KeyMap String)
    (r : Runner) (log : List Request) :
    let run := ((Runner.startAll (scriptedEnv answer world) specs
      known).run.run r).run log
    ∃ (named : List (RunSpec × Option String)) (new : List Request),
      run.2 = log ++ new ∧
      List.Forall₂ (fun q g => ∃ body, q = r.client.createRequestFor body g.2)
        (new.filter r.client.isCreate) named ∧
      named.Pairwise (fun a b => AsksIndex r.settings b.1 → a.2 ≠ b.2) ∧
      ∀ listed, ((r.client.containerNames answer.transport).run.run log).1 = .ok listed →
        (∀ ordered, order listed specs = .ok ordered → named.map (·.1) <+: ordered) ∧
        ∀ g ∈ named, AsksIndex r.settings g.1 → ∃ n, g.2 = some n ∧ n ∉ listed := by
  intro run
  show FreshlyNamed r.client r.settings ((r.client.containerNames answer.transport).run.run log).1
    specs log run.2
  unfold run Runner.startAll
  rw [runM_run_bind, get_run]
  dsimp only
  rw [runM_run_bind, engine_run, scriptedEnv_transport]
  obtain ⟨new₀, hnew₀, hquiet⟩ := containerNames_quiet answer r.client log
  have hnone := filter_isCreate_quiet hquiet
  rcases hnames : (r.client.containerNames answer.transport).run.run log with ⟨e | listed, log₁⟩
  · rw [hnames] at hnew₀
    rw [hnew₀]
    exact FreshlyNamed.quiet hnone fun _ h => by cases h
  rw [hnames] at hnew₀
  dsimp only [Except.mapError] at hnew₀ ⊢
  rcases hord : order listed specs with e | ordered
  · -- no start order: nothing more is sent
    rw [hnew₀]
    exact FreshlyNamed.quiet hnone fun listed' h ordered' => by
      obtain rfl : listed = listed' := Except.ok.inj h
      rw [hord]
      exact nofun
  dsimp only
  rw [pure_bind, bind_pure_log]
  -- the loop takes the names listed first, then the name of every container it started
  refine FreshlyNamed.of_loop (forIn_named
    (fun s : List String × KeyMap String × List StartedContainer => s.1) _ ?_ ordered
    (listed, [], []) r log₁) hnew₀ hnone hord
  intro spec s r₀ log₀
  rw [token_bind_run]
  split
  · exact TurnNamed.throw_bind _ _ r₀ log₀
  · refine TurnNamed.bind_yield (startOne_named answer world spec known s.2.1 s.1 r₀ log₀)
      (startOne_client answer world spec known s.2.1 s.1 r₀ log₀)
      (startOne_keepsSettings _ spec known s.2.1 s.1 r₀ log₀) fun container r' log' => ?_
    split
    · split <;> exact ⟨_, rfl, takes_added s.1 container.reference⟩
    · rename_i hkept
      split <;> exact ⟨_, rfl, takes_kept hkept⟩

end Run

end Mooring.Run
