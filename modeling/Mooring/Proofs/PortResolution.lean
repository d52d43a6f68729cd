import Mathlib.Data.List.Forall2
import Mooring.Proofs.PortBindings
namespace Mooring.Ports

open Mooring.Collections Mooring.Engine Mooring.Text PortTable

theorem forIn_yield_eq_forM {α : Type} (xs : List α) (act : α → TableM PUnit) :
    forIn xs PUnit.unit (fun a _ => do act a; pure (ForInStep.yield PUnit.unit)) = forM xs act := by
  induction xs with
  | nil => rfl
  | cons a as ih =>
    rw [List.forIn_cons, List.forM_cons, bind_assoc]
    simp only [pure_bind, ih]

/-- The ports assigned to a variable: the host port of the container port of each mapping of the
variable, for those container ports that were assigned one, in mapping order. -/
def assignedPorts (specs : List PortSpec) (assigned : List (ContainerPort × Nat)) (name : String) :
    List Nat :=
  specs.filterMap fun s => if s.host = .variable name then assigned.lookup s.container else none

/-- The ports a variable is to hold after resolving: its port in the table, if it has one, and the
ports assigned to it. -/
def requiredPorts (specs : List PortSpec) (assigned : List (ContainerPort × Nat)) (t : PortTable)
    (name : String) : List Nat :=
  (t.get? name).toList ++ assignedPorts specs assigned name

/-- The table and the assigned ports agree: each variable's required ports are one port. -/
def Consistent (specs : List PortSpec) (assigned : List (ContainerPort × Nat)) (t : PortTable) :
    Prop :=
  ∀ name, ∀ p ∈ requiredPorts specs assigned t name, ∀ q ∈ requiredPorts specs assigned t name, p = q

/-- One turn of resolving: binds the mapping's port variable to the host port assigned to its
container port, if it has both. -/
def bindAssigned (assigned : List (ContainerPort × Nat)) (s : PortSpec) : TableM PUnit :=
  match s.host with
  | .variable name =>
    match assigned.lookup s.container with
    | some port => PortTable.bind name port
    | none => pure ()
  | _ => pure ()

theorem resolve_eq (m : PortMapper) (assigned : List (ContainerPort × Nat)) :
    m.resolve assigned = forM m.specs (bindAssigned assigned) := by
  unfold PortMapper.resolve
  rw [← forIn_yield_eq_forM, bind_pure_unit]
  congr 1
  funext s u
  unfold bindAssigned
  -- a fixed or unassigned host port binds nothing, a variable binds what its port was assigned
  rcases s.host with _ | _ | _
  · simp
  · cases assigned.lookup s.container <;> simp
  · simp

namespace PortSpec

/-- The binding a mapping asks for once ports are assigned: its port variable and the host port of
its container port, when it has a variable and that port was assigned one. -/
def assignedBinding (assigned : List (ContainerPort × Nat)) (s : PortSpec) : Option (String × Nat) :=
  match s.host with
  | .variable name => (assigned.lookup s.container).map (name, ·)
  | _ => none

end PortSpec

theorem bindAssigned_eq (assigned : List (ContainerPort × Nat)) (s : PortSpec) :
    bindAssigned assigned s = match s.assignedBinding assigned with
      | some b => PortTable.bind b.1 b.2
      | none => pure () := by
  unfold bindAssigned PortSpec.assignedBinding
  rcases s.host with _ | _ | _
  · rfl
  · cases assigned.lookup s.container <;> rfl
  · rfl

theorem mem_assignedPorts_cons {assigned : List (ContainerPort × Nat)} {s : PortSpec}
    {ss : List PortSpec} {name : String} {x : Nat} :
    x ∈ assignedPorts (s :: ss) assigned name ↔
      s.assignedBinding assigned = some (name, x) ∨ x ∈ assignedPorts ss assigned name := by
  have hhead : (if s.host = .variable name then assigned.lookup s.container else none) = some x ↔
      s.assignedBinding assigned = some (name, x) := by
    unfold PortSpec.assignedBinding
    rcases s.host with _ | n | _
    · simp
    · by_cases hn : n = name
      · subst hn
        simp
      · simp [hn]
    · simp
  simp only [assignedPorts, List.mem_filterMap, List.mem_cons, exists_eq_or_imp, hhead]

theorem mem_requiredPorts_cons {assigned : List (ContainerPort × Nat)} {t : PortTable}
    {s : PortSpec} {ss : List PortSpec} {name : String} {x : Nat} :
    x ∈ requiredPorts (s :: ss) assigned t name ↔
      x ∈ requiredPorts ss assigned t name ∨ s.assignedBinding assigned = some (name, x) := by
  simp only [requiredPorts, List.mem_append, mem_assignedPorts_cons]
  exact or_left_comm.trans or_comm

theorem get?_insert (t : PortTable) (n name : String) (p : Nat) :
    ({ t with ports := t.ports.insert n p } : PortTable).get? name =
      if name = n then some p else t.get? name :=
  KeyMap.find?_insert n name p t.ports

/-- What binding the variables of mappings from table `t` ends in: the addresses are untouched;
when the table and the assigned ports agree, the run succeeds and every variable holds exactly its
required port; otherwise it is refused at a variable that holds another port, and keeps it. -/
structure ResolvesTo (specs : List PortSpec) (assigned : List (ContainerPort × Nat))
    (t : PortTable) (r : Except PortSpecError PUnit × PortTable) : Prop where
  hosts : r.2.hosts = t.hosts
  agreed : Consistent specs assigned t →
    r.1 = .ok () ∧ ∀ name p, r.2.get? name = some p ↔ p ∈ requiredPorts specs assigned t name
  refused : ¬Consistent specs assigned t → ∃ name bound attempted,
    r.1 = .error (.rebind name bound attempted) ∧ bound ≠ attempted ∧ r.2.get? name = some bound

namespace ResolvesTo

variable {assigned : List (ContainerPort × Nat)}

theorem nil (t : PortTable) : ResolvesTo [] assigned t (.ok (), t) where
  hosts := rfl
  agreed := fun _ => ⟨rfl, fun name p => by simp [requiredPorts, assignedPorts]⟩
  refused := fun h => absurd (fun name p hp q hq => by
    simp only [requiredPorts, assignedPorts, List.filterMap_nil, List.append_nil,
      Option.mem_toList] at hp hq
    rw [hp] at hq
    exact Option.some.inj hq) h

theorem of_iff {specs specs' : List PortSpec} {t t' : PortTable} {r : Except PortSpecError PUnit × PortTable}
    (hmem : ∀ name x, x ∈ requiredPorts specs assigned t name ↔ x ∈ requiredPorts specs' assigned t' name)
    (hh : t'.hosts = t.hosts) (h : ResolvesTo specs' assigned t' r) : ResolvesTo specs assigned t r := by
  have hcons : Consistent specs assigned t ↔ Consistent specs' assigned t' := by
    unfold Consistent
    simp only [hmem]
  refine ⟨h.hosts.trans hh, fun hc => ?_, fun hc => h.refused (mt hcons.mpr hc)⟩
  obtain ⟨hok, hget⟩ := h.agreed (hcons.mp hc)
  exact ⟨hok, fun name p => (hget name p).trans (hmem name p).symm⟩

theorem refuse {specs : List PortSpec} {t : PortTable} {name : String} {bound attempted : Nat}
    (hget : t.get? name = some bound) (hne : bound ≠ attempted)
    (hreq : attempted ∈ requiredPorts specs assigned t name) :
    ResolvesTo specs assigned t (.error (.rebind name bound attempted), t) := by
  have hbound : bound ∈ requiredPorts specs assigned t name := by simp [requiredPorts, hget]
  refine ⟨rfl, fun hc => absurd (hc name bound hbound attempted hreq) hne, fun _ => ?_⟩
  exact ⟨name, bound, attempted, rfl, hne, hget⟩

variable {specs : List PortSpec} {t : PortTable} {r : Except PortSpecError PUnit × PortTable}

theorem consistent_of_ok (h : ResolvesTo specs assigned t r) (hr : r.1 = .ok ()) :
    Consistent specs assigned t := by
  by_cases hc : Consistent specs assigned t
  · exact hc
  · obtain ⟨name, bound, attempted, he, -, -⟩ := h.refused hc
    rw [hr] at he
    cases he

theorem rebind_of_error (h : ResolvesTo specs assigned t r) {e : PortSpecError}
    (he : r.1 = .error e) : ∃ name bound attempted,
      e = .rebind name bound attempted ∧ bound ≠ attempted ∧ r.2.get? name = some bound := by
  by_cases hc : Consistent specs assigned t
  · rw [(h.agreed hc).1] at he
    cases he
  · obtain ⟨name, bound, attempted, he', hne, hget⟩ := h.refused hc
    rw [he'] at he
    cases he
    exact ⟨name, bound, attempted, rfl, hne, hget⟩

end ResolvesTo

/-- Binding the variables of mappings in order ends as `ResolvesTo` says, from every table. -/
theorem forM_bindAssigned_resolves (assigned : List (ContainerPort × Nat)) (specs : List PortSpec) :
    ∀ t, ResolvesTo specs assigned t ((forM specs (bindAssigned assigned)).run.run t) := by
  induction specs with
  | nil => exact ResolvesTo.nil
  | cons s ss ih =>
    intro t
    rw [List.forM_cons, run_bind_eq, bindAssigned_eq]
    cases hb : s.assignedBinding assigned with
    | none =>
      exact (ih t).of_iff (fun name x => by simp [mem_requiredPorts_cons, hb]) (by rfl)
    | some b =>
      obtain ⟨n, p⟩ := b
      dsimp only
      rw [bind_run]
      cases hget : t.get? n with
      | none =>
        dsimp only
        refine (ih _).of_iff (fun name x => ?_) (by rfl)
        rw [mem_requiredPorts_cons, hb]
        simp only [requiredPorts, get?_insert, Option.some.injEq, Prod.mk.injEq, List.mem_append]
        by_cases hn : name = n
        · subst hn
          simp only [hget, if_true, Option.toList_some, Option.toList_none, true_and,
            List.mem_singleton, List.not_mem_nil, false_or]
          rw [@eq_comm _ x p]
          exact or_comm
        · simp [hn, Ne.symm hn]
      | some bound =>
        dsimp only
        by_cases hbp : bound = p
        · -- the variable already holds the port: nothing changes
          subst hbp
          rw [if_pos rfl]
          refine (ih t).of_iff (fun name x => ?_) (by rfl)
          simp only [mem_requiredPorts_cons, hb, Option.some.injEq, Prod.mk.injEq,
            or_iff_left_iff_imp]
          rintro ⟨rfl, rfl⟩
          simp [requiredPorts, hget]
        · rw [if_neg hbp]
          exact ResolvesTo.refuse hget hbp (mem_requiredPorts_cons.mpr (.inr hb))

/-- Resolving binds exactly the variables assigned a port, or refuses a conflict. It succeeds if
and only if, for every variable, the port it holds and the ports assigned to its mappings are one
port. After success each variable holds the port assigned to it and every other variable keeps
what it held. A failure is a refused rebinding, of a variable that keeps the port it holds, which
differs from the port refused. Addresses are never touched. -/
theorem resolve_binds_exactly_assigned (m : PortMapper) (assigned : List (ContainerPort × Nat))
    (t : PortTable) :
    let r := (m.resolve assigned).run.run t
    (r.1 = .ok () ↔ Consistent m.specs assigned t) ∧
      (r.1 = .ok () →
        (∀ name, ∀ p ∈ assignedPorts m.specs assigned name, r.2.get? name = some p) ∧
        ∀ name, assignedPorts m.specs assigned name = [] → r.2.get? name = t.get? name) ∧
      (∀ e, r.1 = .error e → ∃ name bound attempted,
        e = .rebind name bound attempted ∧ bound ≠ attempted ∧ r.2.get? name = some bound) ∧
      r.2.hosts = t.hosts := by
  intro r
  have h : ResolvesTo m.specs assigned t r := by
    simp only [r, resolve_eq]
    exact forM_bindAssigned_resolves assigned m.specs t
  -- a run that disagrees is refused, so agreement is exactly success
  have hok : r.1 = .ok () ↔ Consistent m.specs assigned t :=
    ⟨h.consistent_of_ok, fun hc => (h.agreed hc).1⟩
  refine ⟨hok, fun hr => ⟨fun name p hp => ?_, fun name hnone => ?_⟩, fun _ => h.rebind_of_error, h.hosts⟩
  · exact ((h.agreed (hok.mp hr)).2 name p).mpr (List.mem_append_right _ hp)
  · -- with no port assigned, the variable holds exactly what the table held
    have hget := (h.agreed (hok.mp hr)).2 name
    simp only [requiredPorts, hnone, List.append_nil, Option.mem_toList] at hget
    exact Option.ext hget

theorem run_bind_eq_ok {α β : Type} {x : TableM α} {f : α → TableM β} {t t' : PortTable} {b : β}
    (h : (x >>= f).run.run t = (.ok b, t')) :
    ∃ a t₁, x.run.run t = (.ok a, t₁) ∧ (f a).run.run t₁ = (.ok b, t') := by
  rw [run_bind_eq] at h
  rcases hx : x.run.run t with ⟨_ | a, t₁⟩
  · rw [hx] at h
    cases h
  · rw [hx] at h
    exact ⟨a, t₁, rfl, h⟩

theorem Grows.forM {α : Type} {act : α → TableM PUnit} (hact : ∀ a, Grows (act a)) :
    ∀ xs : List α, Grows (forM xs act)
  | [] => Grows.pure _
  | a :: as => by
    rw [List.forM_cons]
    exact (hact a).bind fun _ => Grows.forM hact as

/-- The published bindings whose key reads as a container port: the key, the port and the
binding, in key order. -/
def readablePorts (bindings : List (String × PortBinding)) :
    List (String × ContainerPort × PortBinding) :=
  bindings.filterMap fun (key, b) => (ContainerPort.parse? key).map fun c => (key, c, b)

/-- A resolved port as the engine reported it: the container port of the binding, its host port
read as a number, and its address, with the engine's host for `0.0.0.0` or no address. -/
def Reports (dockerHost : String) (r : ResolvedPort) (e : String × ContainerPort × PortBinding) :
    Prop :=
  r.container = e.2.1 ∧ parseU16? e.2.2.hostPort = some r.hostPort ∧
    r.hostIp = if e.2.2.hostIp = "0.0.0.0" ∨ e.2.2.hostIp = "" then dockerHost else e.2.2.hostIp

/-- A mapping with a port or address variable that the table does not bind. -/
def PortSpec.HasUnbound (t : PortTable) (s : PortSpec) : Prop :=
  (∃ name, s.host = .variable name ∧ t.get? name = none) ∨
    ∃ name, s.hostIpVariable = some name ∧ t.getHost? name = none

namespace PortMapper

/-- Reading the bindings one at a time: an unreadable key is passed over, an unreadable host port
fails, and any other binding is resolved in front of the rest. -/
theorem resolvedPorts_cons (key : String) (b : PortBinding) (bs : List (String × PortBinding))
    (dockerHost : String) :
    resolvedPorts ((key, b) :: bs) dockerHost =
      match ContainerPort.parse? key with
      | none => resolvedPorts bs dockerHost
      | some c =>
        match parseU16? b.hostPort with
        | none => .error (.invalidBinding key b.hostPort)
        | some port =>
          (resolvedPorts bs dockerHost).map
            (⟨c, if b.hostIp = "0.0.0.0" ∨ b.hostIp = "" then dockerHost else b.hostIp, port⟩ :: ·) := by
  rw [resolvedPorts, List.filterMapM_cons]
  dsimp only
  cases ContainerPort.parse? key with
  | none => rfl
  | some c =>
    cases parseU16? b.hostPort with
    | none => rfl
    | some port =>
      show (do let rest ← resolvedPorts bs dockerHost; pure (_ :: rest)) = _
      cases resolvedPorts bs dockerHost <;> simp [Except.map]

/-- Reading the bindings gives one resolved port for each readable binding, as reported. -/
theorem resolvedPorts_eq_ok {bindings : List (String × PortBinding)} {dockerHost : String}
    {r : List ResolvedPort} (h : resolvedPorts bindings dockerHost = .ok r) :
    List.Forall₂ (Reports dockerHost) r (readablePorts bindings) := by
  induction bindings generalizing r with
  | nil =>
    cases h
    exact .nil
  | cons e bs ih =>
    obtain ⟨key, b⟩ := e
    rw [resolvedPorts_cons] at h
    cases hc : ContainerPort.parse? key with
    | none =>
      rw [hc] at h
      simpa [readablePorts, hc] using ih h
    | some c =>
      rw [hc] at h
      cases hp : parseU16? b.hostPort with
      | none =>
        rw [hp] at h
        cases h
      | some port =>
        rw [hp] at h
        cases hrest : resolvedPorts bs dockerHost with
        | error e =>
          rw [hrest] at h
          cases h
        | ok rest =>
          rw [hrest] at h
          cases h
          simp only [readablePorts, List.filterMap_cons, hc, Option.map_some]
          exact .cons ⟨rfl, hp, rfl⟩ (ih hrest)

/-- Reading the bindings fails only at a readable binding whose host port is no port number, and
names its key and host port. -/
theorem resolvedPorts_eq_error {bindings : List (String × PortBinding)} {dockerHost : String}
    {err : PortSpecError} (h : resolvedPorts bindings dockerHost = .error err) :
    ∃ key c b, (key, c, b) ∈ readablePorts bindings ∧ parseU16? b.hostPort = none ∧
      err = .invalidBinding key b.hostPort := by
  induction bindings with
  | nil => cases h
  | cons e bs ih =>
    obtain ⟨key, b⟩ := e
    rw [resolvedPorts_cons] at h
    have hmem : ∀ {x}, x ∈ readablePorts bs → x ∈ readablePorts ((key, b) :: bs) := fun hx => by
      simp only [readablePorts, List.filterMap_cons] at hx ⊢
      split
      · exact hx
      · exact List.mem_cons_of_mem _ hx
    cases hc : ContainerPort.parse? key with
    | none =>
      rw [hc] at h
      obtain ⟨key', c, b', hm, hp, he⟩ := ih h
      exact ⟨key', c, b', hmem hm, hp, he⟩
    | some c =>
      rw [hc] at h
      cases hp : parseU16? b.hostPort with
      | none =>
        rw [hp] at h
        cases h
        exact ⟨key, c, b, by simp [readablePorts, hc], hp, rfl⟩
      | some port =>
        rw [hp] at h
        cases hrest : resolvedPorts bs dockerHost with
        | error e =>
          rw [hrest] at h
          cases h
          obtain ⟨key', c', b', hm, hp', he⟩ := ih hrest
          exact ⟨key', c', b', hmem hm, hp', he⟩
        | ok rest =>
          rw [hrest] at h
          cases h

/-- One turn of binding addresses: the mapping's address variable receives the address of the
first resolved port of its container port, if it has both. -/
def bindHostFound (resolved : List ResolvedPort) (s : PortSpec) : TableM PUnit :=
  match s.hostIpVariable with
  | some name =>
    match resolved.find? (·.container = s.container) with
    | some r => PortTable.bindHost name r.hostIp
    | none => pure ()
  | none => pure ()

theorem resolveFromContainer_eq (m : PortMapper) (d : ContainerDetails) (dockerHost : String) :
    m.resolveFromContainer d dockerHost = (do
      let resolved ← resolveFromContainer.liftExcept (resolvedPorts d.portBindings dockerHost)
      m.resolve (assignment resolved)
      forM m.specs (bindHostFound resolved)
      pure resolved) := by
  unfold resolveFromContainer
  refine congrArg (_ >>= ·) (funext fun resolved => congrArg (_ >>= ·) (funext fun _ => ?_))
  rw [← forIn_yield_eq_forM]
  refine congrArg (· >>= _) (congrArg (forIn _ _) (funext fun s => funext fun _ => ?_))
  unfold bindHostFound
  -- a mapping without an address variable, or whose port was not reported, binds nothing
  cases s.hostIpVariable with
  | none => simp
  | some name => cases resolved.find? (·.container = s.container) <;> simp

theorem bindHostFound_grows (resolved : List ResolvedPort) (s : PortSpec) :
    Grows (bindHostFound resolved s) := by
  unfold bindHostFound
  split
  · split
    · exact bindHost_grows _ _
    · exact Grows.pure _
  · exact Grows.pure _

theorem getHost?_of_bindHost_ok {name ip : String} {t t' : PortTable}
    (h : (PortTable.bindHost name ip).run.run t = (.ok (), t')) : t'.getHost? name = some ip := by
  rw [bindHost_run] at h
  cases hget : t.getHost? name with
  | none =>
    rw [hget] at h
    cases h
    simp [PortTable.getHost?, KeyMap.find?_insert]
  | some bound =>
    rw [hget] at h
    dsimp only at h
    by_cases hb : bound = ip
    · rw [if_pos hb] at h
      cases h
      rw [hget, hb]
    · rw [if_neg hb] at h
      cases h

theorem forM_bindHostFound_binds (resolved : List ResolvedPort) (specs : List PortSpec) :
    ∀ t t', (forM specs (bindHostFound resolved)).run.run t = (.ok (), t') →
      ∀ s ∈ specs, ∀ name x, s.hostIpVariable = some name →
        resolved.find? (·.container = s.container) = some x → t'.getHost? name = some x.hostIp := by
  induction specs with
  | nil => intro t t' _ s hs; cases hs
  | cons s ss ih =>
    intro t t' h s' hs' name x hname hx
    rw [List.forM_cons] at h
    obtain ⟨_, t₁, h₁, hrest⟩ := run_bind_eq_ok h
    rcases List.mem_cons.mp hs' with rfl | hs'
    · -- this mapping's address is bound now, and later turns keep it
      have hbound : t₁.getHost? name = some x.hostIp := by
        simp only [bindHostFound, hname, hx] at h₁
        exact getHost?_of_bindHost_ok h₁
      have hgrow := Grows.forM (bindHostFound_grows resolved) ss t₁
      rw [hrest] at hgrow
      exact hgrow.hosts name _ hbound
    · exact ih t₁ t' hrest s' hs' name x hname hx

theorem resolveFromContainer_run_error {m : PortMapper} {d : ContainerDetails}
    {dockerHost : String} {err : PortSpecError} (t : PortTable)
    (h : resolvedPorts d.portBindings dockerHost = .error err) :
    (m.resolveFromContainer d dockerHost).run.run t = (.error err, t) := by
  rw [resolveFromContainer_eq, run_bind_eq, h]
  rfl

theorem resolveFromContainer_run_ok {m : PortMapper} {d : ContainerDetails} {dockerHost : String}
    {t t' : PortTable} {r : List ResolvedPort}
    (h : (m.resolveFromContainer d dockerHost).run.run t = (.ok r, t')) :
    resolvedPorts d.portBindings dockerHost = .ok r ∧ ∃ t₁,
      (m.resolve (assignment r)).run.run t = (.ok (), t₁) ∧
      (forM m.specs (bindHostFound r)).run.run t₁ = (.ok (), t') := by
  rw [resolveFromContainer_eq] at h
  obtain ⟨r₀, t₀, hread, hrest⟩ := run_bind_eq_ok h
  cases hres : resolvedPorts d.portBindings dockerHost with
  | error e =>
    rw [hres] at hread
    cases hread
  | ok r₁ =>
    rw [hres] at hread
    cases hread
    obtain ⟨_, t₁, hresolve, hhosts⟩ := run_bind_eq_ok hrest
    obtain ⟨_, t₂, hforM, hpure⟩ := run_bind_eq_ok hhosts
    cases hpure
    exact ⟨rfl, t₁, hresolve, hforM⟩

theorem map_container_of_reports {dockerHost : String} {r : List ResolvedPort}
    {l : List (String × ContainerPort × PortBinding)} (h : List.Forall₂ (Reports dockerHost) r l) :
    r.map (·.container) = l.map (·.2.1) := by
  induction h with
  | nil => rfl
  | cons hx _ ih => simp [hx.1, ih]

theorem hostPort_reads_of_reports {dockerHost : String} {r : List ResolvedPort}
    {l : List (String × ContainerPort × PortBinding)} (h : List.Forall₂ (Reports dockerHost) r l) :
    ∀ e ∈ l, parseU16? e.2.2.hostPort ≠ none := by
  induction h with
  | nil => intro e he; cases he
  | cons hx _ ih =>
    intro e he
    rcases List.mem_cons.mp he with rfl | he
    · rw [hx.2.1]
      exact Option.some_ne_none _
    · exact ih e he

/-- Among resolved ports of distinct container ports, each is the first of its container port. -/
theorem find?_container {r : List ResolvedPort} (hr : (r.map (·.container)).Nodup)
    {x : ResolvedPort} (hx : x ∈ r) : r.find? (·.container = x.container) = some x := by
  induction r with
  | nil => cases hx
  | cons y r ih =>
    obtain ⟨hy, hr⟩ := List.nodup_cons.mp hr
    by_cases hc : y.container = x.container
    · -- a resolved port of the same container port is the same one
      have hxy : x = y := by
        rcases List.mem_cons.mp hx with rfl | hx
        · rfl
        · have hmem : y.container ∈ r.map (·.container) := by
            rw [hc]
            exact List.mem_map_of_mem hx
          exact absurd hmem hy
      subst hxy
      simp
    · have hx' : x ∈ r := by
        rcases List.mem_cons.mp hx with rfl | hx
        · exact absurd rfl hc
        · exact hx
      simp [hc, ih hr hx']

theorem lookup_filter_ne {acc : List (ContainerPort × Nat)} {c c' : ContainerPort} (h : c ≠ c') :
    (acc.filter (·.1 ≠ c')).lookup c = acc.lookup c := by
  induction acc with
  | nil => rfl
  | cons e acc ih =>
    obtain ⟨k, v⟩ := e
    by_cases hk : k = c'
    · -- the dropped entry is of another container port than the one looked up
      subst hk
      have hck : (c == k) = false := beq_eq_false_iff_ne.mpr h
      simp only [List.filter_cons, ne_eq, not_true_eq_false, decide_false, Bool.false_eq_true,
        if_false, ih, List.lookup_cons, hck]
    · simp only [List.filter_cons, ne_eq, hk, not_false_eq_true, decide_true, if_true,
        List.lookup_cons, ih]

/-- The assignment of resolved ports of distinct container ports gives each its host port. -/
theorem lookup_assignment {r : List ResolvedPort} (hr : (r.map (·.container)).Nodup)
    {x : ResolvedPort} (hx : x ∈ r) : (assignment r).lookup x.container = some x.hostPort := by
  let step := fun (acc : List (ContainerPort × Nat)) (y : ResolvedPort) =>
    (y.container, y.hostPort) :: acc.filter (·.1 ≠ y.container)
  -- ports after the last of a container port do not change what the assignment gives it
  have hframe : ∀ (r : List ResolvedPort) acc, (∀ y ∈ r, y.container ≠ x.container) →
      (r.foldl step acc).lookup x.container = acc.lookup x.container := by
    intro r
    induction r with
    | nil => intro acc _; rfl
    | cons y r ih =>
      intro acc hr
      rw [List.foldl_cons, ih _ fun z hz => hr z (List.mem_cons_of_mem _ hz)]
      have hne := hr y List.mem_cons_self
      have hbeq : (x.container == y.container) = false := beq_eq_false_iff_ne.mpr (Ne.symm hne)
      show ((y.container, y.hostPort) :: acc.filter (·.1 ≠ y.container)).lookup x.container = _
      rw [List.lookup_cons, hbeq]
      exact lookup_filter_ne (Ne.symm hne)
  have hall : ∀ (r : List ResolvedPort) acc, (r.map (·.container)).Nodup → x ∈ r →
      (r.foldl step acc).lookup x.container = some x.hostPort := by
    intro r
    induction r with
    | nil => intro _ _ hx; cases hx
    | cons y r ih =>
      intro acc hr hx
      obtain ⟨hy, hr⟩ := List.nodup_cons.mp hr
      rw [List.foldl_cons]
      rcases List.mem_cons.mp hx with rfl | hx
      · have hlater : ∀ z ∈ r, z.container ≠ x.container := by
          intro z hz he
          have hmem : z.container ∈ r.map (·.container) := List.mem_map_of_mem hz
          rw [he] at hmem
          exact hy hmem
        rw [hframe r _ hlater]
        simp [step]
      · exact ih _ hr hx
  exact hall r [] hr hx

end PortMapper

/-- What reading back an inspected container from table `t` guarantees. A readable binding whose
host port is no port number fails the reading, naming a readable key and its host port, with the
table unchanged. A reading that succeeds resolves the readable bindings one for one and in order,
each with its host port read and its address, the engine's host standing for `0.0.0.0` or no
address; each port or address variable of a mapping whose container port was resolved then holds
that port's host port or address; and once every mapping with a variable unbound in `t` has its
container port resolved, no mapping needs resolving. -/
structure ReadsBack (m : PortMapper) (d : ContainerDetails) (dockerHost : String) (t : PortTable) :
    Prop where
  unreadable : (∃ e ∈ readablePorts d.portBindings, parseU16? e.2.2.hostPort = none) →
    ∃ key c b, (key, c, b) ∈ readablePorts d.portBindings ∧ parseU16? b.hostPort = none ∧
      (m.resolveFromContainer d dockerHost).run.run t = (.error (.invalidBinding key b.hostPort), t)
  reported : ∀ r t', (m.resolveFromContainer d dockerHost).run.run t = (.ok r, t') →
    List.Forall₂ (Reports dockerHost) r (readablePorts d.portBindings)
  bound : ∀ r t', (m.resolveFromContainer d dockerHost).run.run t = (.ok r, t') →
    ∀ s ∈ m.specs, ∀ x ∈ r, x.container = s.container →
      (∀ name, s.host = .variable name → t'.get? name = some x.hostPort) ∧
      ∀ name, s.hostIpVariable = some name → t'.getHost? name = some x.hostIp
  settled : ∀ r t', (m.resolveFromContainer d dockerHost).run.run t = (.ok r, t') →
    (∀ s ∈ m.specs, s.HasUnbound t → ∃ x ∈ r, x.container = s.container) →
      m.needsResolution t' = false

namespace PortMapper

theorem resolveFromContainer_unreadable (m : PortMapper) (d : ContainerDetails)
    (dockerHost : String) (t : PortTable)
    (hbad : ∃ e ∈ readablePorts d.portBindings, parseU16? e.2.2.hostPort = none) :
    ∃ key c b, (key, c, b) ∈ readablePorts d.portBindings ∧ parseU16? b.hostPort = none ∧
      (m.resolveFromContainer d dockerHost).run.run t = (.error (.invalidBinding key b.hostPort), t) := by
  obtain ⟨e, he, hport⟩ := hbad
  cases hres : resolvedPorts d.portBindings dockerHost with
  | ok r => exact absurd hport (hostPort_reads_of_reports (resolvedPorts_eq_ok hres) e he)
  | error err =>
    obtain ⟨key, c, b, hmem, hport', rfl⟩ := resolvedPorts_eq_error hres
    exact ⟨key, c, b, hmem, hport', resolveFromContainer_run_error t hres⟩

/-- After a successful reading, each port or address variable of a mapping whose container port
was resolved holds that port's host port or address. -/
theorem resolveFromContainer_ok_binds {m : PortMapper} {d : ContainerDetails} {dockerHost : String}
    {t t' : PortTable} {r : List ResolvedPort}
    (hdistinct : ((readablePorts d.portBindings).map (·.2.1)).Nodup)
    (h : (m.resolveFromContainer d dockerHost).run.run t = (.ok r, t')) :
    ∀ s ∈ m.specs, ∀ x ∈ r, x.container = s.container →
      (∀ name, s.host = .variable name → t'.get? name = some x.hostPort) ∧
      ∀ name, s.hostIpVariable = some name → t'.getHost? name = some x.hostIp := by
  obtain ⟨hres, t₁, hresolve, hhosts⟩ := resolveFromContainer_run_ok h
  have hnodup : (r.map (·.container)).Nodup := by
    rw [map_container_of_reports (resolvedPorts_eq_ok hres)]
    exact hdistinct
  -- resolving succeeded, so the table agreed with the assignment
  have hresolves := forM_bindAssigned_resolves (assignment r) m.specs t
  rw [← resolve_eq, hresolve] at hresolves
  have hagree : Consistent m.specs (assignment r) t := hresolves.consistent_of_ok rfl
  intro s hs x hx hc
  constructor
  · intro name hname
    have hp : x.hostPort ∈ requiredPorts m.specs (assignment r) t name := by
      refine List.mem_append_right _ (List.mem_filterMap.mpr ⟨s, hs, ?_⟩)
      rw [if_pos hname, ← hc, lookup_assignment hnodup hx]
    have ht₁ : t₁.get? name = some x.hostPort :=
      ((hresolves.agreed hagree).2 name x.hostPort).mpr hp
    have hgrow := Grows.forM (bindHostFound_grows r) m.specs t₁
    rw [hhosts] at hgrow
    exact hgrow.ports name _ ht₁
  · intro name hname
    have hfind : r.find? (·.container = s.container) = some x := by
      rw [← hc]
      exact find?_container hnodup hx
    exact forM_bindHostFound_binds r m.specs t₁ t' hhosts s hs name x hname hfind

/-- A mapper needs no resolving once every variable of its mappings is bound: those bound before
stay bound, and the others belong to mappings whose container port was resolved. -/
theorem needsResolution_eq_false {m : PortMapper} {t t' : PortTable} {r : List ResolvedPort}
    (hgrow : Extends t t')
    (hbound : ∀ s ∈ m.specs, ∀ x ∈ r, x.container = s.container →
      (∀ name, s.host = .variable name → t'.get? name = some x.hostPort) ∧
      ∀ name, s.hostIpVariable = some name → t'.getHost? name = some x.hostIp)
    (hcover : ∀ s ∈ m.specs, s.HasUnbound t → ∃ x ∈ r, x.container = s.container) :
    m.needsResolution t' = false := by
  have hport : ∀ s ∈ m.specs, ∀ name, s.host = .variable name → t'.get? name ≠ none := by
    intro s hs name hname
    cases hget : t.get? name with
    | some p => simp [hgrow.ports name p hget]
    | none =>
      obtain ⟨x, hx, hc⟩ := hcover s hs (.inl ⟨name, hname, hget⟩)
      simp [(hbound s hs x hx hc).1 name hname]
  have hhost : ∀ s ∈ m.specs, ∀ name, s.hostIpVariable = some name → t'.getHost? name ≠ none := by
    intro s hs name hname
    cases hget : t.getHost? name with
    | some ip => simp [hgrow.hosts name ip hget]
    | none =>
      obtain ⟨x, hx, hc⟩ := hcover s hs (.inr ⟨name, hname, hget⟩)
      simp [(hbound s hs x hx hc).2 name hname]
  unfold needsResolution
  rw [List.any_eq_false]
  intro s hs
  simp only [Bool.or_eq_true, not_or]
  constructor
  · split
    · next name hname => simpa using hport s hs name hname
    · simp
  · split
    · next name hname => simpa using hhost s hs name hname
    · simp

end PortMapper

/-- Reading back an inspected container binds what the engine reported, when the readable keys
name distinct container ports. -/
theorem resolveFromContainer_reads_back (m : PortMapper) (d : ContainerDetails)
    (dockerHost : String) (t : PortTable)
    (hdistinct : ((readablePorts d.portBindings).map (·.2.1)).Nodup) :
    ReadsBack m d dockerHost t where
  unreadable := PortMapper.resolveFromContainer_unreadable m d dockerHost t
  reported := fun _ _ h => PortMapper.resolvedPorts_eq_ok (PortMapper.resolveFromContainer_run_ok h).1
  bound := fun _ _ h => PortMapper.resolveFromContainer_ok_binds hdistinct h
  settled := fun _ t' h hcover => by
    have hgrow := resolveFromContainer_grows m d dockerHost t
    rw [h] at hgrow
    exact PortMapper.needsResolution_eq_false hgrow
      (PortMapper.resolveFromContainer_ok_binds hdistinct h) hcover

/-- The engine reports port 80 published on all addresses at 49900: the reading applies, its
keys naming one container port. -/
theorem resolveFromContainer_reads_back_web_port :
    ((readablePorts (ContainerDetails.portBindings ⟨"abc", "", default, default,
      ⟨"", [("80/tcp", some [⟨"0.0.0.0", "49900"⟩])], []⟩⟩)).map (·.2.1)).Nodup ∧
    ReadsBack ⟨[⟨⟨80, .tcp⟩, .variable "web.port", none, none⟩]⟩
      ⟨"abc", "", default, default, ⟨"", [("80/tcp", some [⟨"0.0.0.0", "49900"⟩])], []⟩⟩
      "docker.local" PortTable.empty :=
  ⟨by decide, resolveFromContainer_reads_back _ _ _ _ (by decide)⟩

end Mooring.Ports
