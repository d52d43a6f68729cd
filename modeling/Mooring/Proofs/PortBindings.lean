import Mooring.Ports.Mapper
namespace Mooring.Ports

open Mooring.Collections Mooring.Engine

namespace PortTable

/-- `t'` keeps every binding of `t`, with its value, and the ports stay in name order. -/
structure Extends (t t' : PortTable) : Prop where
  ports : ∀ name p, t.get? name = some p → t'.get? name = some p
  hosts : ∀ name ip, t.getHost? name = some ip → t'.getHost? name = some ip
  sorted : KeyMap.Sorted t.ports → KeyMap.Sorted t'.ports

theorem Extends.refl (t : PortTable) : Extends t t :=
  ⟨fun _ _ h => h, fun _ _ h => h, id⟩

theorem Extends.trans {t₁ t₂ t₃ : PortTable} (h₁ : Extends t₁ t₂) (h₂ : Extends t₂ t₃) :
    Extends t₁ t₃ :=
  ⟨fun n p h => h₂.ports n p (h₁.ports n p h), fun n ip h => h₂.hosts n ip (h₁.hosts n ip h),
    fun h => h₂.sorted (h₁.sorted h)⟩

/-- The reference `${name}` to a variable. -/
def reference (name : String) : String := "$\x7b" ++ name ++ "\x7d"

/-- The entries of the properties text: the addresses, with the ports written over them. -/
def propertyEntries (t : PortTable) : KeyMap String :=
  t.hosts.insertAll (t.ports.map fun (k, v) => (k, toString v))

/-- What a name shows: its value in references and in the properties text. -/
def Shows (t : PortTable) (name v : String) : Prop :=
  t.substitute (reference name) = v ∧ (propertyEntries t).find? name = some v

theorem substituteChars_nil (t : PortTable) : t.substituteChars [] = [] := by
  rw [substituteChars]

theorem substituteChars_reference (t : PortTable) (name : List Char) (hne : name ≠ [])
    (hname : ∀ c ∈ name, c ≠ '}') :
    t.substituteChars ('$' :: '{' :: (name ++ ['}'])) =
      match t.valueOf? (String.ofList name) with
      | some v => v.toList
      | none => '$' :: '{' :: name ++ ['}'] := by
  have htake : (name ++ ['}']).takeWhile (· ≠ '}') = name := by
    rw [List.takeWhile_append_of_pos (by simpa using hname)]
    simp
  have hdrop : (name ++ ['}']).drop name.length = ['}'] := by simp
  rw [substituteChars]
  split
  · rename_i after h
    rw [htake, hdrop] at h
    obtain rfl := (List.cons.inj h).2
    rw [htake]
    cases t.valueOf? (String.ofList name) <;>
      simp only [hne, substituteChars_nil, List.isEmpty_iff, if_false, List.append_nil]
  · rename_i h
    rw [htake, hdrop] at h
    exact absurd rfl (h [])

theorem substitute_reference (t : PortTable) (name : String) (hne : name ≠ "")
    (hname : '}' ∉ name.toList) :
    t.substitute (reference name) = (t.valueOf? name).getD (reference name) := by
  have hchars : (reference name).toList = '$' :: '{' :: (name.toList ++ ['}']) := by
    simp [reference]
  have hne' : name.toList ≠ [] := by simpa using hne
  have hname' : ∀ c ∈ name.toList, c ≠ '}' := fun c hc h => hname (h ▸ hc)
  rw [substitute, hchars, substituteChars_reference t _ hne' hname', String.ofList_toList]
  cases t.valueOf? name with
  | some v => simp
  | none =>
    show String.ofList ('$' :: '{' :: (name.toList ++ ['}'])) = reference name
    rw [← hchars, String.ofList_toList]

theorem find?_map_toString (ports : KeyMap Nat) (name : String) :
    KeyMap.find? (ports.map fun (k, v) => (k, toString v)) name = (ports.find? name).map toString := by
  induction ports with
  | nil => rfl
  | cons e rest ih =>
    obtain ⟨k, p⟩ := e
    simp only [List.map_cons, KeyMap.find?_cons, ih]
    split <;> rfl

theorem propertyEntries_find? (t : PortTable) (h : KeyMap.Sorted t.ports) (name : String) :
    (propertyEntries t).find? name = t.valueOf? name := by
  have hkeys : ((t.ports.map fun (k, v) => (k, toString v)).map Prod.fst).Nodup := by
    simpa [Function.comp_def] using h.nodup_keys
  rw [propertyEntries, KeyMap.find?_insertAll _ _ hkeys, find?_map_toString, valueOf?, get?,
    getHost?]
  cases t.ports.find? name <;> rfl

theorem shows_of_valueOf? {t : PortTable} {name v : String} (h : KeyMap.Sorted t.ports)
    (hne : name ≠ "") (hname : '}' ∉ name.toList) (hv : t.valueOf? name = some v) :
    Shows t name v :=
  ⟨by rw [substitute_reference t name hne hname, hv]; rfl, by rw [propertyEntries_find? t h, hv]⟩

theorem valueOf?_of_shows {t : PortTable} {name v : String} (h : KeyMap.Sorted t.ports)
    (hv : Shows t name v) : t.valueOf? name = some v := by
  rw [← propertyEntries_find? t h]
  exact hv.2

theorem valueOf?_of_extends {t t' : PortTable} {name v : String} (h : Extends t t')
    (hv : t.valueOf? name = some v) :
    t'.valueOf? name = some v ∨
      (t.get? name = none ∧ ∃ p, t'.get? name = some p ∧ t'.valueOf? name = some (toString p)) := by
  unfold valueOf? at hv ⊢
  cases hp : t.get? name with
  | some p =>
    rw [hp] at hv
    left
    rw [h.ports name p hp]
    exact hv
  | none =>
    rw [hp] at hv
    cases hp' : t'.get? name with
    | some p => exact .inr ⟨rfl, p, rfl, rfl⟩
    | none => exact .inl (h.hosts name v hv)

end PortTable

open PortTable

/-- A step on the table that keeps every binding it finds, whether it succeeds or fails. -/
def Grows {α : Type} (x : TableM α) : Prop := ∀ t, Extends t (x.run.run t).2

theorem run_bind_eq {α β : Type} (x : TableM α) (f : α → TableM β) (t : PortTable) :
    (x >>= f).run.run t = match x.run.run t with
      | (.ok a, t') => (f a).run.run t'
      | (.error e, t') => (.error e, t') := by
  simp only [ExceptT.run_bind, StateT.run_bind]
  rcases x.run.run t with ⟨_ | a, t'⟩ <;> rfl

theorem run_get_bind {β : Type} (f : PortTable → TableM β) (t : PortTable) :
    (get >>= f : TableM β).run.run t = (f t).run.run t := rfl

namespace Grows

theorem pure {α : Type} (a : α) : Grows (Pure.pure a : TableM α) := fun t => Extends.refl t

theorem throw {α : Type} (e : PortSpecError) : Grows (MonadExcept.throw e : TableM α) :=
  fun t => Extends.refl t

theorem get : Grows (MonadState.get : TableM PortTable) := fun t => Extends.refl t

theorem bind {α β : Type} {x : TableM α} {f : α → TableM β} (hx : Grows x)
    (hf : ∀ a, Grows (f a)) : Grows (x >>= f) := by
  intro t
  rw [run_bind_eq]
  have h := hx t
  rcases hxt : x.run.run t with ⟨_ | a, t'⟩
  · rw [hxt] at h
    exact h
  · rw [hxt] at h
    exact h.trans (hf a t')

theorem mapM {α β : Type} {f : α → TableM β} (hf : ∀ a, Grows (f a)) :
    ∀ xs : List α, Grows (xs.mapM f)
  | [] => Grows.pure _
  | x :: xs => by
    rw [List.mapM_cons]
    exact (hf x).bind fun _ => (Grows.mapM hf xs).bind fun _ => Grows.pure _

theorem forIn {α β : Type} {f : α → β → TableM (ForInStep β)} (hf : ∀ a b, Grows (f a b)) :
    ∀ (xs : List α) (init : β), Grows (ForIn.forIn xs init f)
  | [], _ => Grows.pure _
  | x :: xs, init => by
    rw [List.forIn_cons]
    refine (hf x init).bind fun step => ?_
    cases step with
    | done b => exact Grows.pure _
    | yield b => exact Grows.forIn hf xs b

end Grows

theorem bind_run (name : String) (port : Nat) (t : PortTable) :
    (PortTable.bind name port).run.run t =
      match t.get? name with
      | some bound => if bound = port then (.ok (), t) else (.error (.rebind name bound port), t)
      | none => (.ok (), { t with ports := t.ports.insert name port }) := by
  unfold PortTable.bind
  rw [run_get_bind]
  rcases t.get? name with _ | bound
  · rfl
  · dsimp only
    split <;> rfl

theorem bindHost_run (name ip : String) (t : PortTable) :
    (PortTable.bindHost name ip).run.run t =
      match t.getHost? name with
      | some bound => if bound = ip then (.ok (), t) else (.error (.hostRebind name bound ip), t)
      | none => (.ok (), { t with hosts := t.hosts.insert name ip }) := by
  unfold PortTable.bindHost
  rw [run_get_bind]
  rcases t.getHost? name with _ | bound
  · rfl
  · dsimp only
    split <;> rfl

theorem bind_grows (name : String) (port : Nat) : Grows (PortTable.bind name port) := by
  intro t
  rw [bind_run]
  rcases h : t.get? name with _ | bound
  · refine ⟨fun n p hp => ?_, fun n ip hip => hip, fun hs => hs.insert name port⟩
    have hn : n ≠ name := by
      rintro rfl
      simp [h] at hp
    simpa [PortTable.get?, KeyMap.find?_insert, hn] using hp
  · dsimp only
    split <;> exact Extends.refl t

theorem bindHost_grows (name ip : String) : Grows (PortTable.bindHost name ip) := by
  intro t
  rw [bindHost_run]
  rcases h : t.getHost? name with _ | bound
  · refine ⟨fun n p hp => hp, fun n a ha => ?_, id⟩
    have hn : n ≠ name := by
      rintro rfl
      simp [h] at ha
    simpa [PortTable.getHost?, KeyMap.find?_insert, hn] using ha
  · dsimp only
    split <;> exact Extends.refl t

theorem knownHostIp_grows (known : KeyMap String) (name : String) :
    Grows (knownHostIp known name) := by
  unfold knownHostIp
  split
  · exact (bindHost_grows _ _).bind fun _ => Grows.pure _
  · exact Grows.get.bind fun _ => Grows.pure _

theorem parseHostPort_grows (input host : String) (known : KeyMap String) :
    Grows (parseHostPort input host known) := by
  unfold parseHostPort
  dsimp only
  split
  · exact Grows.pure _
  · split
    · split
      · exact Grows.pure _
      · exact Grows.throw _
    · split
      · exact (bind_grows _ _).bind fun _ => Grows.pure _
      · refine Grows.get.bind fun t => ?_
        split
        · exact Grows.pure _
        · exact Grows.pure _

theorem parseSpec_grows (names : String → Option Net.IpAddr) (known : KeyMap String)
    (input : String) : Grows (parseSpec names known input) := by
  unfold parseSpec
  -- Reading a mapping only reads, except through the two variable lookups; every branch of
  -- its matches is a chain of binds over those, `pure` and `throw`.
  repeat' first
    | dsimp only
    | split
    | with_reducible exact Grows.pure _
    | with_reducible exact Grows.throw _
    | with_reducible exact knownHostIp_grows _ _
    | with_reducible exact parseHostPort_grows _ _ _
    | with_reducible refine Grows.bind ?_ fun _ => ?_

theorem parse_grows (names : String → Option Net.IpAddr) (specs : List String)
    (known : KeyMap String) : Grows (PortMapper.parse names specs known) :=
  (Grows.mapM (parseSpec_grows names known) specs).bind fun _ => Grows.pure _

theorem resolve_grows (m : PortMapper) (assigned : List (ContainerPort × Nat)) :
    Grows (m.resolve assigned) := by
  unfold PortMapper.resolve
  refine (Grows.forIn (fun s _ => ?_) _ _).bind fun _ => Grows.pure _
  repeat' first
    | dsimp only
    | split
    | with_reducible exact Grows.pure _
    | with_reducible exact bind_grows _ _
    | with_reducible refine Grows.bind ?_ fun _ => ?_

theorem resolveFromContainer_grows (m : PortMapper) (details : ContainerDetails)
    (dockerHost : String) : Grows (m.resolveFromContainer details dockerHost) := by
  unfold PortMapper.resolveFromContainer
  refine Grows.bind ?_ fun resolved => (resolve_grows m _).bind fun _ =>
    (Grows.forIn (fun s _ => ?_) _ _).bind fun _ => Grows.pure _
  · unfold PortMapper.resolveFromContainer.liftExcept
    split
    · exact Grows.pure _
    · exact Grows.throw _
  · repeat' first
      | dsimp only
      | split
      | with_reducible exact Grows.pure _
      | with_reducible exact bindHost_grows _ _
      | with_reducible refine Grows.bind ?_ fun _ => ?_

/-- An operation on the table of a run, by any of the mappers that share it. -/
inductive TableOp where
  | bind (name : String) (port : Nat)
  | bindHost (name ip : String)
  | parse (names : String → Option Net.IpAddr) (specs : List String) (known : KeyMap String)
  | resolve (mapper : PortMapper) (assigned : List (ContainerPort × Nat))
  | resolveFromContainer (mapper : PortMapper) (details : ContainerDetails) (dockerHost : String)

namespace TableOp

/-- The operation as a step on the table, its answer dropped. -/
def step : TableOp → TableM Unit
  | .bind name port => PortTable.bind name port
  | .bindHost name ip => PortTable.bindHost name ip
  | .parse names specs known => do let _ ← PortMapper.parse names specs known
  | .resolve mapper assigned => mapper.resolve assigned
  | .resolveFromContainer mapper details dockerHost => do
    let _ ← mapper.resolveFromContainer details dockerHost

theorem step_grows : ∀ op : TableOp, Grows op.step
  | .bind name port => bind_grows name port
  | .bindHost name ip => bindHost_grows name ip
  | .parse names specs known => (parse_grows names specs known).bind fun _ => Grows.pure _
  | .resolve mapper assigned => resolve_grows mapper assigned
  | .resolveFromContainer mapper details dockerHost =>
    (resolveFromContainer_grows mapper details dockerHost).bind fun _ => Grows.pure _

end TableOp

/-- The table after a run of operations, each applied whether or not the one before failed. -/
def runOps (ops : List TableOp) (t : PortTable) : PortTable :=
  ops.foldl (fun t op => (op.step.run.run t).2) t

@[simp] theorem runOps_nil (t : PortTable) : runOps [] t = t := rfl

@[simp] theorem runOps_cons (op : TableOp) (ops : List TableOp) (t : PortTable) :
    runOps (op :: ops) t = runOps ops (op.step.run.run t).2 := rfl

theorem runOps_extends (ops : List TableOp) (t : PortTable) : Extends t (runOps ops t) := by
  induction ops generalizing t with
  | nil => exact Extends.refl t
  | cons op ops ih => exact (op.step_grows t).trans (ih _)

/-- What a name reads keeps from one point of a run to a later one: its port and its address
stay, and the value it shows stays, or else it had only an address and now shows its port. -/
structure KeepsObserved (t t' : PortTable) (name : String) : Prop where
  port : ∀ p, t.get? name = some p → t'.get? name = some p
  host : ∀ ip, t.getHost? name = some ip → t'.getHost? name = some ip
  shown : ∀ v, Shows t name v →
    Shows t' name v ∨ (t.get? name = none ∧ ∃ p, t'.get? name = some p ∧ Shows t' name (toString p))

/-- Along every run from a new table, a name's port and address never change once bound, and
the value its references and the properties text show changes at most once: from an address
to a port bound later under the same name. -/
theorem run_keeps_observed_values (before after : List TableOp) (name : String)
    (hne : name ≠ "") (hname : '}' ∉ name.toList) :
    KeepsObserved (runOps before PortTable.empty) (runOps after (runOps before PortTable.empty))
      name := by
  have hext := runOps_extends after (runOps before PortTable.empty)
  have hsorted : KeyMap.Sorted (runOps before PortTable.empty).ports :=
    (runOps_extends before PortTable.empty).sorted List.Pairwise.nil
  have hsorted' := hext.sorted hsorted
  refine ⟨hext.ports name, hext.hosts name, fun v hv => ?_⟩
  rcases valueOf?_of_extends hext (valueOf?_of_shows hsorted hv) with hv' | ⟨hnone, p, hp, hv'⟩
  · exact .inl (shows_of_valueOf? hsorted' hne hname hv')
  · exact .inr ⟨hnone, p, hp, shows_of_valueOf? hsorted' hne hname hv'⟩

theorem run_keeps_observed_values_of_shadowed_address :
    ("db" ≠ "" ∧ '}' ∉ "db".toList) ∧
      KeepsObserved (runOps [.bindHost "db" "10.0.0.5"] PortTable.empty)
        (runOps [.bind "db" 80] (runOps [.bindHost "db" "10.0.0.5"] PortTable.empty)) "db" :=
  ⟨⟨by decide, by decide⟩, run_keeps_observed_values _ _ "db" (by decide) (by decide)⟩

/-- A name bound to an address and then to a port shows the address, and then the port: the
port binding succeeds, as the address lives in the other map. -/
theorem port_binding_shadows_address :
    Shows (runOps [.bindHost "db" "10.0.0.5"] PortTable.empty) "db" "10.0.0.5" ∧
      (PortTable.bind "db" 80).run.run (runOps [.bindHost "db" "10.0.0.5"] PortTable.empty) =
        (.ok (), runOps [.bindHost "db" "10.0.0.5", .bind "db" 80] PortTable.empty) ∧
      Shows (runOps [.bindHost "db" "10.0.0.5", .bind "db" 80] PortTable.empty) "db" "80" := by
  have hsorted : ∀ ops, KeyMap.Sorted (runOps ops PortTable.empty).ports := fun ops =>
    (runOps_extends ops PortTable.empty).sorted List.Pairwise.nil
  refine ⟨shows_of_valueOf? (hsorted _) (by decide) (by decide) (by rfl), by rfl,
    shows_of_valueOf? (hsorted _) (by decide) (by decide) (by rfl)⟩

end Mooring.Ports
