import Mooring.Ports.Mapper
import Mooring.Proofs.NumberText
import Mooring.Proofs.TextPieces
namespace Mooring.Collections.KeyMap

variable {β : Type}

theorem find?_insertAll_last (m : KeyMap β) (es : List (String × β)) (k : String) :
    (insertAll m es).find? k = (((es.filter (·.1 = k)).getLast?).map (·.2)).or (m.find? k) := by
  induction es generalizing m with
  | nil => rfl
  | cons e es ih =>
    obtain ⟨k', w⟩ := e
    rw [insertAll, List.foldl_cons, ← insertAll, ih, find?_insert]
    by_cases h : k' = k
    · subst h
      -- the entry is the last one of its key unless a later one follows
      rw [List.filter_cons_of_pos (by simp)]
      cases hl : (es.filter (·.1 = k')).getLast? <;> simp [hl, List.getLast?_cons]
    · simp [h, Ne.symm h]

theorem find?_ofList (es : List (String × β)) (k : String) :
    (ofList es).find? k = ((es.filter (·.1 = k)).getLast?).map (·.2) := by
  rw [show ofList es = insertAll [] es from rfl, find?_insertAll_last]
  simp

theorem find?_isSome_iff {m : KeyMap β} {k : String} : (m.find? k).isSome ↔ k ∈ m.map Prod.fst := by
  induction m with
  | nil => simp
  | cons e m ih =>
    obtain ⟨k', w⟩ := e
    by_cases h : k = k' <;> simp [h, ih]

theorem Sorted.insertAll {m : KeyMap β} (hm : Sorted m) : ∀ es, Sorted (insertAll m es)
  | [] => hm
  | e :: es => by
    rw [KeyMap.insertAll, List.foldl_cons, ← KeyMap.insertAll]
    exact (hm.insert _ _).insertAll es

theorem sorted_ofList (es : List (String × β)) : Sorted (ofList es) :=
  Sorted.insertAll List.Pairwise.nil es

theorem mem_keys_ofList {es : List (String × β)} {k : String} :
    k ∈ (ofList es).map Prod.fst ↔ k ∈ es.map Prod.fst := by
  rw [← find?_isSome_iff, find?_ofList, Option.isSome_map, List.getLast?_isSome]
  simp [List.filter_eq_nil_iff]

end Mooring.Collections.KeyMap

namespace Mooring.Ports

open Mooring.Text Mooring.Net Mooring.Collections Mooring.Engine

theorem ContainerPort.toText_injective : Function.Injective ContainerPort.toText := by
  intro c c' h
  have hl := congrArg String.toList h
  simp only [ContainerPort.toText, String.toList_append] at hl
  have hsplit := congrArg (splitOnceChar '/') hl
  rw [show "/".toList = ['/'] from rfl, List.append_assoc, List.append_assoc, List.singleton_append,
    List.singleton_append, splitOnceChar_append_cons _ (not_mem_digits rfl),
    splitOnceChar_append_cons _ (not_mem_digits rfl)] at hsplit
  obtain ⟨hport, hproto⟩ := Prod.mk.inj (Option.some.inj hsplit)
  have hport' : c.port = c'.port :=
    Nat.repr_injective (String.toList_inj.mp (by simpa [Nat.toString_eq_repr] using hport))
  have hproto' : c.protocol = c'.protocol := by
    cases hc : c.protocol <;> cases hc' : c'.protocol <;> simp_all [Protocol.toText]
  cases c
  cases c'
  simp_all

/-- The host port a mapping asks the engine for: its fixed port, or empty for the engine to
choose one. -/
def HostBinding.requestedPort : HostBinding → String
  | .fixed port => toString port
  | _ => ""

/-- The binding a mapping asks for: its bind address or empty, and its requested host port. -/
def PortSpec.requestedBinding (s : PortSpec) : PortBinding :=
  ⟨(s.bindInterface.map IpAddr.toText).getD "", s.host.requestedPort⟩

namespace PortMapper

theorem portBindings_eq (m : PortMapper) :
    m.portBindings = KeyMap.ofList (m.specs.map fun s => (s.container.toText, [s.requestedBinding])) := by
  unfold portBindings PortSpec.requestedBinding
  congr 2

theorem filter_entries (m : PortMapper) (c : ContainerPort) :
    (m.specs.map fun s => (s.container.toText, [s.requestedBinding])).filter (·.1 = c.toText) =
      (m.specs.filter (·.container = c)).map fun s => (s.container.toText, [s.requestedBinding]) := by
  rw [List.filter_map]
  congr 1
  apply List.filter_congr
  intro s _
  simp [ContainerPort.toText_injective.eq_iff]

theorem keys_portBindings (m : PortMapper) :
    (m.portBindings.map Prod.fst).Perm ((m.specs.map (·.container)).dedup.map ContainerPort.toText) := by
  have hnodup : (m.portBindings.map Prod.fst).Nodup := by
    rw [portBindings_eq]
    exact (KeyMap.sorted_ofList _).nodup_keys
  refine (List.perm_ext_iff_of_nodup hnodup
    ((List.nodup_dedup _).map ContainerPort.toText_injective)).mpr fun key => ?_
  rw [portBindings_eq, KeyMap.mem_keys_ofList]
  simp

end PortMapper

/-- The create request asks for one key per distinct container port of the mappings, exposes
exactly those ports, and under each key stands the one binding of the last mapping of that
port. -/
theorem portBindings_keeps_last_mapping (m : PortMapper) :
    (m.portBindings.map Prod.fst).Perm ((m.specs.map (·.container)).dedup.map ContainerPort.toText) ∧
    (∀ key, key ∈ m.exposedPorts ↔ key ∈ m.portBindings.map Prod.fst) ∧
    ∀ c, m.portBindings.find? c.toText =
      ((m.specs.filter (·.container = c)).getLast?).map fun s => [s.requestedBinding] := by
  refine ⟨m.keys_portBindings, fun key => ?_, fun c => ?_⟩
  · rw [PortMapper.portBindings_eq, KeyMap.mem_keys_ofList]
    simp [PortMapper.exposedPorts]
  · rw [PortMapper.portBindings_eq, KeyMap.find?_ofList, m.filter_entries, List.getLast?_map,
      Option.map_map]
    rfl

/-- Two mappings of container port 80: the request keeps the binding of the later one only. -/
theorem portBindings_drops_earlier_mapping :
    ((PortMapper.parse (fun _ => none) ["8080:80", "8081:80"] []).run.run PortTable.empty).1.map
        (fun m => (m.specs.map (·.container), m.portBindings)) =
      .ok ([⟨80, .tcp⟩, ⟨80, .tcp⟩], [("80/tcp", [⟨"", "8081"⟩])]) := by
  decide +kernel

end Mooring.Ports
