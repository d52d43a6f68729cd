import Mooring.Proofs.NumberText
import Mooring.Proofs.PortBindings
import Mooring.Proofs.TextPieces
namespace Mooring.Ports

open Mooring.Text Mooring.Net Mooring.Collections

/-- The host part of a mapping as written. -/
def HostBinding.text : HostBinding → String
  | .fixed port => toString port
  | .unassigned => ""
  | .variable name => name

/-- The bind part of a mapping as written, with its colon: an address, or `+` and a host address
variable. -/
def bindText : Option IpAddr → Option String → String
  | some ip, _ => ip.toText ++ ":"
  | none, some name => "+" ++ name ++ ":"
  | none, none => ""

/-- A mapping as written, `[bind:]host:port/proto`. -/
def PortSpec.text (p : PortSpec) : String :=
  bindText p.bindInterface p.hostIpVariable ++ p.host.text ++ ":" ++ p.container.toText

/-- A variable name that reads back from a written mapping: not empty, without `:` or a line
break, with no blank at either end, not all digits, and not itself a reference `${…}`. -/
structure PlainName (name : String) : Prop where
  ne_nil : name.toList ≠ []
  no_colon : ':' ∉ name.toList
  no_newline : '\n' ∉ name.toList
  head_not_blank : ∀ c ∈ name.toList.head?, isBlank c = false
  last_not_blank : ∀ c ∈ name.toList.getLast?, isBlank c = false
  not_digits : name.toList.all Char.isDigit = false
  not_reference : ∀ inner, name.toList ≠ '$' :: '{' :: (inner ++ ['}'])

/-- A variable that neither the given values nor the table bind. -/
structure Unbound (known : KeyMap String) (t : PortTable) (name : String) : Prop where
  not_known : known.find? name = none
  no_port : t.get? name = none
  no_host : t.getHost? name = none

/-- The host parts that read back: a port, nothing, or a plain unbound variable. -/
inductive WritableHost (known : KeyMap String) (t : PortTable) : HostBinding → Prop where
  | fixed {port : Nat} (h : port < 2 ^ 16) : WritableHost known t (.fixed port)
  | unassigned : WritableHost known t .unassigned
  | named {name : String} (h : PlainName name) (hu : Unbound known t name) :
    WritableHost known t (.variable name)

/-- The bind parts that read back: none, an IPv4 address, or a plain unbound variable. -/
inductive WritableBind (known : KeyMap String) (t : PortTable) : Option IpAddr → Option String → Prop where
  | none : WritableBind known t none none
  | address (a : Ipv4Addr) : WritableBind known t (some (.v4 a)) none
  | named {name : String} (h : PlainName name) (hu : Unbound known t name) :
    WritableBind known t none (some name)

/-- The mappings whose written form reads back. -/
structure Writable (known : KeyMap String) (t : PortTable) (p : PortSpec) : Prop where
  port_lt : p.container.port < 2 ^ 16
  host : WritableHost known t p.host
  bind : WritableBind known t p.bindInterface p.hostIpVariable

theorem trim_eq_self_of_ends {s : String} (hh : ∀ c ∈ s.toList.head?, isBlank c = false)
    (hl : ∀ c ∈ s.toList.getLast?, isBlank c = false) : trim s = s := by
  have hlead : s.toList.dropWhile isBlank = s.toList := by
    cases hs : s.toList with
    | nil => rfl
    | cons c cs => simp [hh c (by simp [hs])]
  have htrail : s.toList.reverse.dropWhile isBlank = s.toList.reverse := by
    cases hs : s.toList.reverse with
    | nil => rfl
    | cons c cs =>
      have hc : c ∈ s.toList.getLast? := by
        rw [← List.head?_reverse, hs]
        rfl
      simp [hl c hc]
  simp [trim, dropLeading, dropTrailing, hlead, htrail]

theorem isBlank_of_isDigit {c : Char} (hd : c.isDigit = true) : isBlank c = false := by
  simp only [Char.isDigit, Bool.and_eq_true, decide_eq_true_eq] at hd
  have h1 : 48 ≤ c.toNat := hd.1
  have h2 : c.toNat ≤ 57 := hd.2
  simp only [isBlank, Bool.or_eq_false_iff, Bool.and_eq_false_iff, decide_eq_false_iff_not,
    beq_eq_false_iff_ne]
  omega

theorem trim_digits (n : Nat) : trim (toString n) = toString n :=
  trim_eq_self fun _ hc => isBlank_of_isDigit (isDigit_of_mem_digits ((toList_toString n) ▸ hc))

theorem isEmpty_eq_false {s : String} (h : s.toList ≠ []) : s.isEmpty = false :=
  Bool.eq_false_iff.mpr fun he => h (String.toList_eq_nil_iff.mpr (String.isEmpty_iff.mp he))

section Parts

variable {known : KeyMap String} {t : PortTable}

theorem run_bind_of_eq_ok {α β : Type} {x : TableM α} {f : α → TableM β} {t t' : PortTable} {a : α}
    (hx : x.run.run t = (.ok a, t')) : (x >>= f).run.run t = (f a).run.run t' := by
  rw [run_bind_eq, hx]

theorem PlainName.hostPortVariableName_eq {name : String} (h : PlainName name) :
    hostPortVariableName name = name := by
  unfold hostPortVariableName
  split
  · rename_i rest hrest
    split
    · rename_i inner hinner
      have hrest' : rest = inner.reverse ++ ['}'] := by
        rw [← List.reverse_reverse rest, hinner]
        simp
      exact absurd (hrest ▸ hrest' ▸ rfl) (h.not_reference inner.reverse)
    · rfl
  · rfl

theorem PlainName.trim_eq {name : String} (h : PlainName name) : trim name = name :=
  trim_eq_self_of_ends h.head_not_blank h.last_not_blank

theorem WritableHost.chars {h : HostBinding} (hh : WritableHost known t h) :
    ':' ∉ h.text.toList ∧ '\n' ∉ h.text.toList := by
  cases hh with
  | fixed => exact ⟨not_mem_digits rfl, not_mem_digits rfl⟩
  | unassigned => simp [HostBinding.text]
  | named hname => exact ⟨hname.no_colon, hname.no_newline⟩

/-- A host part that reads back is read as itself, with the table left as it was. -/
theorem WritableHost.parse {h : HostBinding} (hh : WritableHost known t h) (input : String) :
    (parseHostPort input (trim h.text) known).run.run t = (.ok h, t) := by
  cases hh with
  | @fixed port hport =>
    have hdigits : (toString port).toList.all Char.isDigit = true :=
      List.all_eq_true.mpr fun c hc => isDigit_of_mem_digits ((toList_toString port) ▸ hc)
    have hne : (toString port).isEmpty = false :=
      isEmpty_eq_false (by rw [toList_toString]; exact Nat.toDigits_ne_nil)
    show (parseHostPort input (trim (toString port)) known).run.run t = _
    rw [trim_digits]
    unfold parseHostPort
    simp only [hne, hdigits, parseU16?_toString hport, Bool.false_eq_true, ↓reduceIte]
    rfl
  | unassigned =>
    rfl
  | @named name hname hu =>
    have hne : name.isEmpty = false := isEmpty_eq_false hname.ne_nil
    show (parseHostPort input (trim name) known).run.run t = _
    rw [hname.trim_eq]
    unfold parseHostPort
    simp only [hne, hname.not_digits, hname.hostPortVariableName_eq, hu.not_known, Option.bind_none,
      Bool.false_eq_true, ↓reduceIte]
    rw [run_get_bind]
    simp only [hu.no_port]
    rfl

theorem Unbound.knownHostIp {name : String} (hu : Unbound known t name) :
    (knownHostIp known name).run.run t = (.ok none, t) := by
  simp only [Ports.knownHostIp, hu.not_known, Option.bind_none]
  rw [run_get_bind]
  simp only [hu.no_host, Option.bind_none]
  rfl

theorem PlainName.hostIpVariableName_eq {name : String} (h : PlainName name) :
    hostIpVariableName ("+" ++ name) = some name := by
  obtain ⟨c, cs, hcs⟩ := List.exists_cons_of_ne_nil h.ne_nil
  have hplus : ("+" ++ name).toList = '+' :: c :: cs := by
    rw [String.toList_append, hcs]
    rfl
  unfold hostIpVariableName
  rw [hplus]
  simp only [Option.some.injEq]
  rw [← hcs, String.ofList_toList]

theorem hostIpVariableName_toText (a : Ipv4Addr) : hostIpVariableName (IpAddr.v4 a).toText = none := by
  obtain ⟨-, c, cs, hcs, hc⟩ := toText_chars a
  have hplus : c ≠ '+' := by rintro rfl; cases hc
  have hdollar : c ≠ '$' := by rintro rfl; cases hc
  unfold hostIpVariableName
  simp only [IpAddr.toText, hcs]
  split <;> simp_all

end Parts

theorem splitProtocol_append {m : List Char} (hm : '\n' ∉ m) (proto : Protocol) :
    splitProtocol (m ++ '/' :: proto.toText.toList) = some (m, proto) := by
  cases proto <;> simp [splitProtocol, Protocol.toText] <;> exact hm

theorem text_toList (p : PortSpec) :
    p.text.toList = (bindText p.bindInterface p.hostIpVariable ++ p.host.text ++ ":" ++
      toString p.container.port).toList ++ '/' :: p.container.protocol.toText.toList := by
  simp [PortSpec.text, ContainerPort.toText]

theorem splitProtocol_text (p : PortSpec) (hb : '\n' ∉ (bindText p.bindInterface p.hostIpVariable).toList)
    (hh : '\n' ∉ p.host.text.toList) :
    splitProtocol p.text.toList = some ((bindText p.bindInterface p.hostIpVariable).toList ++
      p.host.text.toList ++ ':' :: Nat.toDigits 10 p.container.port, p.container.protocol) := by
  have hport : '\n' ∉ Nat.toDigits 10 p.container.port := toList_toString _ ▸ not_mem_digits rfl
  have hm : '\n' ∉ (bindText p.bindInterface p.hostIpVariable).toList ++ p.host.text.toList ++
      ':' :: Nat.toDigits 10 p.container.port := by
    simp [hb, hh, hport]
  rw [text_toList, ← splitProtocol_append hm]
  simp

/-- The container port as written: digits, which hold neither separator nor a line break and read
back as the port. -/
theorem portDigits {port : Nat} (hport : port < 2 ^ 16) :
    ':' ∉ Nat.toDigits 10 port ∧ '\n' ∉ Nat.toDigits 10 port ∧
      parseU16? (trim (String.ofList (Nat.toDigits 10 port))) = some port := by
  refine ⟨toList_toString port ▸ not_mem_digits rfl, toList_toString port ▸ not_mem_digits rfl, ?_⟩
  rw [← toList_toString, String.ofList_toList, trim_digits, parseU16?_toString hport]

section Read

variable {names : String → Option IpAddr} {known : KeyMap String} {t : PortTable}

theorem parseSpec_text {p : PortSpec} (hp : Writable known t p) :
    (parseSpec names known p.text).run.run t = (.ok p, t) := by
  obtain ⟨⟨port, proto⟩, h, bi, hv⟩ := p
  obtain ⟨hport, hh, hb⟩ := hp
  dsimp only at hport hh hb
  obtain ⟨hcolon, hnl⟩ := hh.chars
  obtain ⟨hport_colon, -, hcontainer⟩ := portDigits hport
  have hhost := hh.parse (PortSpec.text ⟨⟨port, proto⟩, h, bi, hv⟩)
  rw [← String.ofList_toList (s := h.text)] at hhost
  cases hb with
  | none =>
    have hsplit : splitProtocol (PortSpec.text ⟨⟨port, proto⟩, h, none, none⟩).toList =
        some (h.text.toList ++ ':' :: Nat.toDigits 10 port, proto) := by
      simpa [bindText] using splitProtocol_text ⟨⟨port, proto⟩, h, none, none⟩ (by simp [bindText]) hnl
    have hpieces : splitOnChar ':' (h.text.toList ++ ':' :: Nat.toDigits 10 port) =
        [h.text.toList, Nat.toDigits 10 port] := by
      rw [splitOnChar_append_cons _ hcolon, splitOnChar_of_not_mem hport_colon]
    simp only [parseSpec, hsplit, hpieces, hcontainer, pure_bind, Option.map_none]
    rw [run_bind_of_eq_ok hhost]
    rfl
  | address a =>
    obtain ⟨hchars, -⟩ := toText_chars a
    -- the address is digits and dots, which hold neither separator nor a blank
    have hip_colon : ':' ∉ (IpAddr.v4 a).toText.toList := fun hc => by
      rcases hchars _ hc with hd | hd <;> cases hd
    have hip_nl : '\n' ∉ (IpAddr.v4 a).toText.toList := fun hc => by
      rcases hchars _ hc with hd | hd <;> cases hd
    have htrim : trim (String.ofList (IpAddr.v4 a).toText.toList) = (IpAddr.v4 a).toText := by
      rw [String.ofList_toList]
      refine trim_eq_self fun c hc => ?_
      rcases hchars c hc with hd | rfl
      · exact isBlank_of_isDigit hd
      · rfl
    have hsplit : splitProtocol (PortSpec.text ⟨⟨port, proto⟩, h, some (.v4 a), none⟩).toList =
        some ((IpAddr.v4 a).toText.toList ++ ':' :: (h.text.toList ++ ':' :: Nat.toDigits 10 port),
          proto) := by
      simpa [bindText] using
        splitProtocol_text ⟨⟨port, proto⟩, h, some (.v4 a), none⟩ (by simp [bindText, hip_nl]) hnl
    have hpieces : splitOnChar ':' ((IpAddr.v4 a).toText.toList ++ ':' ::
        (h.text.toList ++ ':' :: Nat.toDigits 10 port)) =
        [(IpAddr.v4 a).toText.toList, h.text.toList, Nat.toDigits 10 port] := by
      rw [splitOnChar_append_cons _ hip_colon, splitOnChar_append_cons _ hcolon,
        splitOnChar_of_not_mem hport_colon]
    have hjoin : joinWith [':'] [Nat.toDigits 10 port] = Nat.toDigits 10 port := rfl
    simp only [parseSpec, hsplit, hpieces, hjoin, hcontainer, pure_bind, Option.map_some, htrim,
      hostIpVariableName_toText, IpAddr.resolve_of_numeric (IpAddr.ofNumericHost?_toText_v4 a)]
    rw [run_bind_of_eq_ok hhost]
    rfl
  | @named name hname hu =>
    have hvar_colon : ':' ∉ '+' :: name.toList := by simp [hname.no_colon]
    have htrim : trim (String.ofList ('+' :: name.toList)) = "+" ++ name := by
      have hplus : String.ofList ('+' :: name.toList) = "+" ++ name := by
        rw [← String.toList_inj, String.toList_ofList, String.toList_append]
        rfl
      obtain ⟨c, cs, hcs⟩ := List.exists_cons_of_ne_nil hname.ne_nil
      rw [hplus]
      refine trim_eq_self_of_ends (by simp; rfl) fun d hd => hname.last_not_blank d ?_
      -- the last character of `+name` is the last of the name
      simpa [hcs] using hd
    have hsplit : splitProtocol (PortSpec.text ⟨⟨port, proto⟩, h, none, some name⟩).toList =
        some ('+' :: name.toList ++ ':' :: (h.text.toList ++ ':' :: Nat.toDigits 10 port), proto) := by
      simpa [bindText] using splitProtocol_text ⟨⟨port, proto⟩, h, none, some name⟩
        (by simp [bindText, hname.no_newline]) hnl
    have hpieces : splitOnChar ':' ('+' :: name.toList ++ ':' ::
        (h.text.toList ++ ':' :: Nat.toDigits 10 port)) =
        ['+' :: name.toList, h.text.toList, Nat.toDigits 10 port] := by
      rw [splitOnChar_append_cons _ hvar_colon, splitOnChar_append_cons _ hcolon,
        splitOnChar_of_not_mem hport_colon]
    have hjoin : joinWith [':'] [Nat.toDigits 10 port] = Nat.toDigits 10 port := rfl
    simp only [parseSpec, hsplit, hpieces, hjoin, hcontainer, pure_bind, Option.map_some, htrim,
      hname.hostIpVariableName_eq]
    rw [run_bind_of_eq_ok hu.knownHostIp, run_bind_of_eq_ok hhost]
    rfl

/-- A bind host that the system resolver looks up by name: no address written by number, no
variable, and no separator, line break, NUL character or blank at either end. -/
structure HostName (b : String) : Prop where
  not_numeric : IpAddr.ofNumericHost? b = none
  not_variable : hostIpVariableName b = none
  no_colon : ':' ∉ b.toList
  no_newline : '\n' ∉ b.toList
  no_nul : Char.ofNat 0 ∉ b.toList
  trimmed : trim b = b

/-- A mapping bound to a host name binds to the address the resolver's name service gives for the
name, and is refused as unresolvable when the service gives none. -/
theorem parseSpec_bind_by_name {p : PortSpec} (hp : Writable known t p)
    (hbare : p.bindInterface = none ∧ p.hostIpVariable = none) {b : String} (hb : HostName b) :
    (parseSpec names known (b ++ ":" ++ p.text)).run.run t =
      match names b with
      | some ip => (.ok { p with bindInterface := some ip }, t)
      | none => (.error (.unresolvableHost (b ++ ":" ++ p.text) b), t) := by
  obtain ⟨⟨port, proto⟩, h, bi, hv⟩ := p
  obtain ⟨hport, hh, -⟩ := hp
  obtain ⟨rfl, rfl⟩ := hbare
  dsimp only at hport hh
  obtain ⟨hcolon, hnl⟩ := hh.chars
  obtain ⟨hport_colon, hport_nl, hcontainer⟩ := portDigits hport
  have hhost := hh.parse (b ++ ":" ++ PortSpec.text ⟨⟨port, proto⟩, h, none, none⟩)
  rw [← String.ofList_toList (s := h.text)] at hhost
  -- the written form is the name, the host part and the port, then the protocol after a `/`
  have htext : (b ++ ":" ++ PortSpec.text ⟨⟨port, proto⟩, h, none, none⟩).toList =
      (b.toList ++ ':' :: (h.text.toList ++ ':' :: Nat.toDigits 10 port)) ++
        '/' :: proto.toText.toList := by
    rw [String.toList_append, String.toList_append, text_toList]
    simp [bindText]
  have hsplit : splitProtocol (b ++ ":" ++ PortSpec.text ⟨⟨port, proto⟩, h, none, none⟩).toList =
      some (b.toList ++ ':' :: (h.text.toList ++ ':' :: Nat.toDigits 10 port), proto) := by
    rw [htext]
    exact splitProtocol_append (by simp [hb.no_newline, hnl, hport_nl]) proto
  have hpieces : splitOnChar ':' (b.toList ++ ':' :: (h.text.toList ++ ':' :: Nat.toDigits 10 port)) =
      [b.toList, h.text.toList, Nat.toDigits 10 port] := by
    rw [splitOnChar_append_cons _ hb.no_colon, splitOnChar_append_cons _ hcolon,
      splitOnChar_of_not_mem hport_colon]
  have hjoin : joinWith [':'] [Nat.toDigits 10 port] = Nat.toDigits 10 port := rfl
  have htrim : trim (String.ofList b.toList) = b := by
    rw [String.ofList_toList, hb.trimmed]
  simp only [parseSpec, hsplit, hpieces, hjoin, hcontainer, pure_bind, Option.map_some, htrim,
    hb.not_variable, IpAddr.resolve_of_name hb.not_numeric hb.no_nul]
  cases names b with
  | some ip =>
    rw [run_bind_of_eq_ok hhost]
    rfl
  | none => rfl

example : (parseSpec (fun host => if host = "db.local" then some (.v4 ⟨#v[10, 0, 0, 5]⟩) else none) []
    "db.local:5432:5432/tcp").run.run PortTable.empty =
      (.ok ⟨⟨5432, .tcp⟩, .fixed 5432, some (.v4 ⟨#v[10, 0, 0, 5]⟩), none⟩, PortTable.empty) := by
  rfl

end Read

/-- Reading the written form of a mapping gives back exactly that mapping and leaves the table as
it was, whatever the system resolver's name service holds. -/
theorem parse_mapping_text (names : String → Option IpAddr) (known : KeyMap String) (t : PortTable)
    (p : PortSpec) (hp : Writable known t p) :
    (PortMapper.parse names [p.text] known).run.run t = (.ok ⟨[p]⟩, t) := by
  unfold PortMapper.parse
  simp only [List.mapM_cons, List.mapM_nil, bind_assoc, pure_bind]
  rw [run_bind_of_eq_ok (parseSpec_text hp)]
  rfl

theorem parse_mapping_text_db :
    PortSpec.text ⟨⟨5432, .tcp⟩, .variable "db.port", none, some "db.host"⟩ =
        "+db.host:db.port:5432/tcp" ∧
      (PortMapper.parse (fun _ => none)
        [PortSpec.text ⟨⟨5432, .tcp⟩, .variable "db.port", none, some "db.host"⟩] []).run.run
          PortTable.empty =
        (.ok ⟨[⟨⟨5432, .tcp⟩, .variable "db.port", none, some "db.host"⟩]⟩, PortTable.empty) := by
  have hplain : ∀ name : String, name = "db.port" ∨ name = "db.host" → PlainName name := by
    rintro name (rfl | rfl) <;>
      exact ⟨by decide, by decide, by decide, fun c hc => by cases hc; rfl,
        fun c hc => by cases hc; rfl, by decide, fun inner h => by simp at h⟩
  refine ⟨by decide, parse_mapping_text (fun _ => none) [] PortTable.empty _ ⟨by decide, ?_, ?_⟩⟩
  · exact .named (hplain _ (.inl rfl)) ⟨rfl, rfl, rfl⟩
  · exact .named (hplain _ (.inr rfl)) ⟨rfl, rfl, rfl⟩

end Mooring.Ports
