import Mooring.Proofs.StreamAccounting
namespace Mooring.Engine.StreamDecoder

open Mooring.Json

/-- The decoder with `n` more warnings. -/
def addWarnings (d : StreamDecoder) (n : Nat) : StreamDecoder :=
  { d with warnings := d.warnings + n }

@[simp] theorem addWarnings_buffer (d : StreamDecoder) (n : Nat) :
    (d.addWarnings n).buffer = d.buffer := rfl

@[simp] theorem addWarnings_warnings (d : StreamDecoder) (n : Nat) :
    (d.addWarnings n).warnings = d.warnings + n := rfl

theorem addWarnings_unwarned (d : StreamDecoder) :
    { d with warnings := 0 }.addWarnings d.warnings = d := by
  simp [addWarnings]

theorem eq_unwarned_of_addWarnings {x y : StreamDecoder} {n : Nat} (h : x.addWarnings n = y)
    (hn : y.warnings = n) : x = { y with warnings := 0 } := by
  subst h
  have hx : x.warnings = 0 := by simp at hn; omega
  cases x
  simp only [addWarnings] at hx ⊢
  rw [hx]

theorem skip_addWarnings (d : StreamDecoder) (n : Nat) :
    (d.addWarnings n).skip = d.skip.addWarnings n := by
  simp only [skip, addWarnings]
  congr 1
  omega

theorem scanByte_addWarnings (d : StreamDecoder) (n : Nat) (held : Bytes) (b : UInt8) :
    scanByte (d.addWarnings n) held b = Prod.map (addWarnings · n) id (scanByte d held b) := by
  have h1 : (d.addWarnings n).skipping = d.skipping := rfl
  have h2 : (d.addWarnings n).inString = d.inString := rfl
  have h3 : (d.addWarnings n).escaped = d.escaped := rfl
  have h4 : (d.addWarnings n).depth = d.depth := rfl
  -- once the two readings are fixed, both sides are the same tree of tests
  cases hv : Value.read (held ++ [b]) <;> cases hh : Value.read held <;>
    simp only [scanByte, skip_addWarnings, h1, h2, h3, h4, hv, hh,
      apply_ite (Prod.map (addWarnings · n) id)] <;> rfl

theorem feed_addWarnings (d : StreamDecoder) (n : Nat) (b : UInt8) :
    (d.addWarnings n).feed b = Prod.map (addWarnings · n) id (d.feed b) := by
  simp only [feed, addWarnings_buffer, scanByte_addWarnings]
  rfl

theorem feedBytes_addWarnings (d : StreamDecoder) (n : Nat) (bs : Bytes) :
    (d.addWarnings n).feedBytes bs = Prod.map (addWarnings · n) id (d.feedBytes bs) := by
  induction bs generalizing d with
  | nil => rfl
  | cons b bs ih =>
    rw [feedBytes_cons, feedBytes_cons, feed_addWarnings]
    simp only [Prod.map_fst, Prod.map_snd, id, ih]
    rfl

theorem feed_unwarned {d r : StreamDecoder} {b : UInt8} (hfeed : d.feed b = (r, none))
    (hw : r.warnings = d.warnings) : { d with warnings := 0 }.feed b = ({ r with warnings := 0 }, none) := by
  have hsplit := feed_addWarnings { d with warnings := 0 } d.warnings b
  rw [addWarnings_unwarned, hfeed] at hsplit
  have hv : ({ d with warnings := 0 }.feed b).2 = none := by
    simpa using (congrArg Prod.snd hsplit).symm
  exact Prod.ext (eq_unwarned_of_addWarnings (congrArg Prod.fst hsplit).symm hw) hv

/-- Flags at rest: outside any value, string or skipped fragment. -/
structure AtRest (d : StreamDecoder) : Prop where
  depth : d.depth = 0
  inString : d.inString = false
  escaped : d.escaped = false
  skipping : d.skipping = false

theorem AtRest.of_unwarned {d : StreamDecoder} (h : { d with warnings := 0 } = empty) : AtRest d :=
  ⟨congrArg (·.depth) h, congrArg (·.inString) h, congrArg (·.escaped) h, congrArg (·.skipping) h⟩

theorem AtRest.unwarned_withHeld {d : StreamDecoder} (h : AtRest d) :
    { d.withHeld #[] with warnings := 0 } = empty := by
  obtain ⟨hd, hi, he, hs⟩ := h
  cases d
  simp_all [withHeld, empty]

theorem atRest_skip (d : StreamDecoder) : AtRest d.skip := ⟨rfl, rfl, rfl, rfl⟩

theorem isAsciiSpace_of_isOpening {b : UInt8} (h : isOpening b = true) : isAsciiSpace b = false := by
  simp only [isOpening, Bool.or_eq_true, beq_iff_eq] at h
  rcases h with rfl | rfl <;> rfl

/-- What a byte does to a decoder whose escape flag is only ever set inside a string: it joins
what is held, giving no value and no warning, keeping the escape flag inside strings, and being no
blank if the flags were at rest; or the held bytes are let go and the flags come to rest. -/
theorem scanByte_outcome {d : StreamDecoder} (he : d.escaped = true → d.inString = true)
    (held : Bytes) (b : UInt8) :
    (∃ d', scanByte d held b = (d', false, none) ∧ d'.warnings = d.warnings ∧
      (d'.escaped = true → d'.inString = true) ∧ (AtRest d → isAsciiSpace b = false)) ∨
    (∃ d' v, scanByte d held b = (d', true, v) ∧ AtRest d') := by
  cases hs : d.skipping
  · cases hin : d.inString
    · have hesc : d.escaped = false := Bool.eq_false_iff.mpr fun hx => by simpa [hin] using he hx
      -- outside strings the escape flag stays clear, whatever the byte does
      have hclear : d.escaped = true → d.inString = true := fun h => absurd h (by simp [hesc])
      cases ho : isOpening b
      · rcases Nat.eq_zero_or_pos d.depth with h0 | hpos
        · rcases scanByte_between hs hin h0 held ho with ⟨-, hr⟩ | ⟨hsp, hr⟩
          · exact .inr ⟨_, _, hr, h0, hin, hesc, hs⟩
          · exact .inl ⟨_, hr, rfl, hclear, fun _ => hsp⟩
        · have hnot : AtRest d → isAsciiSpace b = false := fun h => by simp [h.depth] at hpos
          rcases scanByte_inside hs hin hpos held ho with
            hr | ⟨h1, -, v, -, hr⟩ | hr | ⟨-, hr⟩ | ⟨-, hr⟩ | hr
          · exact .inl ⟨_, hr, rfl, fun _ => rfl, hnot⟩
          · -- the last closing bracket brings the depth back to the outer level
            exact .inr ⟨_, _, hr, by simp [h1], hin, hesc, hs⟩
          · exact .inl ⟨_, hr, rfl, hclear, hnot⟩
          · exact .inl ⟨_, hr, rfl, hclear, hnot⟩
          · exact .inr ⟨_, _, hr, atRest_skip d⟩
          · exact .inl ⟨_, hr, rfl, he, hnot⟩
      · exact .inl ⟨_, scanByte_opening hs hin held ho, rfl, hclear,
          fun _ => isAsciiSpace_of_isOpening ho⟩
    · -- inside a string every byte joins what is held
      have hnot : AtRest d → isAsciiSpace b = false := fun h => by simp [h.inString] at hin
      have hr := scanByte_of_inString hs hin held b
      split_ifs at hr with hesc
      · exact .inl ⟨_, hr, rfl, fun _ => hin, hnot⟩
      · exact .inl ⟨_, hr, rfl, fun _ => hin, hnot⟩
      · exact .inl ⟨_, hr, rfl, fun h => absurd h hesc, hnot⟩
      · exact .inl ⟨_, hr, rfl, fun _ => hin, hnot⟩
  · have hr := scanByte_of_skipping hs held b
    split at hr
    · exact .inr ⟨_, _, hr, atRest_skip d⟩
    · exact .inl ⟨_, hr, rfl, he, fun h => by simp [h.skipping] at hs⟩

/-- What the decoder keeps between bytes: it has scanned all it holds, what it holds starts with
no blank, fed from rest it gives the decoder back with no value and no warning, and its escape
flag is only set inside a string. -/
structure Settled (d : StreamDecoder) : Prop where
  scanned : d.scanned = d.buffer.size
  lead : ∀ c ∈ d.buffer.toList.head?, isAsciiSpace c = false
  replay : empty.feedBytes d.buffer.toList = ({ d with warnings := 0 }, [])
  escaped : d.escaped = true → d.inString = true

theorem settled_empty : Settled empty :=
  ⟨rfl, fun _ h => by simp [empty] at h, rfl, fun h => by simp [empty] at h⟩

theorem settled_of_atRest {d : StreamDecoder} (h : AtRest d) : Settled (d.withHeld #[]) :=
  ⟨rfl, fun _ hc => by simp [withHeld] at hc, by simpa using h.unwarned_withHeld.symm,
    fun he => by simp [withHeld, h.escaped] at he⟩

/-- A byte that joins what is held keeps the decoder settled: fed from rest, the held bytes bring
back the flags the byte left. -/
theorem Settled.feed {d : StreamDecoder} (h : Settled d) (b : UInt8) : Settled (d.feed b).1 := by
  rcases scanByte_outcome h.escaped d.buffer.toList b with
    ⟨r, hkeep, hw, he, hlead⟩ | ⟨r, v, hlet, hrest⟩
  · have hfeed : d.feed b = (r.withHeld (d.buffer.push b), none) := by
      simp [StreamDecoder.feed, hkeep]
    have hfrom := feed_unwarned hfeed hw
    rw [hfeed]
    refine ⟨rfl, fun c hc => ?_, ?_, he⟩
    · -- the first byte held is the old first one, or this byte when the decoder was at rest
      cases hb : d.buffer.toList with
      | nil =>
        have hrest : AtRest d := AtRest.of_unwarned (by simpa [hb] using h.replay.symm)
        simp [withHeld, Array.toList_push, hb] at hc
        exact hc ▸ hlead hrest
      | cons c' cs =>
        simp [withHeld, Array.toList_push, hb] at hc
        exact hc ▸ h.lead c' (by simp [hb])
    · rw [buffer_withHeld, Array.toList_push, feedBytes_append, h.replay, feedBytes_cons, hfrom]
      rfl
  · have hfeed : (d.feed b).1 = r.withHeld #[] := by
      simp [StreamDecoder.feed, hlet]
    rw [hfeed]
    exact settled_of_atRest hrest

theorem Settled.feedBytes {d : StreamDecoder} (h : Settled d) (bs : Bytes) :
    Settled (d.feedBytes bs).1 := by
  induction bs generalizing d with
  | nil => exact h
  | cons b bs ih => exact ih (h.feed b)

theorem Settled.push {d : StreamDecoder} (h : Settled d) (chunk : Bytes) :
    Settled (d.push chunk).1 := by
  rw [push_eq_feedBytes d h.scanned chunk]
  exact h.feedBytes chunk

theorem Settled.finish (d : StreamDecoder) : Settled d.finish :=
  ⟨rfl, fun _ hc => by simp [StreamDecoder.finish, empty] at hc, by simp [StreamDecoder.finish, empty],
    fun he => by simp [StreamDecoder.finish, empty] at he⟩

theorem Settled.push_of_pendingBytes_eq_zero {d : StreamDecoder} (h : Settled d)
    (hp : d.pendingBytes = 0) (chunk : Bytes) :
    d.push chunk = Prod.map (addWarnings · d.warnings) id (empty.push chunk) := by
  have hnil : d.buffer.toList = [] := by simpa [pendingBytes] using hp
  have hd : empty.addWarnings d.warnings = d := by
    have := h.replay
    rw [hnil, feedBytes_nil, Prod.mk.injEq] at this
    rw [this.1, addWarnings_unwarned]
  rw [push_eq_feedBytes d h.scanned, push_eq_feedBytes empty rfl]
  calc d.feedBytes chunk = (empty.addWarnings d.warnings).feedBytes chunk := by rw [hd]
    _ = _ := feedBytes_addWarnings empty d.warnings chunk

/-- The decoders a fresh one comes to by pushes and ends of input. -/
inductive Reachable : StreamDecoder → Prop
  | empty : Reachable empty
  | push {d : StreamDecoder} (chunk : Bytes) : Reachable d → Reachable (d.push chunk).1
  | finish {d : StreamDecoder} : Reachable d → Reachable d.finish

theorem Reachable.settled {d : StreamDecoder} (h : Reachable d) : Settled d := by
  induction h with
  | empty => exact settled_empty
  | push chunk _ ih => exact ih.push chunk
  | finish _ => exact Settled.finish _

theorem push_append_of_pendingBytes_eq_zero {p : Bytes} (hp : (empty.push p).1.pendingBytes = 0)
    (t : Bytes) :
    empty.push (p ++ t) =
      ((empty.push t).1.addWarnings (empty.push p).1.warnings, (empty.push p).2 ++ (empty.push t).2) := by
  have hsettled := settled_empty.push p
  have hrest := hsettled.push_of_pendingBytes_eq_zero hp t
  rw [push_eq_feedBytes empty rfl, feedBytes_append, ← push_eq_feedBytes empty rfl p,
    ← push_eq_feedBytes _ hsettled.scanned, hrest]
  rfl

/-- The decoder keeps no state beyond what it holds. After every push, whatever came before, it
has scanned all it holds, what it holds is empty or starts with a byte that is no ASCII blank,
and pushing what it holds into a fresh decoder gives no value, no warning and the same decoder:
the same held bytes and the same depth, string, escape and skipping flags. So a prefix that
leaves nothing held splits the decoding of a stream in two. -/
theorem push_keeps_only_pending {d : StreamDecoder} (hd : Reachable d) (chunk : Bytes) :
    ((d.push chunk).1.scanned = (d.push chunk).1.pendingBytes ∧
      (∀ b ∈ (d.push chunk).1.buffer.toList.head?, isAsciiSpace b = false) ∧
      empty.push (d.push chunk).1.buffer.toList = ({ (d.push chunk).1 with warnings := 0 }, [])) ∧
    ∀ p t : Bytes, (empty.push p).1.pendingBytes = 0 →
      (empty.push (p ++ t)).2 = (empty.push p).2 ++ (empty.push t).2 ∧
      (empty.push (p ++ t)).1 = (empty.push t).1.addWarnings (empty.push p).1.warnings := by
  have h := hd.settled.push chunk
  refine ⟨⟨h.scanned, h.lead, by rw [push_eq_feedBytes empty rfl]; exact h.replay⟩, fun p t hp => ?_⟩
  rw [push_append_of_pendingBytes_eq_zero hp t]
  exact ⟨rfl, rfl⟩

/-- A fresh decoder pushed an object and a blank holds nothing. -/
theorem push_keeps_only_pending_object :
    Reachable empty ∧
      (((empty.push [0x7B, 0x7D, 0x20]).1.scanned = (empty.push [0x7B, 0x7D, 0x20]).1.pendingBytes ∧
        (∀ b ∈ (empty.push [0x7B, 0x7D, 0x20]).1.buffer.toList.head?, isAsciiSpace b = false) ∧
        empty.push (empty.push [0x7B, 0x7D, 0x20]).1.buffer.toList =
          ({ (empty.push [0x7B, 0x7D, 0x20]).1 with warnings := 0 }, [])) ∧
      ∀ p t : Bytes, (empty.push p).1.pendingBytes = 0 →
        (empty.push (p ++ t)).2 = (empty.push p).2 ++ (empty.push t).2 ∧
        (empty.push (p ++ t)).1 = (empty.push t).1.addWarnings (empty.push p).1.warnings) :=
  ⟨.empty, push_keeps_only_pending .empty [0x7B, 0x7D, 0x20]⟩

end Mooring.Engine.StreamDecoder
