import Mathlib.Data.List.TakeWhile
import Mooring.Proofs.StreamChunks
namespace Mooring.Text

theorem dropWhile_reverse_dropWhile_eq_nil {p : Char → Bool} {l : List Char} :
    (l.dropWhile p).reverse.dropWhile p = [] ↔ l.all p := by
  rw [List.dropWhile_eq_nil_iff]
  constructor
  · intro h
    cases hd : l.dropWhile p with
    | nil => simpa using List.dropWhile_eq_nil_iff.mp hd
    | cons x xs =>
      -- the first character kept is not blank, yet it is among those the second pass drops
      have hx := List.head_dropWhile_not p (l := l) (by simp [hd])
      simp only [hd, List.head_cons] at hx
      exact absurd (h x (by simp [hd])) (by simp [hx])
  · intro h
    rw [List.dropWhile_eq_nil_iff.mpr (by simpa using h)]
    simp

theorem trim_isEmpty (s : String) : (trim s).isEmpty = isBlankText s := by
  rw [Bool.eq_iff_iff, String.isEmpty_iff, trim, dropTrailing, dropLeading, isBlankText,
    String.ofList_eq_empty_iff, List.reverse_eq_nil_iff, String.toList_ofList]
  exact dropWhile_reverse_dropWhile_eq_nil

end Mooring.Text

namespace Mooring.Engine.StreamDecoder

open Mooring.Json Mooring.Text

/-- `{` or `[`. -/
def isOpening (b : UInt8) : Bool := b == 0x7B || b == 0x5B

/-- `}` or `]`. -/
def isClosing (b : UInt8) : Bool := b == 0x7D || b == 0x5D

/-- A stretch of the input as the decoder accounts for it. -/
inductive Piece where
  /-- The text of a value, from its opening bracket to its closing one, and the value read. -/
  | value (text : Bytes) (v : Value)
  /-- A blank between values. -/
  | blank (b : UInt8)
  /-- A malformed fragment, skipped. -/
  | skipped (text : Bytes)

namespace Piece

def bytes : Piece → Bytes
  | .value text _ => text
  | .blank b => [b]
  | .skipped text => text

def value? : Piece → Option Value
  | .value _ v => some v
  | _ => none

def isSkipped : Piece → Bool
  | .skipped _ => true
  | _ => false

/-- What each kind of stretch is: a value's text runs from an opening to a closing bracket and
reads as the value, a blank is an ASCII blank, and a skipped fragment ends at a line feed. -/
def Valid : Piece → Prop
  | .value text v => text.head?.any isOpening ∧ text.getLast?.any isClosing ∧ Value.read text = .ok v
  | .blank b => isAsciiSpace b = true
  | .skipped text => text.getLast? = some 0x0A

end Piece

/-- The shape of what a decoder holds between bytes: nothing when it waits for a value, the start
of a value when inside one, and strings only inside values. -/
structure Holds (d : StreamDecoder) : Prop where
  idle : d.skipping = false → d.depth = 0 → d.buffer.toList = []
  opening : d.skipping = false → 0 < d.depth → ∃ c ∈ d.buffer.toList.head?, isOpening c = true
  string : d.inString = true → d.skipping = false ∧ 0 < d.depth

theorem holds_empty : Holds empty :=
  ⟨fun _ _ => rfl, fun _ h => by simp [empty] at h, fun h => by simp [empty] at h⟩

theorem scanByte_of_skipping {d : StreamDecoder} (h : d.skipping = true) (held : Bytes) (b : UInt8) :
    scanByte d held b = if b == 0x0A then (d.skip, true, none) else (d, false, none) := by
  simp [scanByte, h]

theorem scanByte_of_inString {d : StreamDecoder} (h : d.skipping = false) (h' : d.inString = true)
    (held : Bytes) (b : UInt8) :
    scanByte d held b =
      if d.escaped then ({ d with escaped := false }, false, none)
      else if b == 0x5C then ({ d with escaped := true }, false, none)
      else if b == 0x22 then ({ d with inString := false }, false, none)
      else (d, false, none) := by
  simp [scanByte, h, h']

theorem scanByte_opening {d : StreamDecoder} (hs : d.skipping = false) (hin : d.inString = false)
    (held : Bytes) {b : UInt8} (ho : isOpening b = true) :
    scanByte d held b = ({ d with depth := d.depth + 1 }, false, none) := by
  have hb : (b == 0x7B || b == 0x5B) = true := ho
  simp only [scanByte, hs, hin, hb, Bool.false_eq_true, if_false, if_true]

theorem scanByte_between {d : StreamDecoder} (hs : d.skipping = false) (hin : d.inString = false)
    (h0 : d.depth = 0) (held : Bytes) {b : UInt8} (ho : isOpening b = false) :
    (isAsciiSpace b = true ∧ scanByte d held b = (d, true, none)) ∨
      (isAsciiSpace b = false ∧ scanByte d held b = ({ d with skipping := true }, false, none)) := by
  have hb : (b == 0x7B || b == 0x5B) = false := ho
  simp only [scanByte, hs, hin, hb, h0, Nat.lt_irrefl, Bool.false_eq_true, if_false]
  cases hsp : isAsciiSpace b
  · exact .inr ⟨rfl, rfl⟩
  · exact .inl ⟨rfl, rfl⟩

theorem scanByte_inside {d : StreamDecoder} (hs : d.skipping = false) (hin : d.inString = false)
    (hpos : 0 < d.depth) (held : Bytes) {b : UInt8} (ho : isOpening b = false) :
    scanByte d held b = ({ d with inString := true }, false, none) ∨
      (d.depth = 1 ∧ isClosing b = true ∧ ∃ v, Value.read (held ++ [b]) = .ok v ∧
        scanByte d held b = ({ d with depth := d.depth - 1 }, true, some v)) ∨
      scanByte d held b = ({ d with depth := d.depth - 1, skipping := true }, false, none) ∨
      (1 < d.depth ∧ scanByte d held b = ({ d with depth := d.depth - 1 }, false, none)) ∨
      (b = 0x0A ∧ scanByte d held b = (d.skip, true, none)) ∨
      scanByte d held b = (d, false, none) := by
  have hb : (b == 0x7B || b == 0x5B) = false := ho
  simp only [scanByte, hs, hin, hb, hpos, Bool.false_eq_true, if_false, if_true]
  split
  · exact .inl rfl
  split
  · rename_i hc
    split
    · -- the level closed was the last: the value is complete, or malformed
      rename_i hlast
      have h1 : d.depth = 1 := by simp at hlast; omega
      split
      · rename_i v hv
        exact .inr <| .inl ⟨h1, hc, v, hv, rfl⟩
      · exact .inr <| .inr <| .inl rfl
    · rename_i hlast
      exact .inr <| .inr <| .inr <| .inl ⟨by simp at hlast; omega, rfl⟩
  split
  · rename_i hlf
    -- a line feed skips the value only when what is held cannot become one
    split
    · split
      · exact .inr <| .inr <| .inr <| .inr <| .inr rfl
      · exact .inr <| .inr <| .inr <| .inr <| .inl ⟨by simpa using hlf, rfl⟩
    · exact .inr <| .inr <| .inr <| .inr <| .inr rfl
  · exact .inr <| .inr <| .inr <| .inr <| .inr rfl

theorem mem_head?_push {buf : Array UInt8} {c : UInt8} (hc : c ∈ buf.toList.head?) (b : UInt8) :
    c ∈ (buf.push b).toList.head? := by
  simp [Array.toList_push, List.head?_append, Option.mem_def.mp hc]

/-- A byte keeps the shape of what the decoder holds. -/
theorem feed_holds {d : StreamDecoder} (h : Holds d) (b : UInt8) : Holds (d.feed b).1 := by
  obtain ⟨hidle, hopen, hstr⟩ := h
  unfold feed
  -- the three modes of the scan: skipping, inside a string, and between the brackets
  cases hs : d.skipping
  · -- inside a value, the held bytes keep their opening bracket while they grow
    have hkeep : 0 < d.depth → ∃ c ∈ (d.buffer.push b).toList.head?, isOpening c = true :=
      fun hpos => by
        obtain ⟨c, hc, hoc⟩ := hopen hs hpos
        exact ⟨c, mem_head?_push hc b, hoc⟩
    cases hin : d.inString
    · cases ho : isOpening b
      · rcases Nat.eq_zero_or_pos d.depth with h0 | hpos
        · rcases scanByte_between hs hin h0 d.buffer.toList ho with ⟨-, hr⟩ | ⟨-, hr⟩ <;> rw [hr] <;>
            exact ⟨by simp [withHeld], by simp [withHeld, h0], by simp [withHeld, hin]⟩
        · rcases scanByte_inside hs hin hpos d.buffer.toList ho with
            hr | ⟨h1, -, v, -, hr⟩ | hr | ⟨h1, hr⟩ | ⟨-, hr⟩ | hr <;> rw [hr]
          · exact ⟨fun _ h0 => by simp [withHeld] at h0; omega, fun _ _ => hkeep hpos,
              fun _ => ⟨hs, hpos⟩⟩
          · exact ⟨by simp [withHeld], by simp [withHeld, h1], by simp [withHeld, hin]⟩
          · exact ⟨by simp [withHeld], by simp [withHeld], by simp [withHeld, hin]⟩
          · exact ⟨fun _ h0 => by simp [withHeld] at h0; omega, fun _ _ => hkeep hpos,
              by simp [withHeld, hin]⟩
          · exact ⟨by simp [withHeld, skip], by simp [withHeld, skip], by simp [withHeld, skip]⟩
          · exact ⟨fun _ h0 => by simp [withHeld] at h0; omega, fun _ _ => hkeep hpos,
              by simp [withHeld, hin]⟩
      · -- an opening bracket starts the held bytes when it opens the value
        have hstart : ∃ c ∈ (d.buffer.push b).toList.head?, isOpening c = true := by
          rcases Nat.eq_zero_or_pos d.depth with h0 | hpos
          · exact ⟨b, by simp [hidle hs h0], ho⟩
          · exact hkeep hpos
        rw [scanByte_opening hs hin _ ho]
        exact ⟨by simp [withHeld], fun _ _ => by simpa [withHeld] using hstart,
          by simp [withHeld, hin]⟩
    · -- a string lies inside a value, and each of its bytes joins what is held
      obtain ⟨-, hdep⟩ := hstr hin
      have hr := scanByte_of_inString hs hin d.buffer.toList b
      repeat' split at hr
      all_goals
        rw [hr]
        exact ⟨fun _ h0 => by simp [withHeld] at h0; omega, fun _ _ => hkeep hdep,
          fun _ => ⟨hs, hdep⟩⟩
  · rw [scanByte_of_skipping hs]
    dsimp only
    split
    · refine ⟨?_, ?_, ?_⟩ <;> simp [withHeld, skip]
    · refine ⟨?_, ?_, ?_⟩ <;> simp_all [withHeld]

/-- What one byte does to the accounts: it joins what is held, or it completes a value, a skipped
fragment or a blank, and the decoder then holds nothing. -/
theorem feed_cases {d : StreamDecoder} (h : Holds d) (b : UInt8) :
    let r := d.feed b
    (r.1.buffer.toList = d.buffer.toList ++ [b] ∧ r.2 = none ∧ r.1.warnings = d.warnings) ∨
    (∃ v, r.2 = some v ∧ r.1.buffer.toList = [] ∧ r.1.warnings = d.warnings ∧
      (Piece.value (d.buffer.toList ++ [b]) v).Valid) ∨
    (r.2 = none ∧ r.1.buffer.toList = [] ∧ r.1.warnings = d.warnings + 1 ∧
      (Piece.skipped (d.buffer.toList ++ [b])).Valid) ∨
    (r.2 = none ∧ r.1.buffer.toList = [] ∧ r.1.warnings = d.warnings ∧ d.buffer.toList = [] ∧
      (Piece.blank b).Valid) := by
  obtain ⟨hidle, hopen, hstr⟩ := h
  intro r
  -- a byte the scan neither lets go nor completes with joins what is held
  have hgrow : ∀ d', scanByte d d.buffer.toList b = (d', false, none) → d'.warnings = d.warnings →
      r.1.buffer.toList = d.buffer.toList ++ [b] ∧ r.2 = none ∧ r.1.warnings = d.warnings :=
    fun d' hr hw => by simp [r, feed, hr, withHeld, hw]
  cases hs : d.skipping
  · cases hin : d.inString
    · cases ho : isOpening b
      · rcases Nat.eq_zero_or_pos d.depth with h0 | hpos
        · rcases scanByte_between hs hin h0 d.buffer.toList ho with ⟨hsp, hr⟩ | ⟨-, hr⟩
          · -- a blank between values is let go on its own
            refine .inr <| .inr <| .inr ?_
            simp only [r, feed, hr]
            simp [withHeld, hidle hs h0, Piece.Valid, hsp]
          · exact .inl (hgrow _ hr rfl)
        · rcases scanByte_inside hs hin hpos d.buffer.toList ho with
            hr | ⟨-, hcl, v, hv, hr⟩ | hr | ⟨-, hr⟩ | ⟨hlf, hr⟩ | hr
          · exact .inl (hgrow _ hr rfl)
          · -- the last closing bracket completes the value the held bytes opened
            obtain ⟨c, hc, hoc⟩ := hopen hs hpos
            refine .inr <| .inl ⟨v, ?_⟩
            simp only [r, feed, hr]
            simp [withHeld, Piece.Valid, hv, hcl, Option.mem_def.mp hc, hoc]
          · exact .inl (hgrow _ hr rfl)
          · exact .inl (hgrow _ hr rfl)
          · -- a line feed ends the malformed value, which is skipped
            refine .inr <| .inr <| .inl ?_
            simp only [r, feed, hr]
            simp [withHeld, skip, Piece.Valid, hlf]
          · exact .inl (hgrow _ hr rfl)
      · exact .inl (hgrow _ (scanByte_opening hs hin _ ho) rfl)
    · -- inside a string every byte joins what is held
      have hr := scanByte_of_inString hs hin d.buffer.toList b
      repeat' split at hr
      all_goals exact .inl (hgrow _ hr rfl)
  · have hr := scanByte_of_skipping hs d.buffer.toList b
    split at hr
    · -- a line feed ends the skipped fragment
      refine .inr <| .inr <| .inl ?_
      simp_all [r, feed, withHeld, skip, Piece.Valid]
    · exact .inl (hgrow _ hr rfl)

/-- The input so far splits into pieces the decoder accounted for, followed by what it holds; the
values it gave are those of the value pieces, and its warnings count the skipped ones. -/
def Accounts (input : Bytes) (d : StreamDecoder) (values : List Value) : Prop :=
  ∃ pieces : List Piece, (∀ p ∈ pieces, p.Valid) ∧
    input = pieces.flatMap Piece.bytes ++ d.buffer.toList ∧
    values = pieces.filterMap Piece.value? ∧ d.warnings = pieces.countP Piece.isSkipped

theorem accounts_empty : Accounts [] empty [] :=
  ⟨[], by simp, rfl, rfl, rfl⟩

theorem accounts_close {input : Bytes} {d d' : StreamDecoder} {values : List Value}
    {pieces : List Piece} (hvalid : ∀ p ∈ pieces, p.Valid)
    (hin : input = pieces.flatMap Piece.bytes ++ d.buffer.toList)
    (hval : values = pieces.filterMap Piece.value?) (q : Piece) (hq : q.Valid)
    (hbytes : q.bytes = d.buffer.toList ++ [b]) (hbuf : d'.buffer.toList = [])
    (hw : d'.warnings = pieces.countP Piece.isSkipped + if q.isSkipped then 1 else 0) :
    Accounts (input ++ [b]) d' (values ++ q.value?.toList) := by
  refine ⟨pieces ++ [q], ?_, ?_, ?_, ?_⟩
  · intro p hp
    rcases List.mem_append.mp hp with hp | hp
    · exact hvalid p hp
    · rw [List.mem_singleton.mp hp]
      exact hq
  · rw [hbuf, hin, List.flatMap_append, List.flatMap_singleton, hbytes]
    simp
  · rw [hval, List.filterMap_append]
    cases q <;> rfl
  · rw [hw, List.countP_append, List.countP_singleton]

theorem feed_accounts {d : StreamDecoder} (h : Holds d) {input : Bytes} {values : List Value}
    (ha : Accounts input d values) (b : UInt8) :
    Accounts (input ++ [b]) (d.feed b).1 (values ++ (d.feed b).2.toList) := by
  obtain ⟨pieces, hvalid, hin, hval, hwarn⟩ := ha
  rcases feed_cases h b with ⟨hbuf, hout, hw⟩ | ⟨v, hout, hbuf, hw, hv⟩ |
      ⟨hout, hbuf, hw, hv⟩ | ⟨hout, hbuf, hw, hheld, hv⟩
  · -- the byte joins what is held
    refine ⟨pieces, hvalid, ?_, by simp [hout, hval], by rw [hw, hwarn]⟩
    rw [hbuf, hin, List.append_assoc]
  · rw [hout]
    exact accounts_close hvalid hin hval (.value _ v) hv rfl hbuf (by simp [hw, hwarn, Piece.isSkipped])
  · rw [hout]
    exact accounts_close hvalid hin hval (.skipped _) hv rfl hbuf (by simp [hw, hwarn, Piece.isSkipped])
  · rw [hout]
    exact accounts_close hvalid hin hval (.blank b) hv (by simp [hheld, Piece.bytes]) hbuf
      (by simp [hw, hwarn, Piece.isSkipped])

theorem feedBytes_accounts (bs : Bytes) :
    ∀ (d : StreamDecoder) (input : Bytes) (values : List Value), Holds d →
      Accounts input d values →
      Holds (d.feedBytes bs).1 ∧ Accounts (input ++ bs) (d.feedBytes bs).1 (values ++ (d.feedBytes bs).2) := by
  induction bs with
  | nil => intro d input values h ha; simpa using ⟨h, ha⟩
  | cons b bs ih =>
    intro d input values h ha
    obtain ⟨h', ha'⟩ := ih (d.feed b).1 _ _ (feed_holds h b) (feed_accounts h ha b)
    rw [List.append_assoc, List.singleton_append, List.append_assoc] at ha'
    exact ⟨h', ha'⟩

/-- Every byte of the input is accounted for, in order and once: the input fed in any chunks is
the text of each value given, blanks between values, and skipped fragments ending at a line
feed, followed by the bytes still held. The warnings count the skipped fragments, and after the
end of the input one more unless the held bytes read as blank text. -/
theorem pushAll_accounts_input (chunks : List Bytes) :
    ∃ (pieces : List Piece) (tail : Bytes),
      chunks.flatten = pieces.flatMap Piece.bytes ++ tail ∧ (∀ p ∈ pieces, p.Valid) ∧
      (empty.pushAll chunks).2 = pieces.filterMap Piece.value? ∧
      (empty.pushAll chunks).1.buffer.toList = tail ∧
      (empty.pushAll chunks).1.warnings = pieces.countP Piece.isSkipped ∧
      (empty.pushAll chunks).1.finish.warnings =
        pieces.countP Piece.isSkipped + if isBlankText (Utf8.decodeLossy tail) then 0 else 1 := by
  rw [pushAll_eq_feedBytes empty rfl]
  obtain ⟨-, pieces, hvalid, hin, hval, hwarn⟩ :=
    feedBytes_accounts chunks.flatten empty [] [] holds_empty accounts_empty
  refine ⟨pieces, _, by simpa using hin, hvalid, by simpa using hval, rfl, hwarn, ?_⟩
  simp only [finish, trim_isEmpty, hwarn]

/-- A lone vertical tab is held, being no ASCII blank, and then dropped at the end as blank text,
with no warning. -/
theorem finish_drops_vertical_tab_unwarned :
    (empty.push [0x0B]).1.pendingBytes = 1 ∧ (empty.push [0x0B]).1.finish.warnings = 0 := by
  decide +kernel

end Mooring.Engine.StreamDecoder
