import Mathlib
import Mooring.Net.Numeric
import Mooring.Text.Integer
namespace Mooring.Text

theorem isDigit_of_mem_digits {n : Nat} {c : Char} (h : c ∈ Nat.toDigits 10 n) :
    c.isDigit = true :=
  Nat.isDigit_of_mem_toDigits (by omega) (by omega) h

theorem toList_toString (n : Nat) : (toString n).toList = Nat.toDigits 10 n := by
  simp [Nat.toString_eq_repr, Nat.toList_repr]

theorem not_mem_digits {n : Nat} {c : Char} (hc : c.isDigit = false) : c ∉ (toString n).toList :=
  fun h => by
    rw [isDigit_of_mem_digits ((toList_toString n) ▸ h)] at hc
    cases hc

theorem le_ofDigitChars (l : List Char) (init : Nat) : init ≤ Nat.ofDigitChars 10 l init := by
  rw [Nat.ofDigitChars_eq_ofDigitChars_zero]
  have h : 1 ≤ 10 ^ l.length := Nat.one_le_pow _ _ (by omega)
  calc init = 1 * init := (Nat.one_mul init).symm
    _ ≤ 10 ^ l.length * init := Nat.mul_le_mul_right init h
    _ ≤ _ := Nat.le_add_right _ _

theorem readDigits_of_isDigit (bound : Nat) (e : IntegerError) :
    ∀ (cs : List Char) (acc : Nat), (∀ c ∈ cs, c.isDigit = true) →
      Nat.ofDigitChars 10 cs acc ≤ bound → readDigits bound e acc cs = .ok (Nat.ofDigitChars 10 cs acc)
  | [], _, _, _ => rfl
  | c :: cs, acc, hd, hb => by
    have hc : c.isDigit = true := hd c List.mem_cons_self
    rw [Nat.ofDigitChars_cons] at hb ⊢
    have hnext := le_ofDigitChars cs (10 * acc + (c.toNat - '0'.toNat))
    have hcomm : acc * 10 = 10 * acc := Nat.mul_comm acc 10
    simp only [readDigits, hc, ↓reduceIte, hcomm]
    rw [if_neg (by omega)]
    exact readDigits_of_isDigit bound e cs _ (fun c' hc' => hd c' (List.mem_cons_of_mem c hc')) hb

/-- A number written in decimal reads back as an unsigned integer of any width it fits. -/
theorem parseUnsigned_toString {bits n : Nat} (h : n < 2 ^ bits) :
    parseUnsigned bits (toString n) = .ok n := by
  have hread : readDigits (Nat.pow 2 bits - 1) .tooLarge 0 (Nat.toDigits 10 n) = .ok n := by
    have hv : Nat.ofDigitChars 10 (Nat.toDigits 10 n) 0 = n := Nat.ofDigitChars_ten_toDigits
    rw [readDigits_of_isDigit _ _ _ 0 (fun c hc => isDigit_of_mem_digits hc)
      (by rw [hv]; exact Nat.le_sub_one_of_lt h), hv]
  obtain ⟨d, ds, hds⟩ := List.exists_cons_of_ne_nil (Nat.toDigits_ne_nil (b := 10) (n := n))
  -- the first character is a digit, so the text has no sign
  have hd : d.isDigit = true := isDigit_of_mem_digits (hds ▸ List.mem_cons_self)
  have hplus : d ≠ '+' := by rintro rfl; cases hd
  have hminus : d ≠ '-' := by rintro rfl; cases hd
  unfold parseUnsigned
  rw [toList_toString, hds]
  rw [hds] at hread
  split
  · contradiction
  · rename_i h1; simp at h1; exact absurd h1.1 hplus
  · rename_i h1; simp at h1; exact absurd h1.1 hminus
  · rename_i h1; simp at h1; exact absurd h1.1 hplus
  · exact hread

theorem parseU16?_toString {n : Nat} (h : n < 2 ^ 16) : parseU16? (toString n) = some n := by
  rw [parseU16?, parseUnsigned_toString h]
  rfl

end Mooring.Text

namespace Mooring.Net

open Mooring.Text

/-- The written form of a number starts with `0` only when it is zero. -/
theorem eq_zero_of_head?_toDigits {n : Nat} (h : (Nat.toDigits 10 n).head? = some '0') :
    n = 0 := by
  induction n using Nat.strongRecOn with
  | ind n ih =>
    rcases Nat.lt_or_ge n 10 with hn | hn
    · rw [Nat.toDigits_of_lt_base hn] at h
      have hc : (Nat.digitChar n).toNat = '0'.toNat := by
        simp only [List.head?_cons, Option.some.injEq] at h
        rw [h]
      rw [Nat.toNat_digitChar_of_lt_ten hn] at hc
      simp at hc
      omega
    · -- the first digit of a larger number is the first digit of its tenth
      rw [Nat.toDigits_of_base_le (by omega) hn, List.head?_append] at h
      have hhead : (Nat.toDigits 10 (n / 10)).head? = some '0' := by
        cases hh : (Nat.toDigits 10 (n / 10)).head? with
        | none => simp at hh
        | some c => rw [hh] at h; simpa using h
      have := ih (n / 10) (by omega) hhead
      omega

theorem digitValue_of_isDigit {c : Char} (h : c.isDigit = true) :
    digitValue 10 c = some (c.toNat - '0'.toNat) := by
  have h' : '0' ≤ c ∧ c ≤ '9' := by
    simp only [Char.isDigit, Bool.and_eq_true, decide_eq_true_eq] at h
    exact ⟨h.1, h.2⟩
  simp [digitValue, h'.1, h'.2]

theorem leadingDigits_digits_append {ds rest : List Char} (hds : ∀ c ∈ ds, c.isDigit = true)
    (hrest : ∀ c ∈ rest.head?, digitValue 10 c = none) :
    leadingDigits 10 (ds ++ rest) = ds.map fun c => c.toNat - '0'.toNat := by
  induction ds with
  | nil =>
    cases rest with
    | nil => rfl
    | cons c cs => simp [leadingDigits, hrest c rfl]
  | cons d ds ih =>
    have hd := hds d List.mem_cons_self
    simp [leadingDigits, digitValue_of_isDigit hd, ih fun c hc => hds c (List.mem_cons_of_mem d hc)]

/-- A number below 1000 written in decimal reads back as one octet-sized number, whatever follows
that is no digit. -/
theorem readNumber_toDigits {n : Nat} (hn : n < 1000) {rest : List Char}
    (hrest : ∀ c ∈ rest.head?, digitValue 10 c = none) :
    readNumber 10 3 false (Nat.toDigits 10 n ++ rest) = some (n, rest) := by
  have hlead := @leadingDigits_digits_append (Nat.toDigits 10 n) rest
    (fun c hc => isDigit_of_mem_digits hc) hrest
  have hlen : (Nat.toDigits 10 n).length ≤ 3 :=
    (Nat.length_toDigits_le_iff (by omega) (by omega)).mpr (by simpa using hn)
  have hpos : 0 < (Nat.toDigits 10 n).length := Nat.length_toDigits_pos
  have hvalue : ((Nat.toDigits 10 n).map fun c => c.toNat - '0'.toNat).foldl
      (fun acc d => acc * 10 + d) 0 = n := by
    rw [List.foldl_map]
    conv => rhs; rw [← Nat.ofDigitChars_ten_toDigits (n := n)]
    simp only [Nat.ofDigitChars_eq_foldl, Nat.mul_comm]
  -- a leading zero stands alone
  have hzero : (Nat.toDigits 10 n).head? = some '0' → (Nat.toDigits 10 n).length = 1 := by
    intro h
    rw [eq_zero_of_head?_toDigits h]
    rfl
  unfold readNumber
  simp only [hlead, List.length_map, Bool.not_false, Bool.true_and]
  rw [if_neg (by simp; omega), if_neg (by simp; intro h; have := hzero h; omega), hvalue,
    List.drop_left]

theorem readOctet_toDigits (o : UInt8) {rest : List Char}
    (hrest : ∀ c ∈ rest.head?, digitValue 10 c = none) :
    readOctet (Nat.toDigits 10 o.toNat ++ rest) = some (o, rest) := by
  have ho : o.toNat < 256 := o.toNat_lt
  simp [readOctet, readNumber_toDigits (show o.toNat < 1000 by omega) hrest, ho, Nat.toUInt8]

theorem readOctets_dotted :
    ∀ os : List UInt8,
      readOctets false os.length (os.flatMap fun o => '.' :: Nat.toDigits 10 o.toNat) = some (os, [])
  | [] => rfl
  | o :: os => by
    -- what follows the octet is the dot of the next one, or nothing
    have hrest : ∀ c ∈ (os.flatMap fun o => '.' :: Nat.toDigits 10 o.toNat).head?,
        digitValue 10 c = none := by
      cases os with
      | nil => simp
      | cons o' os' => simp [digitValue]
    simp only [List.length_cons, List.flatMap_cons, List.cons_append, readOctets, afterSeparator,
      Bool.not_false, ↓reduceIte, readOctet_toDigits o hrest, readOctets_dotted os]

theorem toList_toText (a : Ipv4Addr) :
    ∃ o os, a.octets.toList = o :: os ∧
      a.toText.toList = Nat.toDigits 10 o.toNat ++ os.flatMap fun o => '.' :: Nat.toDigits 10 o.toNat := by
  obtain ⟨o, os, hos⟩ := List.exists_cons_of_ne_nil (by simp : a.octets.toList ≠ [])
  refine ⟨o, os, hos, ?_⟩
  simp only [Ipv4Addr.toText, String.toList_intercalate, hos, List.map_cons, List.map_map]
  clear hos
  induction os generalizing o with
  | nil => simp
  | cons o' os ih =>
    simp only [List.map_cons, Function.comp_apply, List.flatMap_cons]
    rw [List.intercalate_cons_cons, ih o']
    simp

theorem ofList_toList (a : Ipv4Addr) : Ipv4Addr.ofList a.octets.toList = a := by
  cases a with
  | mk octets =>
    simp only [Ipv4Addr.ofList, Ipv4Addr.mk.injEq]
    ext i hi
    simp [List.getD_eq_getElem?_getD]

theorem Ipv4Addr.read_toText (a : Ipv4Addr) : Ipv4Addr.read a.toText.toList = some (a, []) := by
  obtain ⟨o, os, hos, htext⟩ := toList_toText a
  have hlen : os.length = 3 := by
    have := congrArg List.length hos
    simp at this
    omega
  have hrest : ∀ c ∈ (os.flatMap fun o => '.' :: Nat.toDigits 10 o.toNat).head?,
      digitValue 10 c = none := by
    cases os with
    | nil => simp at hlen
    | cons o' os' => simp [digitValue]
  have hread : readOctets true 4 a.toText.toList = some (o :: os, []) := by
    rw [htext, show 4 = os.length + 1 by omega]
    simp only [readOctets, afterSeparator, Bool.not_true, Bool.false_eq_true, ↓reduceIte,
      readOctet_toDigits o hrest, readOctets_dotted os]
  simp [Ipv4Addr.read, hread, ← hos, ofList_toList]

theorem IpAddr.parse?_toText_v4 (a : Ipv4Addr) : IpAddr.parse? (IpAddr.v4 a).toText = some (.v4 a) := by
  simp [IpAddr.parse?, IpAddr.toText, Ipv4Addr.read_toText]

theorem IpAddr.ofNumericHost?_toText_v4 (a : Ipv4Addr) :
    IpAddr.ofNumericHost? (IpAddr.v4 a).toText = some (.v4 a) := by
  simp [IpAddr.ofNumericHost?, IpAddr.parse?_toText_v4]

theorem IpAddr.resolve_of_numeric {names : String → Option IpAddr} {host : String} {a : IpAddr}
    (h : IpAddr.ofNumericHost? host = some a) : IpAddr.resolve names host = some a := by
  simp [IpAddr.resolve, h]

/-- Any other host without a NUL character is the name service's to resolve. -/
theorem IpAddr.resolve_of_name {names : String → Option IpAddr} {host : String}
    (h : IpAddr.ofNumericHost? host = none) (hnul : Char.ofNat 0 ∉ host.toList) :
    IpAddr.resolve names host = names host := by
  simp [IpAddr.resolve, h, hnul]

theorem toText_chars (a : Ipv4Addr) :
    (∀ c ∈ a.toText.toList, c.isDigit = true ∨ c = '.') ∧
      ∃ c cs, a.toText.toList = c :: cs ∧ c.isDigit = true := by
  obtain ⟨o, os, -, htext⟩ := toList_toText a
  obtain ⟨d, ds, hds⟩ := List.exists_cons_of_ne_nil (Nat.toDigits_ne_nil (b := 10) (n := o.toNat))
  refine ⟨fun c hc => ?_, d, ds ++ os.flatMap fun o => '.' :: Nat.toDigits 10 o.toNat,
    by rw [htext, hds]; rfl, isDigit_of_mem_digits (hds ▸ List.mem_cons_self)⟩
  rw [htext, List.mem_append, List.mem_flatMap] at hc
  rcases hc with hc | ⟨o', -, hc⟩
  · exact .inl (isDigit_of_mem_digits hc)
  · rcases List.mem_cons.mp hc with rfl | hc
    · exact .inr rfl
    · exact .inl (isDigit_of_mem_digits hc)

end Mooring.Net
