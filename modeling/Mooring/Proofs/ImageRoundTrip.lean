import Mathlib
import Mooring.Image.Name
import Mooring.Proofs.TextPieces
namespace Mooring.Image

open Mooring.Text ImageName

/-- The characters of the pieces of a valid reference: ASCII letters and digits, `.`, `_`, `-`,
and the `:` before a registry port. -/
def isPieceChar (c : Char) : Bool := c.isAlphanum || c = '.' || c = '_' || c = '-' || c = ':'

theorem toNat_of_isPieceChar {c : Char} (h : isPieceChar c = true) :
    (48 ≤ c.toNat ∧ c.toNat ≤ 58) ∨ (65 ≤ c.toNat ∧ c.toNat ≤ 90) ∨
      (97 ≤ c.toNat ∧ c.toNat ≤ 122) ∨ c.toNat = 45 ∨ c.toNat = 46 ∨ c.toNat = 95 := by
  simp only [isPieceChar, Char.isAlphanum, Char.isAlpha, Char.isUpper, Char.isLower, Char.isDigit,
    Bool.or_eq_true, Bool.and_eq_true, decide_eq_true_eq, UInt32.le_iff_toNat_le] at h
  rcases h with ((((h | h) | h) | rfl) | rfl) | rfl | rfl <;> simp_all <;> omega

theorem plain_of_isPieceChar {c : Char} (h : isPieceChar c = true) :
    isBlank c = false ∧ c ≠ '/' ∧ c ≠ '@' ∧ c ≠ '\n' := by
  have hn := toNat_of_isPieceChar h
  refine ⟨?_, ?_, ?_, ?_⟩
  · simp only [isBlank]
    simp only [Bool.or_eq_false_iff, Bool.and_eq_false_iff, decide_eq_false_iff_not, beq_eq_false_iff_ne]
    omega
  all_goals
    rintro rfl
    revert hn
    decide

theorem isPieceChar_of_isComponentChar {c : Char} (h : isComponentChar c = true) :
    isPieceChar c = true ∧ c ≠ ':' := by
  simp only [isComponentChar, Char.isDigit, Bool.or_eq_true, Bool.and_eq_true,
    decide_eq_true_eq] at h
  refine ⟨?_, ?_⟩
  · simp only [isPieceChar, Char.isAlphanum, Char.isAlpha, Char.isLower, Char.isDigit,
      Bool.or_eq_true, Bool.and_eq_true, decide_eq_true_eq]
    rcases h with ⟨h1, h2⟩ | ⟨h1, h2⟩
    · exact .inl (.inl (.inl (.inl (.inl (.inr ⟨h1, h2⟩)))))
    · exact .inl (.inl (.inl (.inl (.inr ⟨h1, h2⟩))))
  · rintro rfl
    revert h
    decide

theorem isComponentSeparator_chars {sep : List Char} (h : isComponentSeparator sep = true) :
    ∀ c ∈ sep, c = '.' ∨ c = '_' ∨ c = '-' := by
  simp only [isComponentSeparator, Bool.or_eq_true, decide_eq_true_eq, Bool.and_eq_true,
    ne_eq, List.all_eq_true] at h
  rcases h with ((rfl | rfl) | rfl) | ⟨-, h⟩
  · simp
  · simp
  · simp
  · intro c hc
    exact .inr (.inr (by simpa using h c hc))

/-- The separator a component reader holds back. -/
def ComponentState.held : ComponentState → List Char
  | .separator sep => sep
  | _ => []

/-- Every character a component reader accepts, the held separator included, is a piece
character other than `:`. -/
theorem isComponent_go_chars : ∀ (st : ComponentState) (s : List Char),
    isComponent.go st s = true → ∀ c ∈ st.held ++ s, isPieceChar c = true ∧ c ≠ ':' := by
  intro st s
  induction s generalizing st with
  | nil =>
    intro h
    cases st <;> simp_all [isComponent.go, ComponentState.held]
  | cons c cs ih =>
    intro h d hd
    cases st with
    | start =>
      simp only [isComponent.go, Bool.and_eq_true] at h
      simp only [ComponentState.held, List.nil_append, List.mem_cons] at hd
      rcases hd with rfl | hd
      · exact isPieceChar_of_isComponentChar h.1
      · exact ih .run h.2 d (by simpa [ComponentState.held] using hd)
    | run =>
      simp only [ComponentState.held, List.nil_append, List.mem_cons] at hd
      simp only [isComponent.go] at h
      split at h
      · rename_i hc
        rcases hd with rfl | hd
        · exact isPieceChar_of_isComponentChar hc
        · exact ih .run h d (by simpa [ComponentState.held] using hd)
      · exact ih (.separator [c]) h d (by simpa [ComponentState.held] using hd)
    | separator sep =>
      simp only [isComponent.go] at h
      split at h
      · rename_i hc
        simp only [Bool.and_eq_true] at h
        simp only [ComponentState.held, List.mem_append, List.mem_cons] at hd
        rcases hd with hd | rfl | hd
        · -- a held separator character
          rcases isComponentSeparator_chars h.1 d hd with rfl | rfl | rfl <;> decide
        · exact isPieceChar_of_isComponentChar hc
        · exact ih .run h.2 d (by simpa [ComponentState.held] using hd)
      · exact ih (.separator (sep ++ [c])) h d (by simpa [ComponentState.held] using hd)

theorem isComponent_chars {s : List Char} (h : isComponent s = true) :
    ∀ c ∈ s, isPieceChar c = true ∧ c ≠ ':' :=
  fun c hc => isComponent_go_chars .start s h c (by simpa [ComponentState.held] using hc)

theorem isComponent_ne_nil {s : List Char} (h : isComponent s = true) : s ≠ [] := by
  rintro rfl
  simp [isComponent, isComponent.go] at h

theorem isDomainLabel_chars {l : List Char} (h : isDomainLabel l = true) :
    ∀ c ∈ l, c.isAlphanum = true ∨ c = '-' := by
  unfold isDomainLabel at h
  split at h
  · simp only [Bool.and_eq_true, List.all_eq_true, Bool.or_eq_true, decide_eq_true_eq] at h
    exact h.2
  · cases h

theorem labels_chars {s : List Char} (h : ∀ l ∈ splitOnChar '.' s, isDomainLabel l = true) :
    ∀ c ∈ s, isPieceChar c = true := by
  intro c hc
  rcases (mem_splitOnChar_of_mem hc : c = '.' ∨ _) with rfl | ⟨l, hl, hcl⟩
  · decide
  · rcases isDomainLabel_chars (h l hl) c hcl with h | rfl
    · simp [isPieceChar, h]
    · decide

theorem isDomain_chars {s : List Char} (h : isDomain s = true) : ∀ c ∈ s, isPieceChar c = true := by
  unfold isDomain at h
  split at h
  · exact labels_chars (List.all_eq_true.mp h)
  · rename_i host port hsplit
    simp only [Bool.and_eq_true, List.all_eq_true, ne_eq, decide_eq_true_eq] at h
    rw [splitOnceChar_eq_some hsplit]
    intro c hc
    simp only [List.mem_append, List.mem_cons] at hc
    rcases hc with hc | rfl | hc
    · exact labels_chars h.1.1 c hc
    · decide
    · simp [isPieceChar, Char.isAlphanum, h.2 c hc]

theorem isDomain_ne_nil {s : List Char} (h : isDomain s = true) : s ≠ [] := by
  rintro rfl
  simp [isDomain, splitOnceChar, splitOnChar, isDomainLabel] at h

theorem isTag_chars {s : List Char} (h : isTag s = true) :
    s ≠ [] ∧ ∀ c ∈ s, c ≠ ':' ∧ c ≠ '/' ∧ c ≠ '@' := by
  cases s with
  | nil => simp [isTag] at h
  | cons c rest =>
    simp only [isTag, Bool.and_eq_true, List.all_eq_true, Bool.or_eq_true, decide_eq_true_eq] at h
    have hword : ∀ d, isWordChar d = true → d ≠ ':' ∧ d ≠ '/' ∧ d ≠ '@' := by
      rintro d hd
      refine ⟨?_, ?_, ?_⟩ <;> (rintro rfl; exact absurd hd (by decide))
    refine ⟨by simp, fun d hd => ?_⟩
    rcases List.mem_cons.mp hd with rfl | hd
    · exact hword d h.1.1
    · rcases h.2 d hd with (hw | rfl) | rfl
      · exact hword d hw
      · decide
      · decide

theorem isDigest_eq {s : List Char} (h : isDigest s = true) :
    ∃ hex, s = "sha256:".toList ++ hex := by
  unfold isDigest at h
  split at h
  · rename_i hex hstrip
    exact ⟨hex, stripPrefix?_eq_some.mp hstrip⟩
  · cases h

theorem check_eq_none (label : String) (ok : List Char → Bool) (v : Option String) :
    (v.bind fun v => if ok v.toList then none
      else some (label ++ " part '" ++ v ++ "' doesn't match allowed pattern")) = none ↔
      (v.all fun v => ok v.toList) = true := by
  cases v <;> simp

theorem problems_eq_nil {n : ImageName} : n.problems = [] ↔
    (n.registry.all fun r => isDomain r.toList) = true ∧ isRepositoryPath n.simpleName.toList = true ∧
      (n.user.all fun u => isComponent u.toList) = true ∧ (n.tag.all fun t => isTag t.toList) = true ∧
      (n.digest.all fun d => isDigest d.toList) = true := by
  simp only [problems, List.filterMap_eq_nil_iff, List.mem_cons, List.not_mem_nil, or_false,
    forall_eq_or_imp, forall_eq, check_eq_none, Option.all_some]

section Pieces

variable (pieces : List (List Char)) (tag digest : Option String)

@[simp] theorem ofPieces_tag : (ofPieces pieces tag digest).tag = tag := by
  unfold ofPieces
  split <;> (try split) <;> rfl

@[simp] theorem ofPieces_digest : (ofPieces pieces tag digest).digest = digest := by
  unfold ofPieces
  split <;> (try split) <;> rfl

theorem nameWithoutTag_ofPieces :
    ((ofPieces pieces tag digest).nameWithoutTag none).toList = joinWith ['/'] pieces := by
  rcases pieces with _ | ⟨p, _ | ⟨q, _ | ⟨r, rest⟩⟩⟩
  · rfl
  · simp [ofPieces, nameWithoutTag, joinWith]
  · by_cases hr : looksLikeRegistry p <;> simp [ofPieces, nameWithoutTag, hr, joinWith]
  · by_cases hr : looksLikeRegistry p <;> simp [ofPieces, nameWithoutTag, hr]

end Pieces

theorem simpleName_eq {n : ImageName} {u : String} {r : List Char} (hu : n.user = some u)
    (hr : n.repository.toList = u.toList ++ '/' :: r) : n.simpleName = String.ofList r := by
  simp [simpleName, hu, hr]

theorem isRepositoryPath_of_not_mem {s : List Char} (h : '/' ∉ s) :
    isRepositoryPath s = isComponent s := by
  simp [isRepositoryPath, splitOnChar_of_not_mem h]

theorem isRepositoryPath_joinWith {ps : List (List Char)} (hne : ps ≠ [])
    (h : ∀ p ∈ ps, '/' ∉ p) (hpath : isRepositoryPath (joinWith ['/'] ps) = true) :
    ∀ p ∈ ps, isComponent p = true := by
  simpa [isRepositoryPath, splitOnChar_joinWith hne h] using hpath

/-- What reading a written-out name back needs of its pieces. -/
structure Readable (pieces : List (List Char)) : Prop where
  ne_nil : pieces ≠ []
  piece_ne_nil : ∀ p ∈ pieces, p ≠ []
  chars : ∀ p ∈ pieces, ∀ c ∈ p, isPieceChar c = true
  no_slash : ∀ p ∈ pieces, '/' ∉ p
  /-- A `:` stands only in a first piece that more pieces follow. -/
  colon : ∀ p ∈ pieces.tail, ':' ∉ p
  colon_single : ∀ p, pieces = [p] → ':' ∉ p

/-- Pieces read: a domain with more pieces after it, or a component, then components. -/
theorem Readable.of_parts {p : List Char} {more : List (List Char)}
    (hslash : ∀ q ∈ p :: more, '/' ∉ q)
    (hfirst : (isDomain p = true ∧ more ≠ []) ∨ isComponent p = true)
    (hmore : ∀ q ∈ more, isComponent q = true) : Readable (p :: more) where
  ne_nil := by simp
  piece_ne_nil q hq := by
    rcases List.mem_cons.mp hq with rfl | hq
    · rcases hfirst with ⟨hd, -⟩ | hc
      · exact isDomain_ne_nil hd
      · exact isComponent_ne_nil hc
    · exact isComponent_ne_nil (hmore q hq)
  chars q hq c hc := by
    rcases List.mem_cons.mp hq with rfl | hq
    · rcases hfirst with ⟨hd, -⟩ | hcomp
      · exact isDomain_chars hd c hc
      · exact (isComponent_chars hcomp c hc).1
    · exact (isComponent_chars (hmore q hq) c hc).1
  no_slash := hslash
  colon q hq hc := (isComponent_chars (hmore q hq) ':' hc).2 rfl
  colon_single q hq hc := by
    simp only [List.cons.injEq] at hq
    obtain ⟨rfl, rfl⟩ := hq
    rcases hfirst with ⟨-, hne⟩ | hcomp
    · exact hne rfl
    · exact (isComponent_chars hcomp ':' hc).2 rfl

/-- The pieces of a name without problems read back. -/
theorem readable_of_problems {pieces : List (List Char)} {tag digest : Option String}
    (hslash : ∀ p ∈ pieces, '/' ∉ p) (h : (ofPieces pieces tag digest).problems = []) :
    Readable pieces := by
  obtain ⟨hreg, hrepo, huser, -, -⟩ := problems_eq_nil.mp h
  rcases pieces with _ | ⟨p, _ | ⟨q, more⟩⟩
  · simp [ofPieces, simpleName, isRepositoryPath, splitOnChar, isComponent, isComponent.go] at hrepo
  · -- one piece: the repository
    simp only [ofPieces, simpleName, String.toList_ofList] at hrepo
    rw [isRepositoryPath_of_not_mem (hslash p (by simp))] at hrepo
    exact Readable.of_parts hslash (.inr hrepo) (by simp)
  · cases more with
    | nil =>
      by_cases hr : looksLikeRegistry p
      · -- a registry and a repository
        simp only [ofPieces, hr, ↓reduceIte, Option.all_some, String.toList_ofList,
          simpleName] at hreg hrepo
        rw [isRepositoryPath_of_not_mem (hslash q (by simp))] at hrepo
        exact Readable.of_parts hslash (.inl ⟨hreg, by simp⟩) (by simpa using hrepo)
      · -- a user and a repository
        simp only [ofPieces, hr, Bool.false_eq_true, ↓reduceIte, Option.all_some,
          String.toList_ofList] at huser hrepo
        rw [@simpleName_eq _ _ q rfl (by simp [joinWith]), String.toList_ofList,
          isRepositoryPath_of_not_mem (hslash q (by simp))] at hrepo
        exact Readable.of_parts hslash (.inr huser) (by simpa using hrepo)
    | cons r rest =>
      by_cases hr : looksLikeRegistry p
      · -- a registry, a user and the rest of the repository
        simp only [ofPieces, hr, ↓reduceIte, Option.all_some, String.toList_ofList] at hreg huser hrepo
        rw [@simpleName_eq _ _ (joinWith ['/'] (r :: rest)) rfl (by simp), String.toList_ofList]
          at hrepo
        have hcomp := isRepositoryPath_joinWith (by simp)
          (fun x hx => hslash x (by simp_all)) hrepo
        refine Readable.of_parts hslash (.inl ⟨hreg, by simp⟩) ?_
        intro x hx
        rcases List.mem_cons.mp hx with rfl | hx
        · exact huser
        · exact hcomp x hx
      · -- a user and the rest of the repository
        simp only [ofPieces, hr, Bool.false_eq_true, ↓reduceIte, Option.all_some,
          String.toList_ofList] at huser hrepo
        rw [@simpleName_eq _ _ (joinWith ['/'] (q :: r :: rest)) rfl (by simp), String.toList_ofList]
          at hrepo
        exact Readable.of_parts hslash (.inr huser)
          (isRepositoryPath_joinWith (by simp) (fun x hx => hslash x (by simp_all)) hrepo)

theorem tagTail?_eq_none {y : List Char} (h : ∀ t, y = ':' :: t → '/' ∈ t ∨ ':' ∈ t) :
    tagTail? y = none := by
  unfold tagTail?
  split
  · rename_i t
    have hbad : ¬ t.all (fun c => c ≠ ':' && c ≠ '/') = true := by
      intro hall
      rw [List.all_eq_true] at hall
      rcases h t rfl with hs | hc
      · simpa using hall '/' hs
      · simpa using hall ':' hc
    exact if_neg fun hc => hbad hc.2
  · rfl

theorem tagTail?_append_colon {y : List Char} (hy : y ≠ []) (t : List Char) :
    tagTail? (y ++ ':' :: t) = none := by
  refine tagTail?_eq_none fun t' ht' => .inr ?_
  obtain ⟨c, y', rfl⟩ := List.exists_cons_of_ne_nil hy
  simp only [List.cons_append, List.cons.injEq] at ht'
  rw [← ht'.2]
  simp

theorem splitTag_go_append {u v : List Char} (hnl : '\n' ∉ u)
    (htail : ∀ x y, u = x ++ y → y ≠ [] → tagTail? (y ++ v) = none) (head : List Char) :
    splitTag.go head (u ++ v) = splitTag.go (u.reverse ++ head) v := by
  induction u generalizing head with
  | nil => rfl
  | cons c u ih =>
    simp only [List.mem_cons, not_or] at hnl
    have hc : tagTail? (c :: (u ++ v)) = none := htail [] (c :: u) rfl (by simp)
    simp only [List.cons_append, splitTag.go, hc, Ne.symm hnl.1, ↓reduceIte]
    rw [ih hnl.2 (fun x y hxy hy => htail (c :: x) y (by simp [hxy]) hy)]
    simp

theorem splitTag_append {N v : List Char} (hne : N ≠ []) (hnl : '\n' ∉ N)
    (htail : ∀ x y, N = x ++ y → y ≠ [] → tagTail? (y ++ v) = none) :
    splitTag (N ++ v) = splitTag.go N.reverse v := by
  obtain ⟨c, cs, rfl⟩ := List.exists_cons_of_ne_nil hne
  simp only [List.mem_cons, not_or] at hnl
  simp only [List.cons_append, splitTag, Ne.symm hnl.1, ↓reduceIte]
  rw [splitTag_go_append hnl.2 (fun x y hxy hy => htail (c :: x) y (by simp [hxy]) hy)]
  simp

theorem splitTag_untagged {N : List Char} (hne : N ≠ []) (hnl : '\n' ∉ N)
    (htail : ∀ x y, N = x ++ y → y ≠ [] → tagTail? y = none) : splitTag N = some (N, none) := by
  have h : splitTag (N ++ []) = splitTag.go N.reverse [] :=
    splitTag_append hne hnl (by simpa using htail)
  rw [List.append_nil] at h
  simp [h, splitTag.go]

theorem splitTag_tagged {N t : List Char} (hne : N ≠ []) (hnl : '\n' ∉ N)
    (ht : tagTail? (':' :: t) = some t) : splitTag (N ++ ':' :: t) = some (N, some t) := by
  rw [splitTag_append hne hnl (fun _ y _ hy => tagTail?_append_colon hy t)]
  simp [splitTag.go, ht]

namespace Readable

variable {pieces : List (List Char)} (h : Readable pieces)
include h

theorem joined_chars : ∀ c ∈ joinWith ['/'] pieces, isBlank c = false ∧ c ≠ '@' ∧ c ≠ '\n' := by
  intro c hc
  rcases mem_joinWith hc with rfl | ⟨p, hp, hcp⟩
  · decide
  · obtain ⟨hb, -, ha, hn⟩ := plain_of_isPieceChar (h.chars p hp c hcp)
    exact ⟨hb, ha, hn⟩

theorem joined_ne_nil : joinWith ['/'] pieces ≠ [] := by
  obtain ⟨p, more, hps⟩ := List.exists_cons_of_ne_nil h.ne_nil
  have hp := h.piece_ne_nil p (by simp [hps])
  subst hps
  cases more <;> simp_all [joinWith]

/-- In the joined pieces every `:` has a `/` after it, so no tail of them reads as a tag. -/
theorem joined_tagTail : ∀ x y, joinWith ['/'] pieces = x ++ y → y ≠ [] → tagTail? y = none := by
  obtain ⟨p, more, hps⟩ := List.exists_cons_of_ne_nil h.ne_nil
  subst hps
  intro x y hxy hy
  cases more with
  | nil =>
    have hp : ':' ∉ p := h.colon_single p rfl
    refine tagTail?_eq_none fun t ht => absurd ?_ hp
    simp only [joinWith] at hxy
    rw [hxy, ht]
    simp
  | cons q qs =>
    -- after the first `/` there is no `:`
    have hg : ':' ∉ joinWith ['/'] (q :: qs) := by
      intro hc
      rcases mem_joinWith hc with h' | ⟨r, hr, hcr⟩
      · exact absurd h' (by decide)
      · exact h.colon r (by simpa using hr) hcr
    rw [joinWith_cons_cons, List.append_assoc, List.singleton_append] at hxy
    refine tagTail?_eq_none fun t ht => ?_
    subst ht
    rcases List.append_eq_append_iff.mp hxy.symm with ⟨a, -, ha⟩ | ⟨b, -, hb⟩
    · -- the tail starts inside the first piece: the `/` is in it
      cases a with
      | nil => simp at ha
      | cons a0 a' =>
        simp only [List.cons_append, List.cons.injEq] at ha
        rw [ha.2]
        simp
    · -- the tail starts at the `/` or after it
      cases b with
      | nil => simp at hb
      | cons b0 b' =>
        simp only [List.cons_append, List.cons.injEq] at hb
        exact absurd (by rw [hb.2]; simp) hg

theorem reread :
    (splitOnChar '/' (joinWith ['/'] pieces)).map (fun p => (trim (String.ofList p)).toList) =
      pieces := by
  rw [splitOnChar_joinWith h.ne_nil h.no_slash]
  calc pieces.map (fun p => (trim (String.ofList p)).toList) = pieces.map id := by
        refine List.map_congr_left fun p hp => ?_
        have hblank : ∀ c ∈ (String.ofList p).toList, isBlank c = false := by
          simpa using fun c hc => (plain_of_isPieceChar (h.chars p hp c hc)).1
        simp [trim_eq_self hblank]
    _ = pieces := List.map_id pieces

end Readable

theorem fullName_toList (n : ImageName) : (n.fullName none).toList =
    (n.nameWithoutTag none).toList ++ (n.tag.map fun t => ':' :: t.toList).getD [] ++
      (n.digest.map fun d => '@' :: d.toList).getD [] := by
  obtain ⟨r, u, repo, t, d⟩ := n
  cases t <;> cases d <;> simp [fullName]

theorem latest_eq {tag digest : Option String} (htd : tag.isSome ∨ digest.isSome) :
    (if (tag.isNone && digest.isNone) = true then some "latest" else tag) = tag := by
  cases tag <;> cases digest <;> simp_all

theorem isSome_latest (tag digest : Option String) :
    (if (tag.isNone && digest.isNone) = true then some "latest" else tag).isSome ∨ digest.isSome := by
  cases tag <;> cases digest <;> simp

theorem splitTag_joined {pieces : List (List Char)} {tag : Option String} (hr : Readable pieces)
    (htag : (tag.all fun t => isTag t.toList) = true) :
    splitTag (joinWith ['/'] pieces ++ (tag.map fun t => ':' :: t.toList).getD []) =
      some (joinWith ['/'] pieces, tag.map String.toList) := by
  have hnl : '\n' ∉ joinWith ['/'] pieces := fun hc => (hr.joined_chars '\n' hc).2.2 rfl
  cases tag with
  | none => simpa using splitTag_untagged hr.joined_ne_nil hnl hr.joined_tagTail
  | some t =>
    obtain ⟨hne, hchars⟩ := isTag_chars (by simpa using htag)
    have ht : tagTail? (':' :: t.toList) = some t.toList := by
      have hall : t.toList.all (fun c => c ≠ ':' && c ≠ '/') = true :=
        List.all_eq_true.mpr fun c hc => by simp [(hchars c hc).1, (hchars c hc).2.1]
      unfold tagTail?
      exact if_pos ⟨hne, hall⟩
    simpa using splitTag_tagged hr.joined_ne_nil hnl ht

theorem contains_digest_mark_of_not_mem {X : List Char} (h : '@' ∉ X) :
    contains "@sha256".toList X = false := by
  rw [← Bool.not_eq_true, ← infix_iff_contains]
  exact fun ⟨a, b, hab⟩ => h (hab ▸ by simp)

theorem contains_digest_mark {d : List Char} (hd : isDigest d = true) (X : List Char) :
    contains "@sha256".toList (X ++ '@' :: d) = true := by
  obtain ⟨hex, rfl⟩ := isDigest_eq hd
  rw [← infix_iff_contains]
  exact ⟨X, ':' :: hex, by simp⟩

theorem Readable.not_mem_head {pieces : List (List Char)} {tag : Option String}
    (hr : Readable pieces) (htag : (tag.all fun t => isTag t.toList) = true) :
    '@' ∉ joinWith ['/'] pieces ++ (tag.map fun t => ':' :: t.toList).getD [] := by
  simp only [List.mem_append, not_or]
  refine ⟨fun hc => (hr.joined_chars '@' hc).2.1 rfl, ?_⟩
  cases tag with
  | none => simp
  | some t =>
    have hchars := (isTag_chars (by simpa using htag)).2
    simpa using fun hc => (hchars '@' hc).2.2 rfl

theorem Readable.isBlankText_fullName {pieces : List (List Char)} (hr : Readable pieces)
    (tag digest : Option String) :
    isBlankText ((ofPieces pieces tag digest).fullName none) = false := by
  obtain ⟨c, cs, hcs⟩ := List.exists_cons_of_ne_nil hr.joined_ne_nil
  have hc := (hr.joined_chars c (by simp [hcs])).1
  simp [isBlankText, fullName_toList, nameWithoutTag_ofPieces, hcs, hc]

/-- A name made of `/`-free pieces, with a tag or a digest and without problems, reads back from
its full name. -/
theorem parse_fullName_ofPieces {pieces : List (List Char)} {tag digest : Option String}
    (hslash : ∀ p ∈ pieces, '/' ∉ p) (htd : tag.isSome ∨ digest.isSome)
    (hok : (ofPieces pieces tag digest).problems = []) :
    parse ((ofPieces pieces tag digest).fullName none) = .ok (ofPieces pieces tag digest) := by
  have hr := readable_of_problems hslash hok
  obtain ⟨-, -, -, htag, hdig⟩ := problems_eq_nil.mp hok
  simp only [ofPieces_tag, ofPieces_digest] at htag hdig
  have hhead := hr.not_mem_head htag
  unfold parse withTag
  simp only [hr.isBlankText_fullName, Bool.false_eq_true, ↓reduceIte, fullName_toList,
    nameWithoutTag_ofPieces, ofPieces_tag, ofPieces_digest]
  -- cutting off the digest leaves the joined pieces and the tag
  rcases digest with _ | d
  on_goal 1 =>
    simp only [Option.map_none, Option.getD_none, List.append_nil,
      contains_digest_mark_of_not_mem hhead, Bool.false_eq_true, ↓reduceIte]
  on_goal 2 =>
    simp only [Option.map_some, Option.getD_some,
      contains_digest_mark (by simpa using hdig), ↓reduceIte, splitOnceChar_append_cons _ hhead]
  -- then the tag split, the pieces and the tag read back
  all_goals simp only [splitTag_joined hr htag, Option.map_map, Function.comp_def,
    String.ofList_toList, Option.map_id', Option.none_or, latest_eq htd, hr.reread, hok]

theorem parse_eq_ok {s : String} {n : ImageName} (h : parse s = .ok n) :
    ∃ pieces tag digest, (∀ p ∈ pieces, '/' ∉ p) ∧ (tag.isSome ∨ digest.isSome) ∧
      n = ofPieces pieces tag digest ∧ n.problems = [] := by
  unfold parse withTag at h
  split at h
  · cases h
  · dsimp only at h
    split at h
    · cases h
    · rename_i head ownTag hsplit
      split at h
      · rename_i hprob
        cases h
        refine ⟨_, _, _, ?_, isSome_latest _ _, rfl, hprob⟩
        intro p hp hs
        obtain ⟨q, hq, rfl⟩ := List.mem_map.mp hp
        exact not_mem_of_mem_splitOnChar hq (by simpa using (trim_sublist _).subset hs)
      · cases h

/-- A reference that reads is read back from its full name as the same name. -/
theorem parse_fullName_of_parse (s : String) (n : ImageName) (h : parse s = .ok n) :
    parse (n.fullName none) = .ok n := by
  obtain ⟨pieces, tag, digest, hslash, htd, rfl, hok⟩ := parse_eq_ok h
  exact parse_fullName_ofPieces hslash htd hok

theorem parse_fullName_of_parse_registry_port :
    parse (ImageName.fullName ⟨some "reg.io:5000", some "team", "team/app", some "1.0",
      some "sha256:0123456789abcdef0123456789abcdef"⟩ none) =
      .ok ⟨some "reg.io:5000", some "team", "team/app", some "1.0",
        some "sha256:0123456789abcdef0123456789abcdef"⟩ :=
  parse_fullName_of_parse "reg.io:5000/team/app:1.0@sha256:0123456789abcdef0123456789abcdef" _
    rfl

end Mooring.Image
