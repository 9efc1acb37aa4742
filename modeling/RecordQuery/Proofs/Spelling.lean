import Mathlib.Data.List.Forall2
import RecordQuery.Text.Ascii
import RecordQuery.Text.LowerCase
import RecordQuery.Text.Pieces

/-!
# Two ways of ignoring case

Registries tell names apart by their lower-case form over all of Unicode, schemas up to the case of
ASCII letters.  The second is finer: texts that agree up to ASCII case have the same lower-case form
(`lower_eq_of_agree`).  The final sigma is the one place where lower-casing looks at the neighbours
of a character, and it sees no more of an ASCII letter than that it is a letter.

Dots stay dots, and nothing else becomes one.  So texts with the same lower-case form have the same
number of segments, of which the same ones are empty (`map_isEmpty_segments_congr`).
-/

namespace RecordQuery.Text

/-! ### Characters -/

/-- A fact about small letters in ASCII is one about the capitals: all other characters are their
own small letters. -/
theorem toLower_congr {α : Type} (f : Char → α)
    (h : ∀ n < 26, f (Char.ofNat (65 + n)).toLower = f (Char.ofNat (65 + n))) (c : Char) :
    f c.toLower = f c := by
  by_cases hc : 65 ≤ c.toNat ∧ c.toNat ≤ 90
  · have hsum : 65 + (c.toNat - 65) = c.toNat := by omega
    have hcapital := h (c.toNat - 65) (by omega)
    rwa [hsum, Char.ofNat_toNat] at hcapital
  · have hself : c.toLower = c := by
      unfold Char.toLower
      refine dif_neg ?_
      simpa [UInt32.le_iff_toNat_le] using hc
    rw [hself]

theorem isCased_toLower (c : Char) : isCased c.toLower = isCased c :=
  toLower_congr isCased (by decide) c

/-- The table of case-ignorable characters has no letter of ASCII. -/
theorem caseIgnorable_ascii :
    ∀ r ∈ caseIgnorable, r.2 < 65 ∨ 90 < r.1 ∧ r.2 < 97 ∨ 122 < r.1 := by
  decide +kernel

theorem isCaseIgnorable_toLower (c : Char) : isCaseIgnorable c.toLower = isCaseIgnorable c := by
  have hletter : ∀ n < 26, (Char.ofNat (65 + n)).toNat = 65 + n ∧
      (Char.ofNat (65 + n)).toLower.toNat = 97 + n := by decide
  have hnone : ∀ m, 65 ≤ m ∧ m ≤ 90 ∨ 97 ≤ m ∧ m ≤ 122 → caseIgnorable.contains m = false := by
    intro m hm
    rw [← Bool.not_eq_true, CodePoints.contains_iff]
    rintro ⟨r, hr, hfirst, hlast⟩
    have hrange := caseIgnorable_ascii r hr
    omega
  refine toLower_congr isCaseIgnorable (fun n hn => ?_) c
  obtain ⟨hcapital, hsmall⟩ := hletter n hn
  rw [isCaseIgnorable, isCaseIgnorable, hcapital, hsmall, hnone _ (by omega), hnone _ (by omega)]

theorem simpleLower_toLower (c : Char) : simpleLower c.toLower = simpleLower c :=
  toLower_congr simpleLower (by decide) c

/-- No capital becomes, or is, one of the characters with a special lower-case form. -/
theorem toLower_beq (c : Char) :
    (c.toLower == 'Σ') = (c == 'Σ') ∧ (c.toLower == 'İ') = (c == 'İ') :=
  ⟨toLower_congr (· == 'Σ') (by decide) c, toLower_congr (· == 'İ') (by decide) c⟩

/-! ### Texts -/

/-- The next cased character is found in a folded text as in the text. -/
theorem meetsCased_foldAscii (cs : List Char) : meetsCased (foldAscii cs) = meetsCased cs := by
  have hdrop : (foldAscii cs).dropWhile isCaseIgnorable =
      foldAscii (cs.dropWhile isCaseIgnorable) := by
    unfold foldAscii
    rw [List.dropWhile_map]
    congr 2
    funext c
    exact isCaseIgnorable_toLower c
  unfold meetsCased
  rw [hdrop]
  cases cs.dropWhile isCaseIgnorable with
  | nil => rfl
  | cons c rest => exact isCased_toLower c

/-- A character and its neighbours may be folded before lower-casing. -/
theorem lowerAt_foldAscii (before : List Char) (c : Char) (after : List Char) :
    lowerAt (foldAscii before) c.toLower (foldAscii after) = lowerAt before c after := by
  obtain ⟨hsigma, hdotted⟩ := toLower_beq c
  unfold lowerAt
  rw [hsigma, hdotted, meetsCased_foldAscii, meetsCased_foldAscii, simpleLower_toLower]

/-- Lower-casing forgets the case of ASCII letters. -/
theorem lowerFrom_foldAscii (before cs : List Char) :
    lowerFrom (foldAscii before) (foldAscii cs) = lowerFrom before cs := by
  induction cs generalizing before with
  | nil => rfl
  | cons c cs ih =>
    have hfold : foldAscii (c :: cs) = c.toLower :: foldAscii cs := rfl
    have hbefore : c.toLower :: foldAscii before = foldAscii (c :: before) := rfl
    rw [hfold, lowerFrom, lowerFrom, lowerAt_foldAscii, hbefore, ih]

/-- Texts that agree up to ASCII case have the same lower-case form. -/
theorem lower_eq_of_agree {a b : String} (h : agree a b = true) : lower a = lower b := by
  rw [agree_iff] at h
  have hlower : lowerChars a.toList = lowerChars b.toList := by
    unfold lowerChars
    rw [← lowerFrom_foldAscii [] a.toList, ← lowerFrom_foldAscii [] b.toList, h]
  unfold lower
  rw [hlower]

/-! ### Dotted names -/

/-- Folding leaves the dots where they are. -/
theorem foldAscii_joined (ps : List (List Char)) :
    foldAscii (joined '.' ps) = joined '.' (ps.map foldAscii) := by
  induction ps with
  | nil => rfl
  | cons p ps ih =>
    cases ps with
    | nil => rfl
    | cons q qs =>
      have hdot : foldAscii (p ++ '.' :: joined '.' (q :: qs)) =
          foldAscii p ++ '.' :: foldAscii (joined '.' (q :: qs)) := by
        unfold foldAscii
        rw [List.map_append, List.map_cons]
        rfl
      rw [joined, hdot, ih]
      rfl

/-- Dotted names agree when they do so segment by segment. -/
theorem agree_dotted {names written : List String}
    (h : List.Forall₂ (fun name segment => agree name segment = true) names written) :
    agree (dotted names) (dotted written) = true := by
  have hmap : (names.map String.toList).map foldAscii =
      (written.map String.toList).map foldAscii := by
    induction h with
    | nil => rfl
    | cons hhead _ ih =>
      rw [agree_iff] at hhead
      rw [List.map_cons, List.map_cons, List.map_cons, List.map_cons, hhead, ih]
  rw [agree_iff, dotted, dotted, String.toList_ofList, String.toList_ofList, foldAscii_joined,
    foldAscii_joined, hmap]

/-- Names that agree with the segments of a text have, dotted, its lower-case form. -/
theorem lower_dotted_eq {names : List String} {name : String}
    (h : List.Forall₂ (fun name segment => agree name segment = true) names (segments name)) :
    lower (dotted names) = lower name := by
  have hagree := agree_dotted h
  rw [dotted_segments] at hagree
  exact lower_eq_of_agree hagree

/-! ### Dots -/

/-- No lower-case partner is as early a character as the dot. -/
theorem dot_lt_of_mem_lowerRuns : ∀ r ∈ lowerRuns, (46 : Int) < r.first + r.shift := by
  decide +kernel

/-- A character other than the dot does not become one. -/
theorem simpleLower_ne_dot {c : Char} (hc : c ≠ '.') : simpleLower c ≠ '.' := by
  unfold simpleLower
  split
  · next hascii =>
    have htable : ∀ n < 128, Char.ofNat n ≠ '.' → (Char.ofNat n).toLower ≠ '.' := by
      decide
    have hcase := htable c.toNat hascii
    rw [Char.ofNat_toNat] at hcase
    exact hcase hc
  · dsimp only
    split
    · next r hfind =>
      have hbound := dot_lt_of_mem_lowerRuns r (List.mem_of_find?_eq_some hfind)
      have hin := List.find?_some hfind
      simp only [Bool.and_eq_true, decide_eq_true_eq] at hin
      obtain ⟨⟨hfirst, -⟩, -⟩ := hin
      intro hdot
      have hnat : ((c.toNat : Int) + r.shift).toNat = 46 := by
        by_cases hvalid : ((c.toNat : Int) + r.shift).toNat.isValidChar
        · rw [Char.ofNat, dif_pos hvalid] at hdot
          exact congrArg Char.toNat hdot
        · rw [Char.ofNat, dif_neg hvalid] at hdot
          cases hdot
      omega
    · exact hc

/-- The lower-case form of a character other than the dot is not empty and has no dot. -/
theorem lowerAt_of_ne_dot {c : Char} (hc : c ≠ '.') (before after : List Char) :
    lowerAt before c after ≠ [] ∧ ∀ d ∈ lowerAt before c after, (d == '.') = false := by
  unfold lowerAt
  split
  · split <;> simp
  · split
    · simp
    · simp [simpleLower_ne_dot hc]

/-- Characters that separate nothing make the first piece longer, which is not empty then. -/
theorem map_isEmpty_pieces_append {sep : Char → Bool} {cs : List Char} (hne : cs ≠ [])
    (hcs : ∀ c ∈ cs, sep c = false) (rest : List Char) :
    (pieces sep (cs ++ rest)).map List.isEmpty =
      false :: ((pieces sep rest).map List.isEmpty).tail := by
  induction cs with
  | nil => exact absurd rfl hne
  | cons c cs ih =>
    have hc : sep c = false := hcs c List.mem_cons_self
    have hstep : ∀ others, (pieces sep (c :: others)).map List.isEmpty =
        false :: ((pieces sep others).map List.isEmpty).tail := by
      intro others
      rw [pieces, if_neg (by simp [hc])]
      cases pieces sep others <;> rfl
    rw [List.cons_append, hstep]
    cases cs with
    | nil => rfl
    | cons d cs =>
      rw [ih (List.cons_ne_nil d cs) fun e he => hcs e (List.mem_cons_of_mem c he)]
      rfl

/-- Lower-casing leaves the dots where they are, so that the same pieces are empty. -/
theorem map_isEmpty_pieces_lowerFrom (before cs : List Char) :
    (pieces (· == '.') (lowerFrom before cs)).map List.isEmpty =
      (pieces (· == '.') cs).map List.isEmpty := by
  induction cs generalizing before with
  | nil => rfl
  | cons c cs ih =>
    by_cases hc : c = '.'
    · subst hc
      have hdot : lowerAt before '.' cs = ['.'] := rfl
      rw [lowerFrom, hdot, List.singleton_append, pieces, pieces]
      simp only [beq_self_eq_true, if_true, List.map_cons, ih]
    · obtain ⟨hne, hnone⟩ := lowerAt_of_ne_dot hc before cs
      have hsep : ∀ d ∈ [c], (d == '.') = false := by
        intro d hd
        obtain rfl := List.mem_singleton.1 hd
        exact beq_eq_false_iff_ne.2 hc
      rw [lowerFrom, map_isEmpty_pieces_append hne hnone, ih]
      exact (map_isEmpty_pieces_append (List.cons_ne_nil c []) hsep cs).symm

/-- Texts with the same lower-case form have empty segments at the same places. -/
theorem map_isEmpty_segments_congr {a b : String} (h : lower a = lower b) :
    (segments a).map String.isEmpty = (segments b).map String.isEmpty := by
  have hsegments : ∀ s : String, (segments s).map String.isEmpty =
      (pieces (· == '.') (lowerChars s.toList)).map List.isEmpty := by
    intro s
    unfold lowerChars
    rw [map_isEmpty_pieces_lowerFrom, segments, List.map_map]
    congr 1
    funext cs
    cases cs with
    | nil => rfl
    | cons c cs => simp [String.isEmpty_eq_false_iff]
  have hchars : lowerChars a.toList = lowerChars b.toList := by
    have hlist := congrArg String.toList h
    unfold lower at hlist
    rwa [String.toList_ofList, String.toList_ofList] at hlist
  rw [hsegments, hsegments, hchars]

theorem toLower_beq_dot (c : Char) : (c.toLower == '.') = (c == '.') :=
  toLower_congr (· == '.') (by decide) c

/-- Folding leaves the dots where they are, so that the pieces are folded one by one. -/
theorem pieces_foldAscii (cs : List Char) :
    pieces (· == '.') (foldAscii cs) = (pieces (· == '.') cs).map foldAscii := by
  induction cs with
  | nil => rfl
  | cons c cs ih =>
    have hcons : foldAscii (c :: cs) = c.toLower :: foldAscii cs := rfl
    rw [hcons, pieces, pieces, ih, toLower_beq_dot]
    split
    · rfl
    · cases pieces (· == '.') cs <;> rfl

/-- Texts that agree have segments that agree. -/
theorem agree_segments {a b : String} (h : agree a b = true) :
    List.Forall₂ (fun x y => agree x y = true) (segments a) (segments b) := by
  have hfolded : (pieces (· == '.') a.toList).map foldAscii =
      (pieces (· == '.') b.toList).map foldAscii := by
    rw [← pieces_foldAscii, ← pieces_foldAscii, agree_iff.1 h]
  rw [← List.forall₂_eq_eq_eq, List.forall₂_map_left_iff, List.forall₂_map_right_iff] at hfolded
  unfold segments
  rw [List.forall₂_map_left_iff, List.forall₂_map_right_iff]
  refine hfolded.imp fun p q hpq => ?_
  rw [agree_iff, String.toList_ofList, String.toList_ofList]
  exact hpq

/-- A text that agrees with one without dots has none. -/
theorem dot_notMem_of_agree {a b : String} (h : agree a b = true) (hb : '.' ∉ b.toList) :
    '.' ∉ a.toList := by
  intro ha
  have hfold : '.' ∈ foldAscii b.toList := agree_iff.1 h ▸ List.mem_map_of_mem ha
  obtain ⟨c, hc, hdot⟩ := List.mem_map.1 hfold
  have hself := toLower_beq_dot c
  rw [hdot, beq_self_eq_true] at hself
  exact hb (beq_iff_eq.1 hself.symm ▸ hc)

/-- A text that agrees with one that is not empty is not empty. -/
theorem ne_empty_of_agree {a b : String} (h : agree a b = true) (hb : b ≠ "") : a ≠ "" := by
  rintro rfl
  have hfold : foldAscii b.toList = [] := (agree_iff.1 h).symm
  exact hb (String.toList_eq_nil_iff.1 (List.map_eq_nil_iff.1 hfold))

end RecordQuery.Text
