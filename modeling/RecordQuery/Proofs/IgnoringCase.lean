import RecordQuery.Predicate
import RecordQuery.Proofs.FinalSigma
import RecordQuery.Proofs.WordSearch

/-!
# Ignoring case

Case is ignored by comparing the lower-case forms of whole texts.  A text that finds its operand
still does so in lower case at a place where the operand has the lower-case form that it has alone
(`Comparison.Keeps`), which is always so when the operand is all of the text.  At other places a
capital sigma stands in the way: as the last letter of the operand, when the text goes on with a
letter, or as its first letter, when it ends a word of the text.  There the operand is lost
(`Comparison.holds_ignoringCase`).
-/

namespace RecordQuery

/-! ### Places in a text -/

namespace Comparison

/-- The comparisons that find their operand in a text: as all of it, inside it, or at an end. -/
def isFinding : Comparison → Bool
  | .eq | .contains | .startsWith | .endsWith => true
  | _ => false

/-- The comparison accepts the operand between the two parts of a text. -/
def FindsBetween (op : Comparison) (before after : List Char) : Prop :=
  match op with
  | .eq => before = [] ∧ after = []
  | .startsWith => before = []
  | .endsWith => after = []
  | .contains => True
  | _ => False

/-- The operand stands in the text where the comparison accepts it, at a place that keeps its
lower-case form. -/
def Keeps (op : Comparison) (text operand : List Char) : Prop :=
  ∃ before after, op.FindsBetween before after ∧ text = before ++ operand ++ after ∧
    Text.keepsForm before operand after = true

/-- A text occurs inside another one when it stands between two parts of it. -/
theorem occurs_iff {part cs : List Char} :
    occurs part cs = true ↔ ∃ before after, cs = before ++ part ++ after := by
  induction cs with
  | nil =>
    rw [occurs, List.isEmpty_iff]
    constructor
    · rintro rfl
      exact ⟨[], [], rfl⟩
    · rintro ⟨before, after, h⟩
      exact (List.append_eq_nil_iff.1 (List.append_eq_nil_iff.1 h.symm).1).2
  | cons c cs ih =>
    rw [occurs, Bool.or_eq_true, ih, List.isPrefixOf_iff_prefix]
    constructor
    · rintro (⟨after, h⟩ | ⟨before, after, rfl⟩)
      · exact ⟨[], after, h.symm⟩
      · exact ⟨c :: before, after, rfl⟩
    · rintro ⟨before, after, h⟩
      cases before with
      | nil => exact .inl ⟨after, h.symm⟩
      | cons d before =>
        obtain ⟨rfl, rfl⟩ := List.cons.inj h
        exact .inr ⟨before, after, rfl⟩

/-- A text is accepted when the operand stands in it where the comparison accepts it. -/
theorem holdsText_iff {op : Comparison} (hop : op.isFinding = true) {actual operand : String} :
    op.holdsText actual operand = true ↔ ∃ before after, op.FindsBetween before after ∧
      actual.toList = before ++ operand.toList ++ after := by
  cases op with
  | eq =>
    have heq : holdsText .eq actual operand = (compare actual operand == .eq) := rfl
    rw [heq, beq_iff_eq, Std.compare_eq_iff_eq, ← String.toList_inj]
    constructor
    · intro h
      exact ⟨[], [], ⟨rfl, rfl⟩, by simpa using h⟩
    · rintro ⟨_, _, ⟨rfl, rfl⟩, h⟩
      simpa using h
  | contains =>
    have hcontains : holdsText .contains actual operand =
        occurs operand.toList actual.toList := rfl
    rw [hcontains, occurs_iff]
    simp [FindsBetween]
  | startsWith =>
    have hinitial : holdsText .startsWith actual operand =
        operand.toList.isPrefixOf actual.toList := rfl
    rw [hinitial, List.isPrefixOf_iff_prefix]
    constructor
    · rintro ⟨after, h⟩
      exact ⟨[], after, rfl, h.symm⟩
    · rintro ⟨_, after, rfl, h⟩
      exact ⟨after, h.symm⟩
  | endsWith =>
    have hsuffix : holdsText .endsWith actual operand =
        operand.toList.isSuffixOf actual.toList := rfl
    rw [hsuffix, List.isSuffixOf_iff_suffix]
    constructor
    · rintro ⟨before, h⟩
      exact ⟨before, [], rfl, by rw [List.append_nil, h]⟩
    · rintro ⟨before, _, rfl, h⟩
      exact ⟨before, by rw [h, List.append_nil]⟩
  | _ => cases hop

end Comparison

/-! ### Forms of places -/

namespace Text

theorem toList_lower (s : String) : (lower s).toList = lowerChars s.toList := String.toList_ofList

/-- The lower-case form of a text is made of the forms of three parts. -/
theorem lowerChars_append (before cs after : List Char) :
    lowerChars (before ++ cs ++ after) =
      lowerBetween [] before (cs ++ after) ++ lowerBetween before.reverse cs after ++
        lowerFrom (cs.reverse ++ before.reverse) after := by
  rw [lowerChars, List.append_assoc, lowerFrom_append, lowerFrom_append, List.append_assoc,
    List.append_nil]

end Text

namespace Comparison

open Text

variable {op : Comparison} {before after : List Char}

/-- What a comparison accepts around its operand it accepts in lower case too. -/
theorem FindsBetween.lower (h : op.FindsBetween before after) (cs : List Char) :
    op.FindsBetween (lowerBetween [] before (cs ++ after))
      (lowerFrom (cs.reverse ++ before.reverse) after) := by
  cases op with
  | eq =>
    obtain ⟨rfl, rfl⟩ := h
    exact ⟨rfl, rfl⟩
  | contains => trivial
  | startsWith =>
    obtain rfl := h
    rfl
  | endsWith =>
    obtain rfl := h
    rfl
  | _ => exact h.elim

/-- A comparison that finds its operand at a place that keeps its form still finds it there when
case is ignored. -/
theorem holdsText_lower_of_keeps (hop : op.isFinding = true) {actual operand : String}
    (hkeeps : op.Keeps actual.toList operand.toList) :
    op.holdsText (lower actual) (lower operand) = true := by
  obtain ⟨before, after, hfinds, hplace, hform⟩ := hkeeps
  refine (holdsText_iff hop).2 ⟨_, _, hfinds.lower operand.toList, ?_⟩
  rw [toList_lower, toList_lower, hplace, lowerChars_append,
    lowerBetween_eq_lowerChars_iff.2 hform]

/-- All comparisons but containment have one place only, so that ignoring case loses the operand
where the place does not keep its form. -/
theorem keeps_of_holdsText_lower (hop : op.isFinding = true) (hcontains : op ≠ .contains)
    {actual operand : String} (hholds : op.holdsText actual operand = true)
    (h : op.holdsText (lower actual) (lower operand) = true) :
    op.Keeps actual.toList operand.toList := by
  obtain ⟨before, after, hfinds, hplace⟩ := (holdsText_iff hop).1 hholds
  refine ⟨before, after, hfinds, hplace, lowerBetween_eq_lowerChars_iff.1 ?_⟩
  obtain ⟨front, back, hfindsLower, hlower⟩ := (holdsText_iff hop).1 h
  rw [toList_lower, toList_lower, hplace, lowerChars_append] at hlower
  have hlength := length_lowerBetween before.reverse [] operand.toList after []
  rw [lowerBetween_nil, ← lowerChars] at hlength
  cases op with
  | eq =>
    obtain ⟨rfl, rfl⟩ := hfinds
    obtain ⟨rfl, rfl⟩ := hfindsLower
    exact (List.append_inj hlower hlength).1
  | startsWith =>
    obtain rfl := hfinds
    obtain rfl := hfindsLower
    exact (List.append_inj hlower hlength).1
  | endsWith =>
    obtain rfl := hfinds
    obtain rfl := hfindsLower
    simp only [lowerFrom, List.append_nil] at hlower
    exact (List.append_inj' hlower hlength).2
  | contains => exact absurd rfl hcontains
  | _ => cases hop

/-- A text that is equal to its operand keeps its form. -/
theorem keeps_of_eq {actual operand : String} (h : Comparison.eq.holdsText actual operand = true) :
    Comparison.eq.Keeps actual.toList operand.toList := by
  obtain ⟨_, _, ⟨rfl, rfl⟩, hplace⟩ := (holdsText_iff rfl).1 h
  refine ⟨[], [], ⟨rfl, rfl⟩, hplace, lowerBetween_eq_lowerChars_iff.1 ?_⟩
  rw [List.reverse_nil, lowerBetween_nil, lowerChars]

/-! ### Containment -/

/-- There is a letter other than any given character. -/
theorem exists_letter (o : Option Char) : ∃ x : Char, (x = 'a' ∨ x = 'b') ∧ o ≠ some x := by
  by_cases h : o = some 'a'
  · exact ⟨'b', .inr rfl, by rw [h]; simp⟩
  · exact ⟨'a', .inl rfl, h⟩

/-- A letter is cased, and its own lower-case form. -/
theorem meetsCased_letter {x : Char} (hx : x = 'a' ∨ x = 'b') :
    meetsCased [x] = true ∧ ∀ before after, lowerAt before x after = [x] := by
  have hcased : meetsCased ['a'] = true ∧ meetsCased ['b'] = true := by decide +kernel
  rcases hx with rfl | rfl
  · exact ⟨hcased.1, fun _ _ => rfl⟩
  · exact ⟨hcased.2, fun _ _ => rfl⟩

/-- A text that occurs in a different one of the same length with one more character behind it ends
on that character. -/
theorem getLast?_of_occurs {part cs : List Char} {x : Char} (hlength : cs.length = part.length)
    (hne : cs ≠ part) (h : occurs part (cs ++ [x]) = true) : part.getLast? = some x := by
  obtain ⟨before, after, hsplit⟩ := occurs_iff.1 h
  have hpart : part ≠ [] := by
    rintro rfl
    exact hne (List.length_eq_zero_iff.1 hlength)
  have hsum := congrArg List.length hsplit
  simp only [List.length_append, List.length_singleton] at hsum
  cases after with
  | nil =>
    have hlast := congrArg List.getLast? hsplit
    rw [List.append_nil, List.getLast?_append, List.getLast?_append,
      List.getLast?_eq_some_getLast hpart] at hlast
    rw [List.getLast?_eq_some_getLast hpart]
    exact hlast.symm
  | cons y after =>
    have hbefore : before = [] := List.length_eq_zero_iff.1 (by simp at hsum; omega)
    subst hbefore
    exact absurd (List.append_inj hsplit hlength).1 hne

/-- A text that occurs in a different one of the same length with one more character in front of it
begins with that character. -/
theorem head?_of_occurs {part cs : List Char} {x : Char} (hlength : cs.length = part.length)
    (hne : cs ≠ part) (h : occurs part (x :: cs) = true) : part.head? = some x := by
  obtain ⟨before, after, hsplit⟩ := occurs_iff.1 h
  cases before with
  | nil =>
    cases part with
    | nil => exact absurd (List.length_eq_zero_iff.1 hlength) hne
    | cons y part =>
      obtain ⟨rfl, -⟩ := List.cons.inj hsplit
      rfl
  | cons y before =>
    have hrest : cs = before ++ part ++ after := (List.cons.inj hsplit).2
    have hsum := congrArg List.length hrest
    rw [List.length_append, List.length_append] at hsum
    obtain rfl : before = [] := List.length_eq_zero_iff.1 (by omega)
    obtain rfl : after = [] := List.length_eq_zero_iff.1 (by omega)
    exact absurd (by simpa using hrest) hne

section Contained

variable {operand : String} {x : Char}

/-- An operand that is found in lower case with a letter behind it, other than the one that it ends
on, keeps its form there. -/
theorem keepsForm_of_contains_append (hx : x = 'a' ∨ x = 'b')
    (hlast : (lowerChars operand.toList).getLast? ≠ some x)
    (h : Comparison.contains.holdsText (lower (String.ofList (operand.toList ++ [x])))
      (lower operand) = true) : keepsForm [] operand.toList [x] = true := by
  have hform : (lower (String.ofList (operand.toList ++ [x]))).toList =
      lowerBetween [] operand.toList [x] ++ [x] := by
    rw [toList_lower, String.toList_ofList, lowerChars, lowerFrom_append, lowerFrom, lowerFrom,
      (meetsCased_letter hx).2, List.append_nil]
  have hoccurs : occurs (lower operand).toList
      (lower (String.ofList (operand.toList ++ [x]))).toList = true := h
  rw [hform, toList_lower] at hoccurs
  have hlength := length_lowerBetween [] [] operand.toList [x] []
  rw [lowerBetween_nil, ← lowerChars] at hlength
  rw [← lowerBetween_eq_lowerChars_iff]
  exact Decidable.byContradiction fun hne => hlast (getLast?_of_occurs hlength hne hoccurs)

/-- An operand that is found in lower case with a letter in front of it, other than the one that it
begins with, keeps its form there. -/
theorem keepsForm_of_contains_cons (hx : x = 'a' ∨ x = 'b')
    (hhead : (lowerChars operand.toList).head? ≠ some x)
    (h : Comparison.contains.holdsText (lower (String.ofList (x :: operand.toList)))
      (lower operand) = true) : keepsForm [x] operand.toList [] = true := by
  have hform : (lower (String.ofList (x :: operand.toList))).toList =
      x :: lowerBetween [x] operand.toList [] := by
    rw [toList_lower, String.toList_ofList, lowerChars, lowerFrom, (meetsCased_letter hx).2,
      List.singleton_append, lowerBetween_nil]
  have hoccurs : occurs (lower operand).toList
      (lower (String.ofList (x :: operand.toList))).toList = true := h
  rw [hform, toList_lower] at hoccurs
  have hlength := length_lowerBetween [x] [] operand.toList [] []
  rw [lowerBetween_nil [] operand.toList, ← lowerChars] at hlength
  rw [← lowerBetween_eq_lowerChars_iff]
  exact Decidable.byContradiction fun hne => hhead (head?_of_occurs hlength hne hoccurs)

end Contained

/-- When ignoring case never loses an operand that a text contains, all places keep its form. -/
theorem keepsForm_of_forall_contains {operand : String}
    (h : ∀ text : String, Comparison.contains.holdsText text operand = true →
      Comparison.contains.holdsText (lower text) (lower operand) = true)
    (before after : List Char) : keepsForm before operand.toList after = true := by
  -- A place that does not keep the form does not do so either with a single letter on one side.
  obtain ⟨x, hx, hlast⟩ := exists_letter (lowerChars operand.toList).getLast?
  obtain ⟨y, hy, hhead⟩ := exists_letter (lowerChars operand.toList).head?
  have hbehind := keepsForm_of_contains_append hx hlast <| h _ <|
    (holdsText_iff rfl).2 ⟨[], [x], trivial, by rw [String.toList_ofList, List.nil_append]⟩
  have hfront := keepsForm_of_contains_cons hy hhead <| h _ <|
    (holdsText_iff rfl).2 ⟨[y], [], trivial, by rw [String.toList_ofList, List.append_nil]; rfl⟩
  rw [keepsForm, Bool.not_eq_true', Bool.or_eq_false_iff] at hbehind hfront ⊢
  refine ⟨?_, ?_⟩
  · rw [← Bool.not_eq_true, losesFinal_iff]
    rintro ⟨front, back, hsplit, hback, hcased, -⟩
    refine Bool.eq_false_iff.1 hbehind.1 (losesFinal_iff.2 ?_)
    exact ⟨front, back, hsplit, hback, hcased, (meetsCased_letter hx).1⟩
  · rw [← Bool.not_eq_true, gainsFinal_iff]
    rintro ⟨front, back, hsplit, hignorable, hfinal⟩
    refine Bool.eq_false_iff.1 hfront.2 (gainsFinal_iff.2 ⟨front, back, hsplit, hignorable, ?_⟩)
    obtain ⟨-, hbehind⟩ := Bool.and_eq_true_iff.1 hfinal
    rw [Bool.not_eq_true', meetsCased_append] at hbehind
    have hback : meetsCased back = false := by
      cases hall : back.all isCaseIgnorable with
      | true => exact meetsCased_of_all hall
      | false => simpa [hall] using hbehind
    have hletter : meetsCased [y].reverse = true := (meetsCased_letter hy).1
    rw [List.append_nil, isFinal, hletter, hback]
    rfl

/-! ### Values -/

/-- Two texts are compared in the case that counts. -/
theorem holdsValue_text (hop : op.isFinding = true) (actual operand : String) (ignoreCase : Bool) :
    op.holdsValue (.scalar (.string actual)) (.string operand) ignoreCase =
      op.holdsText (folded ignoreCase actual) (folded ignoreCase operand) := by
  cases op with
  | eq | contains | startsWith | endsWith => rfl
  | _ => cases hop

/-- An operand is never lost by containment exactly when every place keeps its form. -/
theorem forall_holds_contains_iff {s : String} :
    (∀ text, Comparison.contains.holdsValue (.scalar (.string text)) (.string s) false = true →
      Comparison.contains.holdsValue (.scalar (.string text)) (.string s) true = true) ↔
        ∀ before after, keepsForm before s.toList after = true := by
  have hcontains : Comparison.contains.isFinding = true := rfl
  simp only [holdsValue_text hcontains]
  constructor
  · exact keepsForm_of_forall_contains
  · intro hkeeps text hholds
    obtain ⟨before, after, hfinds, hplace⟩ := (holdsText_iff hcontains).1 hholds
    exact holdsText_lower_of_keeps hcontains ⟨before, after, hfinds, hplace, hkeeps before after⟩

end Comparison

/-! ### Full-text search -/

namespace TextSearch

open Text

/-- A term of one token matches the texts in which some word begins with it in lower case. -/
theorem simple_of_token {term : String} {token : List Char}
    (hterm : words isBlank term.toList = [token]) (text language : String) :
    simple text language term =
      (words (fun c => !isAlphanumeric c) text.toList).any fun word =>
        (lowerChars token).isPrefixOf (lowerChars word) := by
  rw [Bool.eq_iff_iff, simple_iff, hterm, List.forall_mem_singleton]
  simp [Begins, mem_words_iff]

/-- A word that goes on after a token begins with it in lower case when the token keeps its form
there, and only then. -/
theorem isPrefixOf_lowerChars (token after : List Char) :
    (lowerChars token).isPrefixOf (lowerChars (token ++ after)) = keepsForm [] token after := by
  rw [Bool.eq_iff_iff, ← lowerBetween_eq_lowerChars_iff, List.isPrefixOf_iff_prefix]
  have hform : lowerChars (token ++ after) =
      lowerBetween [] token after ++ lowerFrom (token.reverse ++ []) after :=
    lowerFrom_append [] token after
  have hlength := length_lowerBetween [] [] token after []
  rw [lowerBetween_nil, ← lowerChars] at hlength
  rw [hform]
  constructor
  · rintro ⟨rest, hrest⟩
    exact (List.append_inj hrest hlength.symm).1.symm
  · intro hkeeps
    exact ⟨_, congrArg (· ++ _) hkeeps.symm⟩

end TextSearch

/-! ### Widening -/

open Text

/-- A text in which the term is found is also found in any case when the term keeps its form there,
which it does when it is all of the text, and by the beginning and by the end exactly then.  By
containment some text is lost exactly when some place does not keep the form of the term.

In a full-text search a token that begins a word is found when the word goes on in a way that keeps
its form, and exactly then when there is no other word. -/
theorem Comparison.holds_ignoringCase (text term : String) :
    (∀ (op : Comparison) (target : Target) (r : Record) (search : TextSearch),
      op.isFinding = true → target.read r = .scalar (.string text) →
        (Predicate.compare target op (.string term) false).holds search r = true →
          (op = .eq → op.Keeps text.toList term.toList) ∧
          (op.Keeps text.toList term.toList →
            (Predicate.compare target op (.string term) true).holds search r = true) ∧
          (op ≠ .contains →
            (Predicate.compare target op (.string term) true).holds search r = true →
              op.Keeps text.toList term.toList)) ∧
      ((∀ s, Comparison.contains.holdsValue (.scalar (.string s)) (.string term) false = true →
        Comparison.contains.holdsValue (.scalar (.string s)) (.string term) true = true) ↔
          ∀ before after, keepsForm before term.toList after = true) ∧
      ∀ (language : String) (token after : List Char), words isBlank term.toList = [token] →
        (token ++ after ∈ words (fun c => !isAlphanumeric c) text.toList →
          keepsForm [] token after = true → TextSearch.simple text language term = true) ∧
        (words (fun c => !isAlphanumeric c) text.toList = [token ++ after] →
          TextSearch.simple text language term = keepsForm [] token after) := by
  refine ⟨?_, forall_holds_contains_iff, ?_⟩
  · intro op target r search hop htext hholds
    rw [Predicate.holds, htext, holdsValue_text hop] at hholds ⊢
    refine ⟨?_, holdsText_lower_of_keeps hop, fun hcontains => ?_⟩
    · rintro rfl
      exact keeps_of_eq hholds
    · exact keeps_of_holdsText_lower hop hcontains hholds
  · intro language token after hterm
    rw [TextSearch.simple_of_token hterm]
    refine ⟨?_, ?_⟩
    · intro hword hkeeps
      refine List.any_eq_true.2 ⟨token ++ after, hword, ?_⟩
      rw [TextSearch.isPrefixOf_lowerChars, hkeeps]
    · intro hword
      rw [hword, List.any_cons, List.any_nil, Bool.or_false, TextSearch.isPrefixOf_lowerChars]

/-- A record with a name of several sigmas. -/
def odysseus : Record where
  identity := 0
  entity := ⟨0, "Hero"⟩
  access := .inPlace
  fields := [("name", .scalar (.string "ΟΔΥΣΣΕΥΣ"))]

/-- The name is found in any case as a whole, by a beginning that keeps its form and in a search for
this beginning, and a part without sigmas is never lost. -/
theorem Comparison.holds_ignoringCase_odysseus :
    (Predicate.compare (.field ["name"]) .eq (.string "ΟΔΥΣΣΕΥΣ") true).holds .simple
        odysseus = true ∧
      (Predicate.compare (.field ["name"]) .startsWith (.string "ΟΔΥ") true).holds .simple
        odysseus = true ∧
      (∀ s, Comparison.contains.holdsValue (.scalar (.string s)) (.string "ΔΥ") false = true →
        Comparison.contains.holdsValue (.scalar (.string s)) (.string "ΔΥ") true = true) ∧
      TextSearch.simple "ΟΔΥΣΣΕΥΣ" "el" "ΟΔΥ" = true := by
  refine ⟨?_, ?_, ?_, ?_⟩
  · obtain ⟨hkeeps, hholds, -⟩ := (holds_ignoringCase "ΟΔΥΣΣΕΥΣ" "ΟΔΥΣΣΕΥΣ").1 .eq (.field ["name"])
      odysseus .simple rfl rfl (by decide)
    exact hholds (hkeeps rfl)
  · obtain ⟨-, hholds, -⟩ := (holds_ignoringCase "ΟΔΥΣΣΕΥΣ" "ΟΔΥ").1 .startsWith (.field ["name"])
      odysseus .simple rfl rfl (by decide)
    exact hholds ⟨[], "ΣΣΕΥΣ".toList, rfl, by decide +kernel, by decide +kernel⟩
  · exact (holds_ignoringCase "ΟΔΥΣΣΕΥΣ" "ΔΥ").2.1.2 (keepsForm_of_not_mem (by decide))
  · exact ((holds_ignoringCase "ΟΔΥΣΣΕΥΣ" "ΟΔΥ").2.2 "el" "ΟΔΥ".toList "ΣΣΕΥΣ".toList
      (by decide +kernel)).1 (by decide +kernel) (by decide +kernel)

/-- Ignoring case loses the name by a beginning, a part and an end with a sigma that does not keep
its form there, and a search for the beginning does not find the name at all. -/
theorem Comparison.not_holds_ignoringCase_odysseus :
    (∀ op ∈ [Comparison.startsWith, .contains],
      (Predicate.compare (.field ["name"]) op (.string "ΟΔΥΣ") false).holds .simple odysseus =
          true ∧
        (Predicate.compare (.field ["name"]) op (.string "ΟΔΥΣ") true).holds .simple odysseus =
          false) ∧
      (Predicate.compare (.field ["name"]) .endsWith (.string "Σ") false).holds .simple odysseus =
        true ∧
      (Predicate.compare (.field ["name"]) .endsWith (.string "Σ") true).holds .simple odysseus =
        false ∧
      words (fun c => !isAlphanumeric c) "ΟΔΥΣΣΕΥΣ".toList = ["ΟΔΥΣ".toList ++ "ΣΕΥΣ".toList] ∧
      TextSearch.simple "ΟΔΥΣΣΕΥΣ" "el" "ΟΔΥΣ" = false := by
  decide +kernel

end RecordQuery
