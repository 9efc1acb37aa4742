import RecordQuery.Text.LowerCase

/-!
# Lower case in place

A text that stands inside another one has a lower-case form there (`lowerBetween`), which may differ
from the one that it has alone.  Only the capital sigma sees its neighbours, so there are two ways
to differ: a sigma that is final alone is not at the end of a word in its place (`losesFinal`), or a
sigma that begins the text ends a word there (`gainsFinal`).  In all other places the form is kept
(`lowerBetween_eq_lowerChars_iff`).
-/

namespace RecordQuery.Text

/-! ### The form in place -/

/-- The lower-case form of a text that stands between the reversed text `before` and `after`. -/
def lowerBetween (before : List Char) : List Char → List Char → List Char
  | [], _ => []
  | c :: cs, after => lowerAt before c (cs ++ after) ++ lowerBetween (c :: before) cs after

/-- The lower-case form of a text is made of the forms of its parts in their places. -/
theorem lowerFrom_append (before cs after : List Char) :
    lowerFrom before (cs ++ after) =
      lowerBetween before cs after ++ lowerFrom (cs.reverse ++ before) after := by
  induction cs generalizing before with
  | nil => rfl
  | cons c cs ih =>
    rw [List.cons_append, lowerFrom, ih, lowerBetween, List.append_assoc, List.reverse_cons,
      List.append_assoc, List.singleton_append]

/-- At the end of a text the form in place is the form of the rest. -/
theorem lowerBetween_nil (before cs : List Char) :
    lowerBetween before cs [] = lowerFrom before cs := by
  have happend := lowerFrom_append before cs []
  rw [List.append_nil, lowerFrom, List.append_nil] at happend
  exact happend.symm

/-- The number of characters of a form does not depend on the place. -/
theorem length_lowerAt (before before' : List Char) (c : Char) (after after' : List Char) :
    (lowerAt before c after).length = (lowerAt before' c after').length := by
  unfold lowerAt
  split
  · rfl
  · split <;> rfl

theorem length_lowerBetween (before before' cs after after' : List Char) :
    (lowerBetween before cs after).length = (lowerBetween before' cs after').length := by
  induction cs generalizing before before' with
  | nil => rfl
  | cons c cs ih =>
    rw [lowerBetween, lowerBetween, List.length_append, List.length_append,
      length_lowerAt before before' c (cs ++ after) (cs ++ after'), ih (c :: before) (c :: before')]

/-! ### Sigmas -/

/-- A capital sigma between the reversed text `before` and `after` is at the end of a word. -/
def isFinal (before after : List Char) : Bool := meetsCased before && !meetsCased after

/-- The form of a character is the same in two places unless it is a sigma that is at the end of a
word in one of them only. -/
theorem lowerAt_eq_iff {before before' : List Char} {c : Char} {after after' : List Char} :
    lowerAt before c after = lowerAt before' c after' ↔
      (c = 'Σ' → isFinal before after = isFinal before' after') := by
  unfold lowerAt isFinal
  by_cases hc : c = 'Σ'
  · subst hc
    cases meetsCased before && !meetsCased after <;>
      cases meetsCased before' && !meetsCased after' <;> simp
  · simp [hc]

/-- The form of a text is the same in two places when each of its sigmas is at the end of a word in
both or in neither. -/
theorem lowerBetween_eq_iff {before before' cs after after' : List Char} :
    lowerBetween before cs after = lowerBetween before' cs after' ↔
      ∀ front back, cs = front ++ 'Σ' :: back →
        isFinal (front.reverse ++ before) (back ++ after) =
          isFinal (front.reverse ++ before') (back ++ after') := by
  induction cs generalizing before before' with
  | nil => simp [lowerBetween]
  | cons c cs ih =>
    have hlength := length_lowerAt before before' c (cs ++ after) (cs ++ after')
    have hparts : lowerBetween before (c :: cs) after = lowerBetween before' (c :: cs) after' ↔
        lowerAt before c (cs ++ after) = lowerAt before' c (cs ++ after') ∧
          lowerBetween (c :: before) cs after = lowerBetween (c :: before') cs after' :=
      ⟨fun h => List.append_inj h hlength, fun ⟨hhead, htail⟩ => by
        rw [lowerBetween, lowerBetween, hhead, htail]⟩
    rw [hparts, lowerAt_eq_iff, ih]
    constructor
    · rintro ⟨hhead, htail⟩ front back hsplit
      cases front with
      | nil =>
        obtain ⟨rfl, rfl⟩ := List.cons.inj hsplit
        exact hhead rfl
      | cons d front =>
        obtain ⟨rfl, rfl⟩ := List.cons.inj hsplit
        simpa using htail front back rfl
    · intro h
      refine ⟨?_, ?_⟩
      · rintro rfl
        exact h [] cs rfl
      · rintro front back rfl
        simpa using h (c :: front) back rfl

/-! ### Kept forms -/

/-- Ignorable characters are looked through, and the first one that is not decides. -/
theorem meetsCased_append (cs rest : List Char) :
    meetsCased (cs ++ rest) =
      if cs.all isCaseIgnorable then meetsCased rest else meetsCased cs := by
  induction cs with
  | nil => rfl
  | cons c cs ih =>
    unfold meetsCased at ih ⊢
    cases hc : isCaseIgnorable c <;> simp [hc, ih]

/-- Among ignorable characters there is no cased one. -/
theorem meetsCased_of_all {cs : List Char} (h : cs.all isCaseIgnorable = true) :
    meetsCased cs = false := by
  have happend := meetsCased_append cs []
  rw [List.append_nil, h] at happend
  exact happend

/-- The text ends, ignorable characters aside, on a sigma that is final alone, and a cased character
comes after. -/
def losesFinal (cs after : List Char) : Bool :=
  match cs.reverse.dropWhile isCaseIgnorable with
  | 'Σ' :: front => meetsCased front && meetsCased after
  | _ => false

/-- The text begins, ignorable characters aside, with a sigma that ends a word between the reversed
text `before` and `after`. -/
def gainsFinal (before cs after : List Char) : Bool :=
  match cs.dropWhile isCaseIgnorable with
  | 'Σ' :: back => isFinal before (back ++ after)
  | _ => false

/-- The lower-case form of a text between `before` and `after` is the one that it has alone. -/
def keepsForm (before cs after : List Char) : Bool :=
  !(losesFinal cs after || gainsFinal before.reverse cs after)

/-- What comes first, ignorable characters aside. -/
theorem dropWhile_eq_sigma_iff {cs back : List Char} :
    cs.dropWhile isCaseIgnorable = 'Σ' :: back ↔
      ∃ front, cs = front ++ 'Σ' :: back ∧ front.all isCaseIgnorable = true := by
  have hsigma : isCaseIgnorable 'Σ' = false := by decide +kernel
  constructor
  · intro h
    refine ⟨cs.takeWhile isCaseIgnorable, ?_, List.all_takeWhile⟩
    rw [← h, List.takeWhile_append_dropWhile]
  · rintro ⟨front, rfl, hfront⟩
    rw [List.dropWhile_append_of_pos (List.all_eq_true.1 hfront), List.dropWhile_cons_of_neg]
    simp [hsigma]

theorem losesFinal_iff {cs after : List Char} :
    losesFinal cs after = true ↔ ∃ front back, cs = front ++ 'Σ' :: back ∧
      back.all isCaseIgnorable = true ∧ meetsCased front.reverse = true ∧
        meetsCased after = true := by
  unfold losesFinal
  constructor
  · intro h
    split at h
    · next front hdrop =>
      obtain ⟨back, hcs, hback⟩ := dropWhile_eq_sigma_iff.1 hdrop
      obtain ⟨hfront, hafter⟩ := Bool.and_eq_true_iff.1 h
      refine ⟨front.reverse, back.reverse, ?_, ?_, ?_, hafter⟩
      · rw [← List.reverse_reverse cs, hcs]
        simp
      · rw [List.all_reverse]
        exact hback
      · rw [List.reverse_reverse]
        exact hfront
    · cases h
  · rintro ⟨front, back, rfl, hback, hfront, hafter⟩
    have hdrop : (front ++ 'Σ' :: back).reverse.dropWhile isCaseIgnorable =
        'Σ' :: front.reverse := by
      refine dropWhile_eq_sigma_iff.2 ⟨back.reverse, by simp, ?_⟩
      rw [List.all_reverse]
      exact hback
    rw [hdrop]
    exact Bool.and_eq_true_iff.2 ⟨hfront, hafter⟩

theorem gainsFinal_iff {before cs after : List Char} :
    gainsFinal before cs after = true ↔ ∃ front back, cs = front ++ 'Σ' :: back ∧
      front.all isCaseIgnorable = true ∧ isFinal before (back ++ after) = true := by
  unfold gainsFinal
  constructor
  · intro h
    split at h
    · next back hdrop =>
      obtain ⟨front, hcs, hfront⟩ := dropWhile_eq_sigma_iff.1 hdrop
      exact ⟨front, back, hcs, hfront, h⟩
    · cases h
  · rintro ⟨front, back, hcs, hfront, hfinal⟩
    rw [dropWhile_eq_sigma_iff.2 ⟨front, hcs, hfront⟩]
    exact hfinal

/-- A sigma of a text is at the end of a word in its place as it is alone, unless the place takes
this away from it or gives it. -/
theorem isFinal_between_iff {before front back after : List Char} :
    isFinal (front.reverse ++ before) (back ++ after) = isFinal front.reverse back ↔
      ¬ (back.all isCaseIgnorable = true ∧ meetsCased front.reverse = true ∧
          meetsCased after = true) ∧
        ¬ (front.all isCaseIgnorable = true ∧ isFinal before (back ++ after) = true) := by
  unfold isFinal
  rw [meetsCased_append, meetsCased_append, List.all_reverse]
  cases hfront : front.all isCaseIgnorable with
  | true =>
    have hnone : meetsCased front.reverse = false := meetsCased_of_all (by rwa [List.all_reverse])
    simp [hnone]
  | false =>
    cases hback : back.all isCaseIgnorable with
    | true => simp [meetsCased_of_all hback]
    | false => simp

/-- Between two texts a text has the lower-case form that it has alone exactly when its sigmas are
at the end of a word there as they are alone. -/
theorem lowerBetween_eq_lowerChars_iff {before cs after : List Char} :
    lowerBetween before.reverse cs after = lowerChars cs ↔ keepsForm before cs after = true := by
  rw [lowerChars, ← lowerBetween_nil, lowerBetween_eq_iff, keepsForm, Bool.not_eq_true',
    Bool.or_eq_false_iff, ← Bool.not_eq_true, ← Bool.not_eq_true, losesFinal_iff, gainsFinal_iff]
  simp only [List.append_nil, isFinal_between_iff]
  constructor
  · intro h
    refine ⟨?_, ?_⟩
    · rintro ⟨front, back, hcs, hloses⟩
      exact (h front back hcs).1 hloses
    · rintro ⟨front, back, hcs, hgains⟩
      exact (h front back hcs).2 hgains
  · rintro ⟨hloses, hgains⟩ front back hcs
    exact ⟨fun h => hloses ⟨front, back, hcs, h⟩, fun h => hgains ⟨front, back, hcs, h⟩⟩

/-- A text without a capital sigma keeps its form everywhere. -/
theorem keepsForm_of_not_mem {cs : List Char} (h : 'Σ' ∉ cs) (before after : List Char) :
    keepsForm before cs after = true := by
  rw [← lowerBetween_eq_lowerChars_iff, lowerChars, ← lowerBetween_nil, lowerBetween_eq_iff]
  rintro front back rfl
  exact absurd (List.mem_append_right front List.mem_cons_self) h

end RecordQuery.Text
