import Mathlib.Data.List.Basic
import RecordQuery.Operator

/-!
# The grammar of operators

The tokens of the comparisons fall into three groups: those that test for equality, those that ask
for an order and those that search a text.  All of them are operators.  A `*` may follow the first
and the last group, and `len` may precede the first two, never both at once (`Operator.Spells`).

This is the language that `Operator.ofText` accepts, apart from blanks around the text, and what it
reads is what is spelled (`Operator.ofText_grammar`).  A text is written again as it was read, with
`len` in small letters.
-/

namespace RecordQuery

/-! ### Tokens -/

namespace Comparison

/-- The tokens that test for equality. -/
def equalityTokens : List (String × Comparison) := [("==", .eq), ("!=", .ne)]

/-- The tokens that ask for an order. -/
def orderTokens : List (String × Comparison) := [(">=", .ge), ("<=", .le), (">", .gt), ("<", .lt)]

/-- The tokens that search a text. -/
def textTokens : List (String × Comparison) :=
  [("@=", .contains), ("_=", .startsWith), ("_-=", .endsWith), ("!@=", .notContains),
    ("!_=", .notStartsWith), ("!_-=", .notEndsWith)]

variable {token : String} {base : Comparison}

/-- A comparison is read from its text, and from no other one. -/
theorem ofText?_eq_some_iff : ofText? token = some base ↔ token = base.text := by
  constructor
  · intro h
    unfold ofText? at h
    have hbase := List.find?_some h
    exact (beq_iff_eq.1 hbase).symm
  · rintro rfl
    cases base <;> decide

/-- Every comparison has one token. -/
theorem mem_tokens_iff :
    (token, base) ∈ equalityTokens ++ orderTokens ++ textTokens ↔ token = base.text := by
  cases base <;> simp [equalityTokens, orderTokens, textTokens, text]

/-- The tokens that may be followed by a `*` ask for no order. -/
theorem mem_starred_iff :
    (token, base) ∈ equalityTokens ++ textTokens ↔ token = base.text ∧ base.isOrdering = false := by
  cases base <;> simp [equalityTokens, textTokens, text, isOrdering]

/-- The tokens that may be preceded by `len` search no text. -/
theorem mem_measured_iff :
    (token, base) ∈ equalityTokens ++ orderTokens ↔ token = base.text ∧ base.isText = false := by
  cases base <;> simp [equalityTokens, orderTokens, text, isText, isRelation]

end Comparison

namespace Operator

/-- A text spells an operator: a token alone, one for equality or for a text with a `*` behind it,
or one for equality or an order with `len` in front of it, in any case. -/
inductive Spells : List Char → Operator → Prop where
  | plain {token : String} {base : Comparison}
      (token_mem : (token, base) ∈
        Comparison.equalityTokens ++ Comparison.orderTokens ++ Comparison.textTokens) :
      Spells token.toList ⟨base, false, false⟩
  | ignoringCase {token : String} {base : Comparison}
      (token_mem : (token, base) ∈ Comparison.equalityTokens ++ Comparison.textTokens) :
      Spells (token.toList ++ ['*']) ⟨base, true, false⟩
  | length {a b c : Char} {token : String} {base : Comparison}
      (mark : Text.foldAscii [a, b, c] = ['l', 'e', 'n'])
      (token_mem : (token, base) ∈ Comparison.equalityTokens ++ Comparison.orderTokens) :
      Spells ([a, b, c] ++ token.toList) ⟨base, false, true⟩

variable {cs rest : List Char} {o : Operator}

/-! ### Marks -/

/-- The mark of a length is taken off the front of a text that has one. -/
theorem dropLength?_eq_some_iff : dropLength? cs = some rest ↔
    ∃ a b c, Text.foldAscii [a, b, c] = ['l', 'e', 'n'] ∧ cs = [a, b, c] ++ rest := by
  constructor
  · intro h
    unfold dropLength? at h
    split at h
    · next a b c rest' =>
      obtain ⟨hmark, hrest⟩ := Option.ite_none_right_eq_some.1 h
      exact ⟨a, b, c, beq_iff_eq.1 hmark, by rw [Option.some.inj hrest]; rfl⟩
    · cases h
  · rintro ⟨a, b, c, hmark, rfl⟩
    exact if_pos (beq_iff_eq.2 hmark)

/-- A star is taken off the end of a text that has one. -/
theorem dropStar?_eq_some_iff : dropStar? cs = some rest ↔ cs = rest ++ ['*'] := by
  unfold dropStar?
  rw [Option.ite_none_right_eq_some, beq_iff_eq]
  constructor
  · rintro ⟨hlast, hrest⟩
    rw [← Option.some.inj hrest]
    exact (List.dropLast_append_getLast? _ hlast).symm
  · rintro rfl
    exact ⟨List.getLast?_concat, congrArg some List.dropLast_concat⟩

/-- No token begins as the mark of a length does, with a star behind it or not. -/
theorem dropLength?_text (base : Comparison) :
    dropLength? base.text.toList = none ∧ dropLength? (base.text.toList ++ ['*']) = none := by
  cases base <;> decide

/-- No token ends in a star. -/
theorem dropStar?_text (base : Comparison) : dropStar? base.text.toList = none := by
  cases base <;> decide

/-! ### Reading -/

/-- The operator of a token with these modifiers, where it may carry them. -/
def ofParts? (length ignoreCase : Bool) (token : List Char) : Option Operator :=
  ((Comparison.ofText? (String.ofList token)).map fun base => ⟨base, ignoreCase, length⟩).filter
    isAllowed

/-- A token with modifiers is the operator of its comparison that may carry them. -/
theorem ofParts?_eq_some_iff {length ignoreCase : Bool} {token : List Char} :
    ofParts? length ignoreCase token = some o ↔ token = o.base.text.toList ∧
      o = ⟨o.base, ignoreCase, length⟩ ∧ o.isAllowed = true := by
  unfold ofParts?
  rw [Option.filter_eq_some_iff, Option.map_eq_some_iff]
  constructor
  · rintro ⟨⟨base, hbase, rfl⟩, hallowed⟩
    refine ⟨?_, rfl, hallowed⟩
    rw [← Comparison.ofText?_eq_some_iff.1 hbase, String.toList_ofList]
  · rintro ⟨rfl, ho, hallowed⟩
    refine ⟨⟨o.base, ?_, ho.symm⟩, hallowed⟩
    rw [String.ofList_toList]
    exact Comparison.ofText?_eq_some_iff.2 rfl

/-- An operator is read from what is left of the trimmed text without its marks. -/
theorem ofText?_eq (s : String) : ofText? s =
    match dropLength? (Text.trim s.toList) with
    | none =>
      match dropStar? (Text.trim s.toList) with
      | none => ofParts? false false (Text.trim s.toList)
      | some token => ofParts? false true token
    | some unmarked =>
      match dropStar? unmarked with
      | none => ofParts? true false unmarked
      | some token => ofParts? true true token := by
  unfold ofText? ofParts?
  cases hlength : dropLength? (Text.trim s.toList) with
  | none => cases hstar : dropStar? (Text.trim s.toList) <;> simp only [hlength, hstar]
  | some unmarked => cases hstar : dropStar? unmarked <;> simp only [hlength, hstar]

/-- What is read is spelled by the trimmed text. -/
theorem spells_of_ofText? {s : String} (h : ofText? s = some o) :
    Spells (Text.trim s.toList) o := by
  rw [ofText?_eq] at h
  split at h
  · split at h
    · obtain ⟨htoken, ho, -⟩ := ofParts?_eq_some_iff.1 h
      rw [htoken, ho]
      exact .plain (Comparison.mem_tokens_iff.2 rfl)
    · next token hstar =>
      obtain ⟨htoken, ho, hallowed⟩ := ofParts?_eq_some_iff.1 h
      rw [ho] at hallowed
      rw [dropStar?_eq_some_iff.1 hstar, htoken, ho]
      exact .ignoringCase (Comparison.mem_starred_iff.2 ⟨rfl, by simpa [isAllowed] using hallowed⟩)
  · next unmarked hlength =>
    obtain ⟨a, b, c, hmark, hcs⟩ := dropLength?_eq_some_iff.1 hlength
    split at h
    · obtain ⟨htoken, ho, hallowed⟩ := ofParts?_eq_some_iff.1 h
      rw [ho] at hallowed
      rw [hcs, htoken, ho]
      exact .length hmark (Comparison.mem_measured_iff.2 ⟨rfl, by simpa [isAllowed] using hallowed⟩)
    · -- Both marks at once are not allowed, whatever stands between them.
      obtain ⟨-, ho, hallowed⟩ := ofParts?_eq_some_iff.1 h
      rw [ho] at hallowed
      simp [isAllowed] at hallowed

/-- What a trimmed text spells is read. -/
theorem ofText?_of_spells {s : String} (h : Spells (Text.trim s.toList) o) :
    ofText? s = some o := by
  rw [ofText?_eq]
  generalize Text.trim s.toList = cs at h
  cases h with
  | @plain token base token_mem =>
    obtain rfl := Comparison.mem_tokens_iff.1 token_mem
    rw [(dropLength?_text base).1]
    dsimp only
    rw [dropStar?_text]
    exact ofParts?_eq_some_iff.2 ⟨rfl, rfl, rfl⟩
  | @ignoringCase token base token_mem =>
    obtain ⟨rfl, hordering⟩ := Comparison.mem_starred_iff.1 token_mem
    rw [(dropLength?_text base).2, dropStar?_eq_some_iff.2 rfl]
    exact ofParts?_eq_some_iff.2 ⟨rfl, rfl, by simpa [isAllowed] using hordering⟩
  | @length a b c token base mark token_mem =>
    obtain ⟨rfl, htext⟩ := Comparison.mem_measured_iff.1 token_mem
    rw [dropLength?_eq_some_iff.2 ⟨a, b, c, mark, rfl⟩]
    dsimp only
    rw [dropStar?_text]
    exact ofParts?_eq_some_iff.2 ⟨rfl, rfl, by simpa [isAllowed] using htext⟩

/-- An operator is read when the trimmed text spells it. -/
theorem ofText_eq_ok_iff {s : String} : ofText s = .ok o ↔ Spells (Text.trim s.toList) o := by
  unfold ofText
  constructor
  · intro h
    cases hread : ofText? s with
    | some operator =>
      rw [hread] at h
      exact spells_of_ofText? (hread.trans (congrArg some (Except.ok.inj h)))
    | none =>
      rw [hread] at h
      cases h
  · intro h
    rw [ofText?_of_spells h]

/-! ### Writing -/

/-- The mark of a length in small letters. -/
theorem foldAscii_mark {a b c : Char} (mark : Text.foldAscii [a, b, c] = ['l', 'e', 'n'])
    (rest : List Char) :
    Text.foldAscii (([a, b, c] ++ rest).take 3) ++ ([a, b, c] ++ rest).drop 3 =
      ['l', 'e', 'n'] ++ rest := by
  change Text.foldAscii [a, b, c] ++ rest = _
  rw [mark]

/-- A text that spells an operator is written again, with the mark of a length in small letters. -/
theorem Spells.toList_text (h : Spells cs o) :
    o.text.toList = if o.length then Text.foldAscii (cs.take 3) ++ cs.drop 3 else cs := by
  cases h with
  | plain token_mem =>
    obtain rfl := Comparison.mem_tokens_iff.1 token_mem
    simp [text]
  | ignoringCase token_mem =>
    obtain ⟨rfl, -⟩ := Comparison.mem_starred_iff.1 token_mem
    simp [text]
  | length mark token_mem =>
    obtain ⟨rfl, -⟩ := Comparison.mem_measured_iff.1 token_mem
    rw [if_pos rfl, foldAscii_mark mark]
    simp [text]

/-- The text of an operator that is spelled spells it too. -/
theorem Spells.text (h : Spells cs o) : Spells o.text.toList o := by
  rw [h.toList_text]
  cases h with
  | plain token_mem => exact .plain token_mem
  | ignoringCase token_mem => exact .ignoringCase token_mem
  | length mark token_mem =>
    rw [if_pos rfl, foldAscii_mark mark]
    exact .length (by decide) token_mem

/-- The text of an operator has no blank at either end. -/
theorem trim_text (o : Operator) : Text.trim o.text.toList = o.text.toList := by
  obtain ⟨base, ignoreCase, length⟩ := o
  cases base <;> cases ignoreCase <;> cases length <;> decide

/-- Operators are read as their grammar says: the text without the blanks around it has to spell
one, and this one is read.  It is written as it was read, with `len` in small letters, and is read
from what is written again.  Any other text is reported as it stands. -/
theorem ofText_grammar (s : String) :
    (∀ o, ofText s = .ok o ↔ Spells (Text.trim s.toList) o) ∧
      (∀ o, ofText s = .ok o →
        (o.text.toList =
            if o.length then
              Text.foldAscii ((Text.trim s.toList).take 3) ++ (Text.trim s.toList).drop 3
            else Text.trim s.toList) ∧
          ofText o.text = .ok o) ∧
      ((∀ o, ¬ Spells (Text.trim s.toList) o) → ofText s = .error (.invalidOperator s)) := by
  refine ⟨fun o => ofText_eq_ok_iff, ?_, ?_⟩
  · intro o h
    have hspells := ofText_eq_ok_iff.1 h
    refine ⟨hspells.toList_text, ofText_eq_ok_iff.2 ?_⟩
    rw [trim_text]
    exact hspells.text
  · intro h
    unfold ofText
    cases hread : ofText? s with
    | some operator => exact absurd (spells_of_ofText? hread) (h operator)
    | none => rfl

/-- A length is read among blanks and in capitals, and written without them.  With a star behind it
the text spells nothing and is reported, blanks and all. -/
theorem ofText_grammar_length :
    ((ofText "\u3000LeN>= ") = .ok ⟨.ge, false, true⟩ ∧
        (⟨.ge, false, true⟩ : Operator).text.toList = Text.foldAscii ['L', 'e', 'N'] ++ ['>', '='] ∧
        ofText (⟨.ge, false, true⟩ : Operator).text = .ok ⟨.ge, false, true⟩) ∧
      ofText " len==*" = .error (.invalidOperator " len==*") := by
  have hok : ofText "\u3000LeN>= " = .ok ⟨.ge, false, true⟩ := rfl
  have herror : ofText " len==*" = .error (.invalidOperator " len==*") := rfl
  obtain ⟨htext, hagain⟩ := (ofText_grammar _).2.1 _ hok
  obtain ⟨hread, -, hunread⟩ := ofText_grammar " len==*"
  refine ⟨⟨hok, htext, hagain⟩, hunread ?_⟩
  intro o hspells
  have hother := (hread o).2 hspells
  rw [herror] at hother
  cases hother

end Operator

end RecordQuery
