import RecordQuery.JsonPath
import RecordQuery.Operator
import RecordQuery.Registry
import RecordQuery.TextSearch

/-!
# Predicates

A predicate is what filters compile to: a boolean expression over one record.  `Predicate.holds`
evaluates it.

A missing value equals nothing, so that not-equal holds for it; every other comparison with it is
false, the denied ones too.  Comparisons of different types are false, and not-equal of them true.
-/

namespace RecordQuery

/-- What a comparison reads. -/
inductive Target where
  | field (access : Access)
  /-- The text form of a node inside a document. -/
  | json (path : JsonPath)
deriving DecidableEq

/-- A boolean expression over a record. -/
inductive Predicate where
  | compare (target : Target) (op : Comparison) (operand : Scalar) (ignoreCase : Bool)
  | isNull (access : Access)
  /-- Compares a number of characters or elements. -/
  | length (access : Access) (op : Comparison) (operand : UInt64)
  /-- Some element of a collection equals the operand. -/
  | contains (access : Access) (operand : Scalar) (ignoreCase : Bool)
  /-- Some record of a collection satisfies the inner predicate. -/
  | any (collection : Access) (inner : Predicate)
  /-- A full-text search. -/
  | search (access : Access) (language term : String)
  | custom (hook : FilterHook)
  | and (parts : List Predicate)
  | or (parts : List Predicate)
  | not (inner : Predicate)

/-! ### Comparing -/

namespace Comparison

/-- The text in the case in which it is compared. -/
def folded (ignoreCase : Bool) (s : String) : String := if ignoreCase then Text.lower s else s

/-- A text occurs inside another. -/
def occurs (part : List Char) : List Char → Bool
  | [] => part.isEmpty
  | c :: cs => part.isPrefixOf (c :: cs) || occurs part cs

/-- Compares two texts. -/
def holdsText (op : Comparison) (actual operand : String) : Bool :=
  match op with
  | .contains => occurs operand.toList actual.toList
  | .startsWith => operand.toList.isPrefixOf actual.toList
  | .endsWith => operand.toList.isSuffixOf actual.toList
  | .notContains => !occurs operand.toList actual.toList
  | .notStartsWith => !operand.toList.isPrefixOf actual.toList
  | .notEndsWith => !operand.toList.isSuffixOf actual.toList
  | op => op.holds (compare actual operand)

/-- Compares a value with an operand by any comparison but not-equal. -/
def holdsAffirmed (op : Comparison) (actual : Value) (operand : Scalar) (ignoreCase : Bool) : Bool :=
  if actual.isNull && op != .eq then false
  else
    match actual, operand with
    | .scalar (.string a), .string b => op.holdsText (folded ignoreCase a) (folded ignoreCase b)
    | _, _ =>
      if op.isText then false
      else
        match actual.order? (.scalar operand) with
        | some o => op.holds o
        | none => false

/-- Compares a value with an operand; not-equal is the complement of equal. -/
def holdsValue (op : Comparison) (actual : Value) (operand : Scalar) (ignoreCase : Bool) : Bool :=
  if op == .ne then !holdsAffirmed .eq actual operand ignoreCase
  else holdsAffirmed op actual operand ignoreCase

end Comparison

/-- The value that a target reads. -/
def Target.read (target : Target) (r : Record) : Value :=
  match target with
  | .field access => access.read r
  | .json path => path.value r

namespace Predicate

/-! ### Evaluating -/

/-- Some text of a value matches a search term: the value itself or an element of it. -/
def searchValue (search : TextSearch) (language term : String) : Value → Bool
  | .scalar (.string text) => search text language term
  | .list elements => (elements.filterMap Value.string?).any fun text => search text language term
  | _ => false

mutual

/-- The predicate holds for a record. -/
def holds (search : TextSearch) (p : Predicate) (r : Record) : Bool :=
  match p with
  | .compare target op operand ignoreCase => op.holdsValue (target.read r) operand ignoreCase
  | .isNull access => (access.read r).isNull
  | .length access op operand =>
    match access.cardinality? r with
    | some n => op.holds (Ord.compare n operand.toNat)
    | none => false
  | .contains access operand ignoreCase =>
    (access.elements r).any fun x => Comparison.eq.holdsValue x operand ignoreCase
  | .any collection inner =>
    (collection.elements r).any fun x =>
      match x with
      | .record element => inner.holds search element
      | _ => false
  | .search access language term => searchValue search language term (access.read r)
  | .custom hook => hook.holds r
  | .and parts => allHold search parts r
  | .or parts => someHolds search parts r
  | .not inner => !inner.holds search r

/-- All predicates hold for a record. -/
def allHold (search : TextSearch) (ps : List Predicate) (r : Record) : Bool :=
  match ps with
  | [] => true
  | p :: ps => p.holds search r && allHold search ps r

/-- Some predicate holds for a record. -/
def someHolds (search : TextSearch) (ps : List Predicate) (r : Record) : Bool :=
  match ps with
  | [] => false
  | p :: ps => p.holds search r || someHolds search ps r

end

theorem allHold_eq (search : TextSearch) (ps : List Predicate) (r : Record) :
    allHold search ps r = ps.all fun p => p.holds search r := by
  induction ps with
  | nil => simp [allHold]
  | cons p ps ih => simp [allHold, ih]

theorem someHolds_eq (search : TextSearch) (ps : List Predicate) (r : Record) :
    someHolds search ps r = ps.any fun p => p.holds search r := by
  induction ps with
  | nil => simp [someHolds]
  | cons p ps ih => simp [someHolds, ih]

/-! ### Combining -/

/-- All of the predicates; none of none, and the predicate itself of one. -/
def allOf : List Predicate → Option Predicate
  | [] => none
  | [p] => some p
  | ps => some (.and ps)

/-- Some of the predicates; none of none, and the predicate itself of one. -/
def anyOf : List Predicate → Option Predicate
  | [] => none
  | [p] => some p
  | ps => some (.or ps)

/-- Predicates joined as an operator joins its operands. -/
def join : Junction → List Predicate → Option Predicate
  | .and => allOf
  | .or => anyOf

/-- The complement of a predicate. -/
def negate : Predicate → Predicate
  | .not inner => inner
  | p => .not p

/-! ### Equality -/

mutual

/-- Structural equality, operands by value and hooks by registration. -/
def same : Predicate → Predicate → Bool
  | .compare t op x i, .compare t' op' x' i' => t == t' && op == op' && x.same x' && i == i'
  | .isNull a, .isNull a' => a == a'
  | .length a op n, .length a' op' n' => a == a' && op == op' && n == n'
  | .contains a x i, .contains a' x' i' => a == a' && x.same x' && i == i'
  | .any a p, .any a' p' => a == a' && same p p'
  | .search a l t, .search a' l' t' => a == a' && l == l' && t == t'
  | .custom h, .custom h' => h.same h'
  | .and ps, .and ps' => sameAll ps ps'
  | .or ps, .or ps' => sameAll ps ps'
  | .not p, .not p' => same p p'
  | _, _ => false

/-- Equality of lists of predicates, place by place. -/
def sameAll : List Predicate → List Predicate → Bool
  | [], [] => true
  | p :: ps, q :: qs => same p q && sameAll ps qs
  | _, _ => false

end

end Predicate

end RecordQuery
