import RecordQuery.Double.Arithmetic

/-!
# JSON values

A JSON number is a whole number that fits 64 bits, with or without sign, or a double.  An object is
the list of its members, kept by increasing key with no key twice; `Json.object` built through
`Members.insert` has this form.
-/

namespace RecordQuery

/-- A JSON number. -/
inductive Numeral where
  | integer (n : Int) (inRange : Int64.minValue.toInt ≤ n ∧ n < UInt64.size)
  | float (x : Double)
deriving DecidableEq

/-- A JSON value. -/
inductive Json where
  | null
  | bool (b : Bool)
  | number (n : Numeral)
  | string (s : String)
  | array (items : List Json)
  | object (members : List (String × Json))
deriving Inhabited

namespace Numeral

/-- A whole number in the range of JSON integers, or the double nearest to it. -/
def ofInt (n : Int) : Numeral :=
  if h : Int64.minValue.toInt ≤ n ∧ n < UInt64.size then .integer n h else .float (Double.ofInt n)

/-- The number as a double, rounded when it is a whole number. -/
def toDouble : Numeral → Double
  | .integer n _ => Double.ofInt n
  | .float x => x

/-- The number when it is written as a whole number that fits 64 bits with sign. -/
def toInt64? : Numeral → Option Int64
  | .integer n _ => if n ≤ Int64.maxValue.toInt then some (Int64.ofInt n) else none
  | .float _ => none

/-- The number when it is written as a whole number that is not negative. -/
def toUInt64? : Numeral → Option UInt64
  | .integer n _ => if 0 ≤ n then some (UInt64.ofNat n.toNat) else none
  | .float _ => none

/-- Equality of numbers: a whole number never equals a double, and doubles compare by value. -/
def same : Numeral → Numeral → Bool
  | .integer m _, .integer n _ => m == n
  | .float x, .float y => x.same y
  | _, _ => false

end Numeral

/-- Sets a member of an object. -/
def insertMember (key : String) (value : Json) : List (String × Json) → List (String × Json)
  | [] => [(key, value)]
  | (k, v) :: ms =>
    match compare key k with
    | .lt => (key, value) :: (k, v) :: ms
    | .eq => (key, value) :: ms
    | .gt => (k, v) :: insertMember key value ms

namespace Json

mutual

/-- Structural equality, doubles by value. -/
def same : Json → Json → Bool
  | .null, .null => true
  | .bool a, .bool b => a == b
  | .number m, .number n => m.same n
  | .string s, .string t => s == t
  | .array xs, .array ys => sameItems xs ys
  | .object ms, .object ns => sameMembers ms ns
  | _, _ => false

/-- Equality of lists of values, place by place. -/
def sameItems : List Json → List Json → Bool
  | [], [] => true
  | x :: xs, y :: ys => same x y && sameItems xs ys
  | _, _ => false

/-- Equality of lists of members, place by place. -/
def sameMembers : List (String × Json) → List (String × Json) → Bool
  | [], [] => true
  | (k, x) :: xs, (l, y) :: ys => k == l && same x y && sameMembers xs ys
  | _, _ => false

end

/-- The member of an object under a key. -/
def member? (key : String) : Json → Option Json
  | .object ms => (ms.find? fun m => m.1 == key).map (·.2)
  | _ => none

/-- A member is smaller than the object that holds it. -/
theorem sizeOf_member?_lt {key : String} {j v : Json} (h : j.member? key = some v) :
    sizeOf v < sizeOf j := by
  unfold member? at h
  split at h
  · next ms =>
    obtain ⟨m, hm, rfl⟩ := Option.map_eq_some_iff.1 h
    have hs := List.sizeOf_lt_of_mem (List.mem_of_find?_eq_some hm)
    obtain ⟨k, x⟩ := m
    simp only [Prod.mk.sizeOf_spec, object.sizeOf_spec] at hs ⊢
    omega
  · simp at h

/-- The object of members; of two members under one key the later one counts. -/
def ofMembers (ms : List (String × Json)) : Json :=
  .object (ms.foldl (fun acc (key, value) => insertMember key value acc) [])

/-- A whole number. -/
def ofInt (n : Int) : Json := .number (.ofInt n)

/-- The whole number of a number written as one. -/
def int? : Json → Option Int
  | .number (.integer n _) => some n
  | _ => none

/-- Follows object keys from a value; it fails at the first node without the key. -/
def navigate (keys : List String) (doc : Json) : Option Json :=
  keys.foldlM (fun node key => node.member? key) doc

@[simp] theorem navigate_nil (doc : Json) : doc.navigate [] = some doc := rfl

theorem navigate_cons (key : String) (keys : List String) (doc : Json) :
    doc.navigate (key :: keys) = (doc.member? key).bind fun node => node.navigate keys := rfl

end Json

end RecordQuery
