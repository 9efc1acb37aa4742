import RecordQuery.Text.Ascii
import RecordQuery.Text.Hexadecimal

/-!
# Universally unique identifiers

A uuid is a number of 128 bits.  It is read from 32 hexadecimal digits, from five groups of them
joined by hyphens, and from the groups in braces or behind `urn:uuid:`, which is a name of a
namespace and so may be written in any case.
-/

namespace RecordQuery

/-- A universally unique identifier. -/
structure Uuid where
  word : BitVec 128
deriving DecidableEq

namespace Uuid

/-- The uuid of 32 hexadecimal digits. -/
def ofDigits? (cs : List Char) : Option Uuid :=
  if cs.length == 32 then
    (Text.hexNumber? cs).map fun n => ⟨BitVec.ofNat 128 n⟩
  else none

/-- The places of the hyphens. -/
def isHyphenPlace (i : Nat) : Bool := i == 8 || i == 13 || i == 18 || i == 23

/-- The uuid of groups of 8, 4, 4, 4 and 12 digits joined by hyphens. -/
def ofGroups? (cs : List Char) : Option Uuid :=
  if cs.length == 36 && cs.zipIdx.all fun (c, i) => (c == '-') == isHyphenPlace i then
    ofDigits? (cs.filter (· != '-'))
  else none

/-- The groups in braces. -/
def ofBraced? (cs : List Char) : Option Uuid :=
  match cs with
  | '{' :: rest =>
    match rest.reverse with
    | '}' :: body => ofGroups? body.reverse
    | _ => none
  | _ => none

/-- What stands in front of the groups in a uniform resource name. -/
def nameLead : List Char := "urn:uuid:".toList

/-- The groups of a uniform resource name. -/
def ofName? (cs : List Char) : Option Uuid :=
  if Text.foldAscii (cs.take nameLead.length) == nameLead then
    ofGroups? (cs.drop nameLead.length)
  else none

/-- Reads a uuid. -/
def ofText? (cs : List Char) : Option Uuid :=
  (ofDigits? cs).or <| (ofGroups? cs).or <| (ofBraced? cs).or (ofName? cs)

/-- The text of a uuid: small hexadecimal digits in hyphenated groups. -/
def text (u : Uuid) : String :=
  let all := Text.hexDigits 32 u.word.toNat
  String.ofList <| all.take 8 ++ '-' :: (all.drop 8).take 4 ++ '-' :: (all.drop 12).take 4 ++
    '-' :: (all.drop 16).take 4 ++ '-' :: all.drop 20

end Uuid

end RecordQuery
