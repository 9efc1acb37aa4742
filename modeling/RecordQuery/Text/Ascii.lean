/-!
# Case-insensitive comparison over ASCII

Field names, enum members and key words are compared without regard to the case of the ASCII
letters; all other characters have to agree exactly.
-/

namespace RecordQuery.Text

/-- The characters with every ASCII capital replaced by its small letter. -/
def foldAscii (cs : List Char) : List Char := cs.map Char.toLower

/-- Two texts agree up to the case of ASCII letters. -/
def agree (a b : String) : Bool := foldAscii a.toList == foldAscii b.toList

@[simp] theorem agree_self (a : String) : agree a a = true := by
  simp [agree]

theorem agree_iff {a b : String} : agree a b = true ↔ foldAscii a.toList = foldAscii b.toList := by
  simp [agree]

theorem agree_symm {a b : String} (h : agree a b = true) : agree b a = true := by
  rw [agree_iff] at h ⊢
  exact h.symm

theorem agree_trans {a b c : String} (hab : agree a b = true) (hbc : agree b c = true) :
    agree a c = true := by
  rw [agree_iff] at hab hbc ⊢
  exact hab.trans hbc

end RecordQuery.Text
