import Mathlib.Algebra.Group.Nat.Defs
import RecordQuery.Proofs.Selection
import RecordQuery.Proofs.StableSort

/-!
# Pages

Pages are computed in words of 64 bits, and yet they are the pages of unbounded arithmetic: the page
of number `p` and size `s` holds exactly what stands at the positions from `(p - 1) * s` up to
`p * s - 1` (`Options.paginate_eq_extract`).  No step before the product wraps, and where the
product is held to the largest word there is nothing left to skip.

So the pages of a query, one after the other, are its whole answer (`Engine.paging`).
-/

namespace RecordQuery

/-! ### Words -/

/-- The larger of two words is the one of the larger number. -/
theorem toInt_max (a b : Int64) : (max a b).toInt = max a.toInt b.toInt := by
  have hmax : max a b = if a ≤ b then b else a := rfl
  rw [hmax]
  split
  · next h =>
    have hle := Int64.le_iff_toInt_le.1 h
    omega
  · next h =>
    have hlt := Int64.lt_iff_toInt_lt.1 (Int64.not_le.1 h)
    omega

/-- The smaller of two words is the one of the smaller number. -/
theorem toInt_min (a b : Int64) : (min a b).toInt = min a.toInt b.toInt := by
  have hmin : min a b = if a ≤ b then a else b := rfl
  rw [hmin]
  split
  · next h =>
    have hle := Int64.le_iff_toInt_le.1 h
    omega
  · next h =>
    have hlt := Int64.lt_iff_toInt_lt.1 (Int64.not_le.1 h)
    omega

/-- A word of 32 bits is the same number as a word of 64 bits with sign. -/
theorem toInt_toInt64 (n : UInt32) : n.toUInt64.toInt64.toInt = n.toNat := by
  have hlt : n.toNat < 2 ^ 32 := n.toNat_lt
  have hword : n.toUInt64.toInt64 = Int64.ofNat n.toNat := UInt64.toInt64_ofNatLT _
  rw [hword, Int64.toInt_ofNat_of_lt (by omega)]

/-- A number that is held to the largest word. -/
theorem toNat_ofNatClamp (n : Nat) : (UInt64.ofNatClamp n).toNat = min n (UInt64.size - 1) := by
  rcases Nat.lt_or_ge n UInt64.size with h | h
  · rw [UInt64.toNat_ofNatClamp_of_lt h]
    omega
  · rw [UInt64.toNat_ofNatClamp_of_le h]
    omega

namespace Options

/-! ### Pages in unbounded numbers -/

/-- The number of the page that is asked for: the first one when none is, and at least one. -/
def requestedPage (page : Option Int64) : Int := max ((page.map Int64.toInt).getD 1) 1

/-- The size of pages that is asked for, if it is positive, or else the default, at most the bound
on all page sizes. -/
def requestedSize (options : Options) (size : Option Int64) : Int :=
  min (((size.map Int64.toInt).filter (0 < ·)).getD options.defaultPageSize.toNat)
    options.maxPageSize.toNat

theorem one_le_requestedPage (page : Option Int64) : 1 ≤ requestedPage page := by
  unfold requestedPage
  omega

variable (options : Options)

theorem requestedSize_nonneg (size : Option Int64) : 0 ≤ options.requestedSize size := by
  unfold requestedSize
  cases hsize : (size.map Int64.toInt).filter (0 < ·) with
  | none =>
    change 0 ≤ min (options.defaultPageSize.toNat : Int) options.maxPageSize.toNat
    omega
  | some n =>
    have hn : 0 < n := by simpa using (Option.filter_eq_some_iff.1 hsize).2
    change 0 ≤ min n options.maxPageSize.toNat
    omega

/-! ### Pages in words -/

/-- The number of the page fits its word. -/
theorem toInt_pageNumber (page : Option Int64) : (pageNumber page).toInt = requestedPage page := by
  unfold pageNumber requestedPage
  rw [toInt_max]
  cases page <;> rfl

/-- Counting from zero does not wrap. -/
theorem toInt_pageNumber_sub_one (page : Option Int64) :
    (pageNumber page - 1).toInt = requestedPage page - 1 := by
  have hle : 1 ≤ pageNumber page := by
    rw [Int64.le_iff_toInt_le, toInt_pageNumber]
    exact one_le_requestedPage page
  rw [Int64.toInt_sub_of_le _ _ (by decide) hle, toInt_pageNumber]
  rfl

/-- The size before it is bounded fits its word. -/
theorem toInt_sizeOrDefault (size : Option Int64) :
    (options.sizeOrDefault size).toInt =
      ((size.map Int64.toInt).filter (0 < ·)).getD options.defaultPageSize.toNat := by
  unfold sizeOrDefault
  cases size with
  | none => exact toInt_toInt64 options.defaultPageSize
  | some n =>
    have hpos : 0 < n ↔ 0 < n.toInt := Int64.lt_iff_toInt_lt
    rw [Option.map_some, Option.filter_some]
    by_cases h : 0 < n.toInt
    · simp [hpos, h]
    · simp [hpos, h, toInt_toInt64]

/-- The size of pages fits its word. -/
theorem toInt_pageSize (size : Option Int64) :
    (options.pageSize size).toInt = options.requestedSize size := by
  have hnonneg := options.requestedSize_nonneg size
  unfold pageSize
  unfold requestedSize at hnonneg ⊢
  rw [toInt_max, toInt_min, toInt_sizeOrDefault, toInt_toInt64]
  exact Int.max_eq_left hnonneg

/-- A number that is not negative is a count. -/
theorem toNat_countOf {n : Int64} (h : 0 ≤ n.toInt) : (countOf n).toNat = n.toInt.toNat := by
  have hn : 0 ≤ n := Int64.le_iff_toInt_le.2 h
  unfold countOf
  rw [if_pos hn, Int64.toNat_toUInt64_of_le hn, Int64.toNat_toInt]

/-- As many records are taken as a page holds. -/
theorem toNat_window_take (page size : Option Int64) :
    (options.window page size).2.toNat = (options.requestedSize size).toNat := by
  have hnonneg := options.requestedSize_nonneg size
  have htake : (options.window page size).2 = countOf (options.pageSize size) := by
    simp only [window]
  rw [htake, toNat_countOf (by rwa [toInt_pageSize]), toInt_pageSize]

/-- As many records are skipped as the pages before hold, or as many as a word can count. -/
theorem toNat_window_skip (page size : Option Int64) :
    (options.window page size).1.toNat =
      min ((requestedPage page - 1) * options.requestedSize size).toNat (UInt64.size - 1) := by
  have hpage := one_le_requestedPage page
  have htake := options.toNat_window_take page size
  have hskip : (options.window page size).1 = UInt64.ofNatClamp
      ((countOf (pageNumber page - 1)).toNat * (options.window page size).2.toNat) := by
    simp only [window]
  rw [hskip, toNat_ofNatClamp, htake, toNat_countOf (by rw [toInt_pageNumber_sub_one]; omega),
    toInt_pageNumber_sub_one, Int.toNat_mul (by omega) (options.requestedSize_nonneg size)]

/-! ### Pages of a list -/

/-- A page holds what stands between its first position and the first one of the next page. -/
theorem paginate_eq_extract {α : Type} (page size : Option Int64) {items : List α}
    (hitems : items.length < UInt64.size) :
    options.paginate page size items =
      items.extract ((requestedPage page - 1) * options.requestedSize size).toNat
        (requestedPage page * options.requestedSize size).toNat := by
  have hsize := options.requestedSize_nonneg size
  have hstart : 0 ≤ (requestedPage page - 1) * options.requestedSize size :=
    Int.mul_nonneg (Int.sub_nonneg_of_le (one_le_requestedPage page)) hsize
  have hstop : requestedPage page * options.requestedSize size =
      (requestedPage page - 1) * options.requestedSize size + options.requestedSize size := by
    rw [Int.sub_mul, Int.one_mul, Int.sub_add_cancel]
  have htake : (requestedPage page * options.requestedSize size).toNat -
      ((requestedPage page - 1) * options.requestedSize size).toNat =
        (options.requestedSize size).toNat := by omega
  -- Where the product does not fit a word, the list ends before both the product and the word.
  have hdrop : items.drop (options.window page size).1.toNat =
      items.drop ((requestedPage page - 1) * options.requestedSize size).toNat := by
    rw [toNat_window_skip]
    rcases Nat.le_total ((requestedPage page - 1) * options.requestedSize size).toNat
      (UInt64.size - 1) with hle | hle
    · rw [Nat.min_eq_left hle]
    · have hend : items.length ≤ UInt64.size - 1 := by omega
      rw [Nat.min_eq_right hle, List.drop_eq_nil_of_le hend,
        List.drop_eq_nil_of_le (Nat.le_trans hend hle)]
  have hpage : options.paginate page size items =
      (items.drop (options.window page size).1.toNat).take
        (options.window page size).2.toNat := by
    simp only [paginate]
  rw [hpage, hdrop, toNat_window_take, List.extract_eq_take_drop, htake]

/-- Neighbouring cuts of one size make up the front of the list. -/
theorem flatten_extract {α : Type} (items : List α) (size count : Nat) :
    ((List.range count).map fun k => items.extract (k * size) ((k + 1) * size)).flatten =
      items.take (count * size) := by
  induction count with
  | zero => simp
  | succ count ih =>
    have hlength : (count + 1) * size - count * size = size := by
      rw [Nat.succ_mul]
      omega
    rw [List.range_succ, List.map_append, List.flatten_append, ih, List.map_singleton,
      List.flatten_singleton, List.extract_eq_take_drop, hlength, ← List.take_add, Nat.succ_mul]

/-- The pages from the first one on make up the front of the list. -/
theorem flatten_paginate {α : Type} (size : Option Int64) {items : List α}
    (hitems : items.length < UInt64.size) {count : Nat} (hcount : count < 2 ^ 63) :
    ((List.range count).map fun k =>
        options.paginate (some (Int64.ofNat (k + 1))) size items).flatten =
      items.take (count * (options.requestedSize size).toNat) := by
  have hpages : ∀ k ∈ List.range count,
      options.paginate (some (Int64.ofNat (k + 1))) size items =
        items.extract (k * (options.requestedSize size).toNat)
          ((k + 1) * (options.requestedSize size).toNat) := by
    intro k hk
    have hlt := List.mem_range.1 hk
    have hsize := options.requestedSize_nonneg size
    have hpage : requestedPage (some (Int64.ofNat (k + 1))) = (k + 1 : Nat) := by
      change max (Int64.ofNat (k + 1)).toInt 1 = _
      rw [Int64.toInt_ofNat_of_lt (by omega)]
      omega
    have hbefore : ((k + 1 : Nat) : Int) - 1 = (k : Nat) := by omega
    rw [options.paginate_eq_extract _ _ hitems, hpage, hbefore, Int.toNat_mul (by omega) hsize,
      Int.toNat_mul (by omega) hsize, Int.toNat_natCast, Int.toNat_natCast]
  rw [List.map_congr_left hpages, flatten_extract]

end Options

/-! ### Sorting -/

/-- Sorting rearranges the records, whatever the chain. -/
theorem SortChain.sort_perm (chain : SortChain) (records : List Record) :
    (chain.sort records).Perm records := by
  have hplaced : ∀ records sorted : List Record,
      (records.foldl (fun sorted r => place (fun a b => chain.order a b == .lt) r sorted)
        sorted).Perm (records.reverse ++ sorted) := by
    intro records
    induction records with
    | nil => exact List.Perm.refl
    | cons r records ih =>
      intro sorted
      rw [List.foldl_cons, List.reverse_cons, List.append_assoc]
      exact (ih _).trans ((place_perm _ r sorted).append_left records.reverse)
  have hall := hplaced records []
  rw [List.append_nil] at hall
  exact (List.reverse_perm _).trans (hall.trans (List.reverse_perm records))

/-! ### Pages of a query -/

namespace Engine

variable (engine : Engine) (entity : Entity)

/-- Pages are those of unbounded arithmetic, and those of a query make up its answer. -/
structure Paging : Prop where
  /-- Up to the product every step is exact: the number of the page, the number of pages before it,
  and the size of pages.  The product is exact unless no word can hold it. -/
  exact : ∀ page size,
    (Options.pageNumber page).toInt = Options.requestedPage page ∧
      (Options.pageNumber page - 1).toInt = Options.requestedPage page - 1 ∧
      (engine.context.options.pageSize size).toInt = engine.context.options.requestedSize size ∧
      (engine.context.options.window page size).2.toNat =
        (engine.context.options.requestedSize size).toNat ∧
      (engine.context.options.window page size).1.toNat =
        min ((Options.requestedPage page - 1) * engine.context.options.requestedSize size).toNat
          (UInt64.size - 1)
  /-- Of a list whose length fits a word a page holds what stands at its positions. -/
  positions : ∀ {α : Type} (page size : Option Int64) (items : List α),
    items.length < UInt64.size →
      engine.context.options.paginate page size items =
        items.extract
          ((Options.requestedPage page - 1) * engine.context.options.requestedSize size).toNat
          (Options.requestedPage page * engine.context.options.requestedSize size).toNat
  /-- The first pages of a query make up the front of the sorted list of the records that it admits,
  and once they cover its length they make up all of it. -/
  tiles : ∀ (query : Query) (records answer : List Record),
    engine.apply entity query records = .ok answer → records.length < UInt64.size →
      ∃ matched sorted,
        engine.applyFilters entity query.filters records = .ok matched ∧
        matched = records.filter (engine.admits entity query.filters) ∧
        engine.applySorts entity query.sorts matched = .ok sorted ∧ sorted.Perm matched ∧
        ∀ count < 2 ^ 63, ∃ pages,
          ((List.range count).mapM fun k =>
            engine.apply entity { query with page := some (Int64.ofNat (k + 1)) } records) =
              .ok pages ∧
          pages.flatten =
            sorted.take (count * (engine.context.options.requestedSize query.pageSize).toNat) ∧
          (sorted.length ≤ count * (engine.context.options.requestedSize query.pageSize).toNat →
            pages.flatten = sorted)

variable {engine entity}

/-- A query that is answered has its records filtered and sorted, and any page of it is cut out of
the same list. -/
theorem apply_eq_ok {query : Query} {records answer : List Record}
    (h : engine.apply entity query records = .ok answer) :
    ∃ matched sorted, engine.applyFilters entity query.filters records = .ok matched ∧
      matched = records.filter (engine.admits entity query.filters) ∧
      engine.applySorts entity query.sorts matched = .ok sorted ∧ sorted.Perm matched ∧
      ∀ page, engine.apply entity { query with page := page } records =
        .ok (engine.context.options.paginate page query.pageSize sorted) := by
  unfold apply at h
  obtain ⟨matched, hmatched, h⟩ := Outcome.bind_eq_ok.1 h
  obtain ⟨sorted, hsorted, -⟩ := Outcome.bind_eq_ok.1 h
  refine ⟨matched, sorted, hmatched, ?_, hsorted, ?_, ?_⟩
  · obtain ⟨p, hp, -⟩ := Outcome.map_eq_ok.1 hmatched
    rw [applyFilters_eq ⟨p, hp⟩] at hmatched
    exact (Except.ok.inj hmatched).symm
  · obtain ⟨chain, -, rfl⟩ := Outcome.map_eq_ok.1 hsorted
    exact chain.sort_perm matched
  · intro page
    unfold apply
    rw [hmatched]
    change (engine.applySorts entity query.sorts matched >>= fun sorted => _) = _
    rw [hsorted]
    rfl

variable (engine entity)

/-- The pages of an engine are those of unbounded arithmetic, and those of a query make up its
answer. -/
theorem paging : engine.Paging entity := by
  constructor
  case exact =>
    intro page size
    exact ⟨Options.toInt_pageNumber page, Options.toInt_pageNumber_sub_one page,
      engine.context.options.toInt_pageSize size,
      engine.context.options.toNat_window_take page size,
      engine.context.options.toNat_window_skip page size⟩
  case positions =>
    intro α page size items hitems
    exact engine.context.options.paginate_eq_extract page size hitems
  case tiles =>
    intro query records answer h hrecords
    obtain ⟨matched, sorted, hmatched, hfilter, hsorted, hperm, hpage⟩ := apply_eq_ok h
    refine ⟨matched, sorted, hmatched, hfilter, hsorted, hperm, ?_⟩
    intro count hcount
    have hlength : sorted.length < UInt64.size := by
      have hle := List.length_filter_le (engine.admits entity query.filters) records
      rw [hperm.length_eq, hfilter]
      omega
    have hflatten := engine.context.options.flatten_paginate query.pageSize hlength hcount
    refine ⟨_, Outcome.mapM_eq_ok_map fun k _ => hpage (some (Int64.ofNat (k + 1))), hflatten, ?_⟩
    intro hcovered
    rw [hflatten, List.take_of_length_le hcovered]

/-! ### Pages of a club -/

/-- Pages of two, of which the last one is not full and the one behind it is empty: together they
hold each member that is grown up once, by age.  The last page that can be asked for is empty,
though the number of records before it does not fit a word. -/
theorem paging_club :
    (∃ pages,
      ((List.range 3).mapM fun k =>
        club.apply member
          { page := some (Int64.ofNat (k + 1)), pageSize := some 2, sorts := [{ field := "age" }],
            filters := [grown] }
          [memberOf 1 "Ada" 36, memberOf 2 "Max" 7, memberOf 3 "Eve" 40, memberOf 4 "Joe" 18]) =
            .ok pages ∧
      pages.flatten = [memberOf 4 "Joe" 18, memberOf 1 "Ada" 36, memberOf 3 "Eve" 40]) ∧
    [memberOf 1 "Ada" 36].length < UInt64.size ∧
      club.context.options.paginate (some Int64.maxValue) (some 50) [memberOf 1 "Ada" 36] = [] := by
  have hclub := paging club member
  constructor
  · obtain ⟨matched, sorted, hmatched, hfilter, hsorted, -, hpages⟩ :=
      hclub.tiles
        { pageSize := some 2, sorts := [{ field := "age" }], filters := [grown] }
        [memberOf 1 "Ada" 36, memberOf 2 "Max" 7, memberOf 3 "Eve" 40, memberOf 4 "Joe" 18]
        [memberOf 4 "Joe" 18, memberOf 1 "Ada" 36] rfl (by decide)
    cases hmatched
    cases hsorted
    obtain ⟨pages, hpages, -, hall⟩ := hpages 3 (by decide)
    exact ⟨pages, hpages, hall (by decide)⟩
  · refine ⟨by decide, ?_⟩
    rw [hclub.positions _ _ _ (by decide)]
    rfl

end Engine

end RecordQuery
