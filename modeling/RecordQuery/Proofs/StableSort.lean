import Mathlib.Data.List.Basic
import RecordQuery.SortChain

/-!
# Stable sorting

What sorting by a chain gives is pinned down by three properties (`SortChain.Sorts`): it is a
permutation of the records, it is in the order of the chain, and records that the chain ties keep
the order that they had.  There is exactly one such list for a chain that preorders the records
(`sorts_iff_eq_sort`).

A chain of two parts can be sorted by in two passes, by the second part first (`Sorts.append`).
-/

namespace RecordQuery.SortChain

/-- The order of a chain is a total preorder on a class of records. -/
structure PreordersOn (chain : SortChain) (P : Record → Prop) : Prop where
  refl : ∀ a, P a → chain.order a a = .eq
  swap : ∀ a b, P a → P b → chain.order b a = (chain.order a b).swap
  trans : ∀ a b c, P a → P b → P c → (chain.order a b).isLE = true → (chain.order b c).isLE = true →
    (chain.order a c).isLE = true

/-- The chain does not tell two records apart. -/
def ties (chain : SortChain) (a b : Record) : Bool := chain.order a b == .eq

/-- A list holds the records in the order of the chain; those that the chain ties are in the order
that they had. -/
structure Sorts (chain : SortChain) (records sorted : List Record) : Prop where
  perm : sorted.Perm records
  ordered : sorted.Pairwise fun a b => (chain.order a b).isLE = true
  stable : ∀ r ∈ records, sorted.filter (chain.ties r) = records.filter (chain.ties r)

variable {chain : SortChain} {P : Record → Prop}

/-! ### Laws of the order -/

theorem ties_iff {a b : Record} : chain.ties a b = true ↔ chain.order a b = .eq := beq_iff_eq

namespace PreordersOn

variable (preorders : chain.PreordersOn P) {a b c : Record}
include preorders

/-- On the class itself the order obeys the laws of the library. -/
theorem transCmp : Std.TransCmp fun (a b : Subtype P) => chain.order a b where
  eq_swap {a b} := preorders.swap b a b.2 a.2
  isLE_trans {a b c} := preorders.trans a b c a.2 b.2 c.2

/-- Records that tie are told apart from the same records. -/
theorem ties_congr (ha : P a) (hb : P b) (hc : P c) (h : chain.ties a b = true) :
    chain.ties a c = chain.ties b c := by
  have hcongr := @Std.TransCmp.congr_left _ _ preorders.transCmp ⟨a, ha⟩ ⟨b, hb⟩ ⟨c, hc⟩
    (ties_iff.1 h)
  exact congrArg (· == Ordering.eq) hcongr

/-- A record that ties with one of two does not tie with the other when these are told apart. -/
theorem not_ties_of_lt (ha : P a) (hb : P b) (hc : P c) (hab : chain.order a b = .lt)
    (hca : chain.ties c a = true) : chain.ties c b = false := by
  rw [preorders.ties_congr hc ha hb hca]
  unfold ties
  rw [hab]
  rfl

/-- Of two records one does not come before the other. -/
theorem isLE_of_ne_lt (ha : P a) (hb : P b) (h : chain.order a b ≠ .lt) :
    (chain.order b a).isLE = true := by
  rw [preorders.swap a b ha hb]
  cases hab : chain.order a b with
  | lt => exact absurd hab h
  | eq => rfl
  | gt => rfl

/-- Records none of which comes after the other tie. -/
theorem ties_of_isLE (ha : P a) (hb : P b) (hab : (chain.order a b).isLE = true)
    (hba : (chain.order b a).isLE = true) : chain.ties a b = true := by
  rw [preorders.swap a b ha hb] at hba
  rw [ties_iff]
  cases h : chain.order a b with
  | eq => rfl
  | lt =>
    rw [h] at hba
    cases hba
  | gt =>
    rw [h] at hab
    cases hab

end PreordersOn

/-! ### Placing one record -/

/-- Placing a record adds it to the list. -/
theorem place_perm (before : Record → Record → Bool) (r : Record) (sorted : List Record) :
    (place before r sorted).Perm (r :: sorted) := by
  induction sorted with
  | nil => exact List.Perm.refl [r]
  | cons s rest ih =>
    rw [place]
    split
    · exact (ih.cons s).trans (List.Perm.swap r s rest)
    · exact List.Perm.refl (r :: s :: rest)

/-- A list from the last to the first is still one when a record is placed. -/
theorem place_ordered (preorders : chain.PreordersOn P) {r : Record} (hr : P r)
    {sorted : List Record} (hsorted : ∀ s ∈ sorted, P s)
    (ordered : sorted.Pairwise fun a b => (chain.order b a).isLE = true) :
    (place (fun a b => chain.order a b == .lt) r sorted).Pairwise
      fun a b => (chain.order b a).isLE = true := by
  induction sorted with
  | nil => exact List.pairwise_singleton _ r
  | cons s rest ih =>
    have hs : P s := hsorted s List.mem_cons_self
    have hrest : ∀ t ∈ rest, P t := fun t ht => hsorted t (List.mem_cons_of_mem s ht)
    obtain ⟨hhead, htail⟩ := List.pairwise_cons.1 ordered
    rw [place]
    split
    · next hlt =>
      refine List.pairwise_cons.2 ⟨?_, ih hrest htail⟩
      intro t ht
      rcases List.mem_cons.1 ((place_perm _ r rest).mem_iff.1 ht) with rfl | ht
      · rw [beq_iff_eq.1 hlt]
        rfl
      · exact hhead t ht
    · next hlt =>
      -- What stands behind the first record that does not come after `r` does not either.
      have hsr : (chain.order s r).isLE = true := preorders.isLE_of_ne_lt hr hs (by simpa using hlt)
      refine List.pairwise_cons.2 ⟨?_, ordered⟩
      intro t ht
      rcases List.mem_cons.1 ht with rfl | ht
      · exact hsr
      · exact preorders.trans t s r (hrest t ht) hs hr (hhead t ht) hsr

/-- A record is placed in front of all that it ties with. -/
theorem filter_place (preorders : chain.PreordersOn P) {r x : Record} (hr : P r) (hx : P x)
    {sorted : List Record} (hsorted : ∀ s ∈ sorted, P s) :
    (place (fun a b => chain.order a b == .lt) r sorted).filter (chain.ties x) =
      (r :: sorted).filter (chain.ties x) := by
  induction sorted with
  | nil => rfl
  | cons s rest ih =>
    have hs : P s := hsorted s List.mem_cons_self
    have hrest : ∀ t ∈ rest, P t := fun t ht => hsorted t (List.mem_cons_of_mem s ht)
    rw [place]
    split
    · next hlt =>
      have hskip := preorders.not_ties_of_lt hr hs hx (beq_iff_eq.1 hlt)
      rw [List.filter_cons, ih hrest, List.filter_cons, List.filter_cons, List.filter_cons]
      cases hxr : chain.ties x r with
      | false => simp
      | true => simp [hskip hxr]
    · rfl

/-! ### Sorting a list -/

/-- What has been placed so far, from the last to the first: the records that were there and the new
ones, in order, and those that tie with the latest in front. -/
theorem foldl_place (preorders : chain.PreordersOn P) {records sorted : List Record}
    (hrecords : ∀ r ∈ records, P r) (hsorted : ∀ s ∈ sorted, P s)
    (ordered : sorted.Pairwise fun a b => (chain.order b a).isLE = true) :
    let placed := records.foldl
      (fun sorted r => place (fun a b => chain.order a b == .lt) r sorted) sorted
    placed.Perm (records.reverse ++ sorted) ∧
      placed.Pairwise (fun a b => (chain.order b a).isLE = true) ∧
        ∀ x, P x →
          placed.filter (chain.ties x) = (records.reverse ++ sorted).filter (chain.ties x) := by
  induction records generalizing sorted with
  | nil => exact ⟨List.Perm.refl sorted, ordered, fun _ _ => rfl⟩
  | cons r records ih =>
    have hr : P r := hrecords r List.mem_cons_self
    have hplaced : ∀ s ∈ place (fun a b => chain.order a b == .lt) r sorted, P s := by
      intro s hs
      rcases List.mem_cons.1 ((place_perm _ r sorted).mem_iff.1 hs) with rfl | hs
      · exact hr
      · exact hsorted s hs
    obtain ⟨hperm, hordered, hfilter⟩ := ih (fun s hs => hrecords s (List.mem_cons_of_mem r hs))
      hplaced (place_ordered preorders hr hsorted ordered)
    rw [List.foldl_cons, List.reverse_cons, List.append_assoc]
    refine ⟨hperm.trans ((place_perm _ r sorted).append_left records.reverse), hordered, ?_⟩
    intro x hx
    rw [hfilter x hx, List.filter_append, filter_place preorders hr hx hsorted, List.filter_append]
    rfl

/-- Sorting by a chain that preorders the records gives them in its order, and keeps the order of
those that it ties. -/
theorem sorts_sort (preorders : chain.PreordersOn P) {records : List Record}
    (hrecords : ∀ r ∈ records, P r) : chain.Sorts records (chain.sort records) := by
  have hnone : ∀ s ∈ ([] : List Record), P s := by
    intro s hs
    cases hs
  obtain ⟨hperm, hordered, hfilter⟩ := foldl_place preorders hrecords hnone List.Pairwise.nil
  rw [List.append_nil] at hperm hfilter
  constructor
  case perm => exact (List.reverse_perm _).trans (hperm.trans (List.reverse_perm records))
  case ordered => exact List.pairwise_reverse.2 hordered
  case stable =>
    intro r hr
    rw [sort, List.filter_reverse, hfilter r (hrecords r hr), List.filter_reverse,
      List.reverse_reverse]

/-- Two lists of the same records agree when both are in the order of the chain and agree on the
records that tie with any one of them. -/
theorem eq_of_ordered (preorders : chain.PreordersOn P) {first second : List Record}
    (hP : ∀ r ∈ first, P r) (hperm : first.Perm second)
    (hfirst : first.Pairwise fun a b => (chain.order a b).isLE = true)
    (hsecond : second.Pairwise fun a b => (chain.order a b).isLE = true)
    (hstable : ∀ r ∈ first, first.filter (chain.ties r) = second.filter (chain.ties r)) :
    first = second := by
  induction first generalizing second with
  | nil => exact hperm.nil_eq
  | cons a first ih =>
    cases second with
    | nil => exact absurd hperm.symm.nil_eq (List.cons_ne_nil a first).symm
    | cons b second =>
      have ha : P a := hP a List.mem_cons_self
      have hself : chain.ties a a = true := ties_iff.2 (preorders.refl a ha)
      -- Each head stands somewhere in the other list, so that none comes after the other.
      have htie : chain.ties a b = true := by
        rcases List.mem_cons.1 (hperm.symm.mem_iff.1 List.mem_cons_self) with rfl | hb
        · exact hself
        · rcases List.mem_cons.1 (hperm.mem_iff.1 List.mem_cons_self) with rfl | ha'
          · exact hself
          · exact preorders.ties_of_isLE ha (hP b (List.mem_cons_of_mem a hb))
              ((List.pairwise_cons.1 hfirst).1 b hb) ((List.pairwise_cons.1 hsecond).1 a ha')
      have hheads := hstable a List.mem_cons_self
      rw [List.filter_cons_of_pos hself, List.filter_cons_of_pos htie] at hheads
      obtain ⟨rfl, -⟩ := List.cons.inj hheads
      have htail : first = second := by
        refine ih (fun r hr => hP r (List.mem_cons_of_mem a hr)) hperm.cons_inv
          (List.pairwise_cons.1 hfirst).2 (List.pairwise_cons.1 hsecond).2 ?_
        intro r hr
        have hboth := hstable r (List.mem_cons_of_mem a hr)
        rw [List.filter_cons, List.filter_cons] at hboth
        split at hboth
        · exact (List.cons.inj hboth).2
        · exact hboth
      rw [htail]

/-- There is one way to sort records by a chain that preorders them. -/
theorem sorts_iff_eq_sort (preorders : chain.PreordersOn P) {records sorted : List Record}
    (hrecords : ∀ r ∈ records, P r) : chain.Sorts records sorted ↔ chain.sort records = sorted := by
  have hsort := sorts_sort preorders hrecords
  constructor
  · intro h
    refine eq_of_ordered preorders ?_ (hsort.perm.trans h.perm.symm) hsort.ordered h.ordered ?_
    · intro r hr
      exact hrecords r (hsort.perm.mem_iff.1 hr)
    · intro r hr
      have hmem := hsort.perm.mem_iff.1 hr
      rw [hsort.stable r hmem, h.stable r hmem]
  · rintro rfl
    exact hsort

/-! ### Chains of two parts -/

/-- The second part of a chain decides where the first one ties. -/
theorem order_append (xs ys : SortChain) (a b : Record) :
    order (xs ++ ys) a b = (order xs a b).then (order ys a b) := by
  induction xs with
  | nil => rfl
  | cons term xs ih =>
    rw [List.cons_append, order, order, ih, Ordering.then_assoc]

/-- Records tie by a chain when they tie by both of its parts. -/
theorem ties_append (xs ys : SortChain) (a b : Record) :
    ties (xs ++ ys) a b = (ties xs a b && ties ys a b) := by
  unfold ties
  rw [order_append]
  cases order xs a b <;> cases order ys a b <;> rfl

/-- Where the first part of a chain does not tie the second one has no say. -/
theorem order_append_of_not_ties {xs ys : SortChain} {a b : Record} (h : ties xs a b = false) :
    order (xs ++ ys) a b = order xs a b := by
  rw [order_append]
  cases hab : order xs a b with
  | eq =>
    rw [ties_iff.2 hab] at h
    cases h
  | lt => rfl
  | gt => rfl

/-- A list that is in the order of a chain, and in which the records that tie are in the order of a
second one, is in the order of both. -/
theorem pairwise_append {xs ys : SortChain} (hself : ∀ r, ties xs r r = true)
    {records : List Record} (hxs : records.Pairwise fun a b => (order xs a b).isLE = true)
    (hys : ∀ r ∈ records,
      (records.filter (ties xs r)).Pairwise fun a b => (order ys a b).isLE = true) :
    records.Pairwise fun a b => (order (xs ++ ys) a b).isLE = true := by
  induction records with
  | nil => exact List.Pairwise.nil
  | cons a records ih =>
    obtain ⟨hhead, htail⟩ := List.pairwise_cons.1 hxs
    refine List.pairwise_cons.2 ⟨?_, ih htail ?_⟩
    · intro b hb
      rw [order_append]
      cases hab : order xs a b with
      | lt => rfl
      | gt =>
        have hle := hhead b hb
        rw [hab] at hle
        cases hle
      | eq =>
        have hties := hys a List.mem_cons_self
        rw [List.filter_cons_of_pos (hself a)] at hties
        exact (List.pairwise_cons.1 hties).1 b (List.mem_filter.2 ⟨hb, ties_iff.2 hab⟩)
    · intro r hr
      refine (hys r (List.mem_cons_of_mem a hr)).sublist ?_
      exact (List.sublist_cons_self a records).filter _

/-- Sorting by the second part of a chain and then by the first sorts by the chain. -/
theorem Sorts.append {xs ys : SortChain} (hself : ∀ r, ties xs r r = true)
    {records between sorted : List Record} (hys : Sorts ys records between)
    (hxs : Sorts xs between sorted) : Sorts (xs ++ ys) records sorted := by
  have hstable : ∀ r ∈ records, sorted.filter (ties xs r) = between.filter (ties xs r) := by
    intro r hr
    exact hxs.stable r (hys.perm.mem_iff.2 hr)
  constructor
  case perm => exact hxs.perm.trans hys.perm
  case ordered =>
    refine pairwise_append hself hxs.ordered ?_
    intro r hr
    rw [hstable r (hys.perm.mem_iff.1 (hxs.perm.mem_iff.1 hr))]
    exact hys.ordered.filter _
  case stable =>
    intro r hr
    have hboth : ties (xs ++ ys) r = fun s => ties ys r s && ties xs r s := by
      funext s
      rw [ties_append, Bool.and_comm]
    calc sorted.filter (ties (xs ++ ys) r)
        = (sorted.filter (ties xs r)).filter (ties ys r) := by rw [hboth, List.filter_filter]
      _ = (between.filter (ties xs r)).filter (ties ys r) := by rw [hstable r hr]
      _ = (between.filter (ties ys r)).filter (ties xs r) := List.filter_comm _ _ _
      _ = (records.filter (ties ys r)).filter (ties xs r) := by rw [hys.stable r hr]
      _ = (records.filter (ties xs r)).filter (ties ys r) := List.filter_comm _ _ _
      _ = records.filter (ties (xs ++ ys) r) := by rw [hboth, List.filter_filter]

end RecordQuery.SortChain
