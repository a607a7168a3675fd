import Mathlib.Data.List.Sort

/-!
# Python's `list.sort(key=..., reverse=True)`

Both ranking steps of the pipeline sort records by a key, largest first: `semantic_search`
sorts the scored candidates by similarity, and `_generate_fallback_answer` sorts the
candidate sentences by word overlap. Python compares keys with `<` only. When `<` is a strict
weak order on the keys of the list (`StrictWeakOn`), as it is on integers and on floats other
than NaN, the sort is stable, and with `reverse=True` records of equal key keep their
original order. `sortByKeyDesc` computes that list by insertion: a record moves before
another only when its key is strictly larger.

A NaN breaks the order: no comparison with it holds. CPython still rearranges the list, by
the path its algorithm takes, and the result need not be ordered. `cpythonSortDesc` is that
path for a list of fewer than 64 records, which CPython sorts as one run: the run at the head
of the reversed list, then binary insertion of the rest.

* `perm_sortByKeyDesc`, `pairwise_sortByKeyDesc` — a permutation, by non-increasing key;
* `filter_sortByKeyDesc` — stability: the records of one key keep their order;
* `isTopK_take_sortByKeyDesc` — the first `k` records (`sorted[:k]`) are a top-`k`;
* `sortByKeyDesc_eq_cons` — the head is the first record of largest key;
* `perm_cpythonSortDesc` — CPython's path only rearranges the list.
-/

namespace KotaRag

open scoped List

section Sorting

variable {α β : Type} [LT β] (key : α → β)

/-- `<` is a strict weak order on the keys of `l`, which Python's sort needs to sort: no two
keys are each below the other, and not being below is transitive. A NaN breaks the second:
`x < NaN` and `NaN < y` both fail while `x < y` may hold. -/
def StrictWeakOn (l : List α) : Prop :=
  ∀ a ∈ l, ∀ b ∈ l, ∀ c ∈ l, ¬ (key a < key b ∧ key b < key a) ∧
    (¬ key a < key b → ¬ key b < key c → ¬ key a < key c)

/-- Records that all share a key `c` with `¬ c < c` are a list on which `<` is a strict weak
order. -/
theorem strictWeakOn_of_forall_eq {l : List α} {c : β} (hc : ¬ c < c) (h : ∀ x ∈ l, key x = c) :
    StrictWeakOn key l := fun a ha b hb d hd => by
  simp only [h a ha, h b hb, h d hd, and_self, hc, not_false_eq_true, imp_self, implies_true,
    and_true]

variable [DecidableRel (@LT.lt β _)]

/-- `a` may stand before `b` in a list sorted by `key`, largest first: `key a < key b` fails. -/
def KeyGe (a b : α) : Prop := ¬ key a < key b

instance : DecidableRel (KeyGe key) := fun a b => inferInstanceAs (Decidable (¬ key a < key b))

/-- `l.sort(key=key, reverse=True)` when `<` is a strict weak order on the keys. -/
def sortByKeyDesc (l : List α) : List α := l.insertionSort (KeyGe key)

theorem perm_sortByKeyDesc (l : List α) : sortByKeyDesc key l ~ l :=
  List.perm_insertionSort _ l

@[simp] theorem sortByKeyDesc_eq_nil_iff {l : List α} : sortByKeyDesc key l = [] ↔ l = [] := by
  rw [← List.length_eq_zero, (perm_sortByKeyDesc key l).length_eq, List.length_eq_zero]

/-- Records that all share a key `c` with `¬ c < c` are already in order: the sort leaves them
as they are. -/
theorem sortByKeyDesc_of_forall_eq {l : List α} {c : β} (hc : ¬ c < c) (h : ∀ x ∈ l, key x = c) :
    sortByKeyDesc key l = l :=
  List.Sorted.insertionSort_eq (List.pairwise_of_forall_mem_list fun a ha b hb => by
    simpa only [KeyGe, h a ha, h b hb] using hc)

end Sorting

/-! ## Over a linear order -/

section Linear

variable {α β : Type} [LinearOrder β] (key : α → β)

theorem keyGe_iff {a b : α} : KeyGe key a b ↔ key b ≤ key a := not_lt

instance : IsTotal α (KeyGe key) :=
  ⟨fun a b => (le_total (key b) (key a)).imp (keyGe_iff key).mpr (keyGe_iff key).mpr⟩

instance : IsTrans α (KeyGe key) :=
  ⟨fun _ _ _ hab hbc => (keyGe_iff key).mpr (le_trans ((keyGe_iff key).mp hbc)
    ((keyGe_iff key).mp hab))⟩

/-- On a linear order, `<` is a strict weak order on every list: there is no NaN. -/
theorem strictWeakOn_of_linearOrder (l : List α) : StrictWeakOn key l :=
  fun _ _ _ _ _ _ => ⟨fun h => lt_asymm h.1 h.2, fun h₁ h₂ => not_lt.mpr
    (le_trans (not_lt.mp h₂) (not_lt.mp h₁))⟩

theorem pairwise_sortByKeyDesc (l : List α) : (sortByKeyDesc key l).Pairwise (KeyGe key) :=
  List.sorted_insertionSort _ l

/-- **Stability.** The records of one key come out in the order they went in. -/
theorem filter_sortByKeyDesc (l : List α) (v : β) :
    (sortByKeyDesc key l).filter (fun x => key x = v) = l.filter (fun x => key x = v) := by
  -- the records of key `v` are trivially sorted, so they stay a sublist of the sorted list
  have hpw : (l.filter fun x => key x = v).Pairwise (KeyGe key) :=
    List.pairwise_of_forall_mem_list fun a ha b hb => by
      simp only [List.mem_filter, decide_eq_true_eq] at ha hb
      simp only [KeyGe, ha.2, hb.2, lt_irrefl, not_false_eq_true]
  have hsub := (List.sublist_insertionSort hpw (List.filter_sublist l)).filter
    fun x => decide (key x = v)
  simp only [List.filter_filter, Bool.and_self] at hsub
  exact (hsub.eq_of_length ((perm_sortByKeyDesc key l).filter _).length_eq.symm).symm

/-- `r` is a top-`k` of `l` by `key`: `min k (len l)` records of `l`, by non-increasing
key; of each key, the first ones of `l` in their order; and none of the records left out
has a larger key than a record taken. -/
structure IsTopK (l r : List α) (k : Nat) : Prop where
  /-- `min k (len l)` records -/
  length_eq : r.length = min k l.length
  /-- distinct records of `l` -/
  subperm : r <+~ l
  /-- by non-increasing key -/
  sorted : r.Pairwise (KeyGe key)
  /-- of each key, the first ones of `l`, in their order -/
  stable : ∀ v, r.filter (fun x => key x = v) <+: l.filter (fun x => key x = v)
  /-- no record left out has a larger key than one taken -/
  maximal : ∃ rest, r ++ rest ~ l ∧ ∀ x ∈ rest, ∀ y ∈ r, key x ≤ key y

/-- **The first `k` records** of the sorted list are a top-`k`. -/
theorem isTopK_take_sortByKeyDesc (l : List α) (k : Nat) :
    IsTopK key l ((sortByKeyDesc key l).take k) k := by
  have hperm := perm_sortByKeyDesc key l
  refine ⟨by rw [List.length_take, hperm.length_eq], (List.take_sublist k _).subperm.trans
      hperm.subperm, (pairwise_sortByKeyDesc key l).sublist (List.take_sublist k _),
      fun v => filter_sortByKeyDesc key l v ▸ (List.take_prefix k _).filter _,
      (sortByKeyDesc key l).drop k, by rw [List.take_append_drop]; exact hperm, ?_⟩
  exact fun x hx y hy => (keyGe_iff key).mp
    ((pairwise_sortByKeyDesc key l).rel_of_mem_take_of_mem_drop hy hx)

/-- **The head** of the sorted list is the first record of largest key. -/
theorem sortByKeyDesc_eq_cons {l : List α} {x : α} {xs : List α}
    (h : sortByKeyDesc key l = x :: xs) :
    ∃ pre post, l = pre ++ x :: post ∧ (∀ y ∈ pre, key y < key x) ∧ ∀ y ∈ post, key y ≤ key x := by
  have hmax : ∀ y ∈ l, key y ≤ key x := fun y hy => by
    have hpw := pairwise_sortByKeyDesc key l
    have hy' := (perm_sortByKeyDesc key l).mem_iff.mpr hy
    rw [h] at hpw hy'
    rcases List.mem_cons.mp hy' with rfl | hy'
    · exact le_refl _
    · exact (keyGe_iff key).mp ((List.pairwise_cons.mp hpw).1 y hy')
  -- by stability, `x` is also the first record of its key in `l`
  have hfirst := filter_sortByKeyDesc key l (key x)
  rw [h, List.filter_cons_of_pos (by simp)] at hfirst
  obtain ⟨pre, post, rfl, hpre, -, -⟩ := List.filter_eq_cons_iff.mp hfirst.symm
  refine ⟨pre, post, rfl, fun y hy => lt_of_le_of_ne (hmax y (by simp [hy])) ?_,
    fun y hy => hmax y (by simp [hy])⟩
  simpa using hpre y hy

end Linear

/-! ## CPython's sort of a short list -/

section CPython

variable {α β : Type} [LT β] [DecidableRel (@LT.lt β _)] (key : α → β)

/-- How many records of `rest` continue a run after `prev`, each while `continues` holds of
the record before it and itself. -/
def runLength (continues : α → α → Bool) : α → List α → Nat
  | _, [] => 0
  | prev, x :: xs => if continues prev x then runLength continues x xs + 1 else 0

/-- `count_run`: the length of the run at the head of the list, and whether it descends. A
descending run has each key strictly below the one before it (`IFLT(*lo, *(lo-1))`); an
ascending one has no key strictly below the one before it. -/
def countRun : List α → Nat × Bool
  | [] => (0, false)
  | [_] => (1, false)
  | a :: b :: rest =>
    if key b < key a then (runLength (fun p x => decide (key x < key p)) b rest + 2, true)
    else (runLength (fun p x => !decide (key x < key p)) b rest + 2, false)

/-- The `do ... while (l < r)` loop of `binarysort`: the slot of `pivot` in the sorted `run`,
searched in `[l, r)`. `IFLT(pivot, *p)` sends it left of `p`, anything else right of it, so
it lands after the records of equal key. `fuel` bounds the halvings. -/
def binarySlot (pivot : α) (run : List α) : Nat → Nat → Nat → Nat
  | 0, l, _ => l
  | fuel + 1, l, r =>
    let p := l + (r - l) / 2
    if key pivot < key (run.getD p pivot) then
      if l < p then binarySlot pivot run fuel l p else l
    else if p + 1 < r then binarySlot pivot run fuel (p + 1) r else p + 1

/-- `binarysort`: each record after the sorted `run` slides into the slot the binary search
finds for it. -/
def binarySort (run : List α) : List α → List α
  | [] => run
  | x :: rest =>
    let slot := binarySlot key x run run.length 0 run.length
    binarySort (run.take slot ++ x :: run.drop slot) rest

/-- CPython's `list.sort(key=key, reverse=True)` on a list of fewer than 64 records, which
it sorts as one run: it reverses the list, takes the run at its head (reversed when it
descends), inserts the other records with `binarysort`, and reverses the result. -/
def cpythonSortDesc (l : List α) : List α :=
  let run := countRun key l.reverse
  (binarySort key (if run.2 then (l.reverse.take run.1).reverse else l.reverse.take run.1)
    (l.reverse.drop run.1)).reverse

/-- `binarysort` only moves records: it returns the run and the rest, rearranged. -/
theorem perm_binarySort : ∀ (run rest : List α), binarySort key run rest ~ run ++ rest
  | run, [] => by rw [binarySort, List.append_nil]
  | run, x :: rest => by
    rw [binarySort]
    -- the record goes into the run at its slot
    have hins : run.take (binarySlot key x run run.length 0 run.length) ++
        x :: run.drop (binarySlot key x run run.length 0 run.length) ~ x :: run :=
      List.perm_middle.trans (by rw [List.take_append_drop])
    exact (perm_binarySort _ rest).trans ((hins.append_right rest).trans List.perm_middle.symm)

/-- **CPython's path only rearranges the list**, whatever the keys compare like. -/
theorem perm_cpythonSortDesc (l : List α) : cpythonSortDesc key l ~ l := by
  have hrun : ∀ (b : Bool) (n : Nat), (if b then (l.reverse.take n).reverse else
      l.reverse.take n) ++ l.reverse.drop n ~ l.reverse := fun b n => by
    cases b
    · exact (List.take_append_drop n _).symm ▸ List.Perm.refl _
    · exact ((List.reverse_perm _).append_right _).trans
        ((List.take_append_drop n _).symm ▸ List.Perm.refl _)
  exact (List.reverse_perm _).trans ((perm_binarySort key _ _).trans
    ((hrun _ _).trans (List.reverse_perm l)))

end CPython

end KotaRag
