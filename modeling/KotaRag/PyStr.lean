import Mathlib.Data.List.DropRight
import Mathlib.Data.List.Infix

/-!
# Python `str` primitives

The pipeline of `examples/rag-pipeline/rag_demo.py` works on Python strings through a few
library operations: `str.isspace`, `str.strip`, `str.split`, `re.split`, slicing `s[a:b]`
with Python's index normalisation, and `str.rfind`. A Python `str` is a sequence of code
points, modelled here as `List Char`; each operation is written from CPython's documented semantics, and the
facts the chunker and the answerer need are proved once below.

* `sliceIndex`/`pySlice` — negative bounds count from the end and every bound is clamped
  to `[0, len]`. The chunker reaches negative window starts (`start = end - overlap`), so
  this normalisation is part of the model, not a detail.
* `lastMatch`/`rfind` — `rfind` is the largest index at which the needle occurs, or `-1`.
* `pySplit`/`reSplitRuns` — `str.split()` and `re.split` on runs of a character class.
-/

namespace KotaRag

/-- A Python `str`: a finite sequence of code points. -/
abbrev PyStr : Type := List Char

/-! ## Whitespace and `strip` -/

/-- `c.isspace()`: CPython's `Py_UNICODE_ISSPACE`. It is also the class `\s` matches in a
`str` pattern and the set `str.strip()` and `str.split()` cut on. -/
def isPySpace (c : Char) : Bool :=
  let n := c.toNat
  n == 32 || (9 ≤ n && n ≤ 13) || (28 ≤ n && n ≤ 31) || n == 0x85 || n == 0xA0 ||
    n == 0x1680 || (0x2000 ≤ n && n ≤ 0x200A) || n == 0x2028 || n == 0x2029 ||
    n == 0x202F || n == 0x205F || n == 0x3000

/-- `s.strip()`: drop leading and trailing whitespace. -/
def pyStrip (s : PyStr) : PyStr := (s.dropWhile isPySpace).rdropWhile isPySpace

@[simp] theorem pyStrip_nil : pyStrip [] = [] := rfl

/-- A string strips to nothing exactly when it is all whitespace. -/
theorem pyStrip_eq_nil_iff {s : PyStr} : pyStrip s = [] ↔ ∀ c ∈ s, isPySpace c = true := by
  rw [pyStrip, List.rdropWhile_eq_nil_iff, ← List.dropWhile_eq_nil_iff,
    List.dropWhile_idempotent, List.dropWhile_eq_nil_iff]

/-- Stripping keeps a string that contains a non-whitespace code point non-empty. -/
theorem pyStrip_ne_nil_of_mem {s : PyStr} {c : Char} (hc : c ∈ s) (hsp : isPySpace c = false) :
    pyStrip s ≠ [] := fun h => by simp [pyStrip_eq_nil_iff.mp h c hc] at hsp

/-- The first code point of a stripped string is not whitespace. -/
theorem pyStrip_head_not_space {s : PyStr} (h : pyStrip s ≠ []) :
    isPySpace ((pyStrip s).head h) = false := by
  have hd : s.dropWhile isPySpace ≠ [] := fun hd => h (by simp [pyStrip, hd])
  show isPySpace ((List.rdropWhile isPySpace (s.dropWhile isPySpace)).head h) = false
  rw [List.IsPrefix.head (List.rdropWhile_prefix isPySpace _) h]
  simpa using List.head_dropWhile_not isPySpace s hd

/-- The last code point of a stripped string is not whitespace. -/
theorem pyStrip_getLast_not_space {s : PyStr} (h : pyStrip s ≠ []) :
    isPySpace ((pyStrip s).getLast h) = false := by
  simpa using List.rdropWhile_last_not isPySpace _ h

/-- `strip` is idempotent. -/
@[simp] theorem pyStrip_pyStrip (s : PyStr) : pyStrip (pyStrip s) = pyStrip s := by
  by_cases h : pyStrip s = []
  · rw [h]; rfl
  · have hd : (pyStrip s).dropWhile isPySpace = pyStrip s := by
      obtain ⟨c, t, hct⟩ := List.exists_cons_of_ne_nil h
      have hc : isPySpace c = false := by simpa [hct] using pyStrip_head_not_space h
      rw [hct, List.dropWhile_cons_of_neg (by simp [hc])]
    rw [pyStrip, hd, pyStrip, List.rdropWhile_idempotent]

/-- A stripped string is a piece of the original. -/
theorem pyStrip_isInfix_self (s : PyStr) : pyStrip s <:+: s :=
  (List.rdropWhile_prefix isPySpace _).isInfix.trans (List.dropWhile_suffix isPySpace).isInfix

/-! ## Splitting -/

/-- `s.split()`: the maximal runs of non-whitespace code points. -/
def pySplit (s : PyStr) : List PyStr := (s.splitOnP isPySpace).filter fun word => !word.isEmpty

/-- `re.split(pattern, s)` for a pattern `[...]+` whose class is `cls`: the pieces between the
maximal runs of members of the class, with an empty piece before a leading run and after a
trailing one. -/
def reSplitRuns (cls : Char → Bool) : PyStr → List PyStr
  | [] => [[]]
  | c :: cs =>
    if cls c then
      if (cs.head?.map cls).getD false then reSplitRuns cls cs else [] :: reSplitRuns cls cs
    else
      match reSplitRuns cls cs with
      | [] => [[c]]
      | piece :: pieces => (c :: piece) :: pieces

/-! ## Decimal numerals -/

/-- One decimal digit's value. -/
def digitValue (c : Char) : Nat := c.toNat - '0'.toNat

/-- `int(s)` for a string `s` of decimal digits, read from the left. -/
def digitsValue (s : PyStr) : Nat := s.foldl (fun acc c => 10 * acc + digitValue c) 0

/-! ## Slicing -/

section Slicing

variable {α : Type}

/-- Python's normalisation of one slice bound for a sequence of length `len`: a negative
index counts from the end, and the result is clamped to `[0, len]`. -/
def sliceIndex (len : Nat) (i : Int) : Nat :=
  if i < 0 then (i + len).toNat else min i.toNat len

/-- `s[a:b]`, on a `str` or a `list`. -/
def pySlice (s : List α) (a b : Int) : List α :=
  (s.drop (sliceIndex s.length a)).take (sliceIndex s.length b - sliceIndex s.length a)

/-- With non-negative bounds a slice is a `drop` followed by a `take`. -/
theorem pySlice_of_nonneg (s : List α) {a b : Int} (ha : 0 ≤ a) (hb : 0 ≤ b) :
    pySlice s a b = (s.drop a.toNat).take (b - a).toNat := by
  simp only [pySlice, sliceIndex, if_neg (Int.not_lt.mpr ha), if_neg (Int.not_lt.mpr hb)]
  rcases Nat.le_total a.toNat s.length with h | h
  · rw [Nat.min_eq_left h]
    rcases Nat.le_total b.toNat s.length with h' | h'
    · rw [Nat.min_eq_left h']; congr 1; omega
    · rw [Nat.min_eq_right h', List.take_of_length_le (by simp),
        List.take_of_length_le (by simp; omega)]
  · rw [Nat.min_eq_right h, List.drop_of_length_le h, List.drop_of_length_le (le_refl _)]
    simp

/-- A slice is a piece of the sequence. -/
theorem pySlice_isInfix_self (s : List α) (a b : Int) : pySlice s a b <:+: s :=
  (List.take_prefix _ _).isInfix.trans (List.drop_suffix _ s).isInfix

/-- A slice between non-negative bounds is at most as long as they are apart. -/
theorem length_pySlice_le (s : List α) {a b : Int} (ha : 0 ≤ a) (hb : 0 ≤ b) :
    (pySlice s a b).length ≤ (b - a).toNat := by
  rw [pySlice_of_nonneg s ha hb]
  exact List.length_take_le _ _

/-- A slice starting at a negative index `a` and ending at most `len` places later is empty:
the start is read from the end of the string, at or after the end. -/
theorem pySlice_eq_nil_of_neg (s : List α) {a b : Int} (ha : a < 0) (hb0 : 0 ≤ b)
    (hb : b ≤ a + s.length) : pySlice s a b = [] := by
  simp only [pySlice, sliceIndex, if_pos ha, if_neg (Int.not_lt.mpr hb0)]
  rw [show min b.toNat s.length - (a + s.length).toNat = 0 by omega]
  simp

/-- Every code point of `s` at an index in `[a, b)` lies in `s[a:b]`. -/
theorem getElem_mem_pySlice (s : List α) {a b : Int} {i : Nat} (ha : 0 ≤ a) (hai : a ≤ i)
    (hib : i < b) (hi : i < s.length) : s[i] ∈ pySlice s a b := by
  rw [pySlice_of_nonneg s ha (by omega), List.mem_take_iff_getElem]
  refine ⟨i - a.toNat, by simp; omega, ?_⟩
  simp only [List.getElem_drop]
  congr 1; omega

/-- Every code point of `s[a:b]` sits at an index in `[a, b)`. -/
theorem mem_pySlice {s : List α} {a b : Int} {x : α} (ha : 0 ≤ a) (hb : 0 ≤ b)
    (hx : x ∈ pySlice s a b) : ∃ (i : Nat) (hi : i < s.length), a ≤ i ∧ i < b ∧ s[i] = x := by
  rw [pySlice_of_nonneg s ha hb] at hx
  obtain ⟨j, hj, rfl⟩ := List.mem_take_iff_getElem.mp hx
  simp only [List.length_drop, Nat.lt_min] at hj
  exact ⟨a.toNat + j, by omega, by omega, by omega, by simp⟩

/-- Consecutive slices concatenate. -/
theorem pySlice_append (s : List α) {a b c : Int} (ha : 0 ≤ a) (hab : a ≤ b) (hbc : b ≤ c) :
    pySlice s a b ++ pySlice s b c = pySlice s a c := by
  rw [pySlice_of_nonneg s ha (by omega), pySlice_of_nonneg s (by omega) (by omega),
    pySlice_of_nonneg s ha (by omega),
    show (c - a).toNat = (b - a).toNat + (c - b).toNat by omega, List.take_add,
    List.drop_drop, show a.toNat + (b - a).toNat = b.toNat by omega]

/-- A slice from `0` to the length or beyond is the whole string. -/
theorem pySlice_zero_of_le (s : List α) {b : Int} (hb : s.length ≤ b) : pySlice s 0 b = s := by
  rw [pySlice_of_nonneg s (Int.le_refl 0) (by omega)]
  simp only [Int.toNat_zero, List.drop_zero, Int.sub_zero]
  exact List.take_of_length_le (by omega)

/-- `s[:k]` with `k ≥ 0` keeps the first `k` items. -/
theorem pySlice_zero_of_nonneg (s : List α) {k : Int} (hk : 0 ≤ k) :
    pySlice s 0 k = s.take k.toNat := by
  rw [pySlice_of_nonneg s (Int.le_refl 0) hk]
  simp only [Int.toNat_zero, List.drop_zero, Int.sub_zero]

/-- `s[:k]` with `k < 0` drops the last `-k` items. -/
theorem pySlice_zero_of_neg (s : List α) {k : Int} (hk : k < 0) :
    pySlice s 0 k = s.take (s.length - k.natAbs) := by
  have h0 : sliceIndex s.length 0 = 0 := by simp [sliceIndex]
  rw [pySlice, h0, List.drop_zero, Nat.sub_zero, sliceIndex, if_pos hk]
  congr 1
  omega

end Slicing

/-! ## `rfind` -/

/-- The largest `i < n` with `p i`, or `-1` when there is none. -/
def lastMatch (p : Nat → Bool) : Nat → Int
  | 0 => -1
  | n + 1 => if p n then n else lastMatch p n

/-- `lastMatch` either finds nothing below `n`, or finds a match above which no index
below `n` matches. -/
theorem lastMatch_spec (p : Nat → Bool) (n : Nat) :
    (lastMatch p n = -1 ∧ ∀ i < n, p i = false) ∨
      ∃ i : Nat, lastMatch p n = i ∧ i < n ∧ p i = true ∧ ∀ j, i < j → j < n → p j = false := by
  induction n with
  | zero => exact .inl ⟨rfl, fun i hi => absurd hi (Nat.not_lt_zero i)⟩
  | succ n ih =>
    simp only [lastMatch]
    by_cases hn : p n = true
    · exact .inr ⟨n, by simp [hn], by omega, hn, fun j hj hj' => absurd hj' (by omega)⟩
    · rw [if_neg hn]
      rcases ih with ⟨h, hall⟩ | ⟨i, h, hi, hpi, hmax⟩
      · refine .inl ⟨h, fun i hi => ?_⟩
        rcases Nat.lt_succ_iff_lt_or_eq.mp hi with hi | rfl
        · exact hall i hi
        · simpa using hn
      · refine .inr ⟨i, h, by omega, hpi, fun j hj hj' => ?_⟩
        rcases Nat.lt_succ_iff_lt_or_eq.mp hj' with hj' | rfl
        · exact hmax j hj hj'
        · simpa using hn

/-- `s.rfind(sub)`: the highest index at which `sub` occurs in `s`, or `-1`. -/
def rfind (s sub : PyStr) : Int := lastMatch (fun i => sub.isPrefixOf (s.drop i)) (s.length + 1)

/-- `rfind` of a non-empty needle either finds no occurrence, or the last one. -/
theorem rfind_spec (s : PyStr) {sub : PyStr} (hsub : sub ≠ []) :
    (rfind s sub = -1 ∧ ∀ q, ¬ sub <+: s.drop q) ∨
      ∃ p : Nat, rfind s sub = p ∧ sub <+: s.drop p ∧ ∀ q, sub <+: s.drop q → q ≤ p := by
  have hlen : ∀ q, sub <+: s.drop q → q < s.length + 1 := fun q hq => by
    have := hq.length_le
    have : 0 < sub.length := List.length_pos.mpr hsub
    simp at *; omega
  rcases lastMatch_spec (fun i => sub.isPrefixOf (s.drop i)) (s.length + 1) with
    ⟨h, hall⟩ | ⟨p, h, -, hp, hmax⟩
  · exact .inl ⟨h, fun q hq =>
      Bool.eq_false_iff.mp (hall q (hlen q hq)) (List.isPrefixOf_iff_prefix.mpr hq)⟩
  · refine .inr ⟨p, h, by simpa using hp, fun q hq => ?_⟩
    by_contra hlt
    exact Bool.eq_false_iff.mp (hmax q (by omega) (hlen q hq)) (List.isPrefixOf_iff_prefix.mpr hq)

end KotaRag
