import KotaRag.Chunker.Defs

/-!
# Where a window ends

`_find_sentence_boundary` scans the six endings in turn and keeps `pos + 1` for an ending
whose last occurrence `pos` beats the best so far and lies in the trailing fifth. Because
every ending is two code points long, a punctuation mark followed by a blank, two endings
never start at neighbouring positions, so the scan returns one past the *last* sentence
ending that starts in the trailing fifth (`findSentenceBoundary_spec`).

In the text's own coordinates this says that a window `[s, s + chunk_size)` that is not the
last one ends just after its last admissible sentence ending (`IsCut`), or at
`s + chunk_size` when it has none (`windowEnd_spec`). From it follows the fact the whole
loop analysis rests on: among non-negative starts, a later window never ends earlier
(`windowEnd_mono`). Counted from the window's start, the same fact is the cut rule
(`windowEnd_cut_rule`): an ending counts only when it starts strictly past four fifths of the
window, so one that starts at exactly four fifths does not cut it.
-/

namespace KotaRag

/-- A sentence ending starts the string: a `.`, `!` or `?` followed by a blank or a newline. -/
def isSentenceEnd : PyStr → Bool
  | c₁ :: c₂ :: _ => (c₁ == '.' || c₁ == '!' || c₁ == '?') && (c₂ == ' ' || c₂ == '\n')
  | _ => false

theorem sentenceEndings_eq : sentenceEndings =
    [['.', ' '], ['!', ' '], ['?', ' '], ['.', '\n'], ['!', '\n'], ['?', '\n']] := rfl

/-- The six endings are exactly the strings `isSentenceEnd` recognises. -/
theorem isSentenceEnd_iff (s : PyStr) :
    isSentenceEnd s = true ↔ ∃ e ∈ sentenceEndings, e <+: s := by
  match s with
  | [] => simp [isSentenceEnd, sentenceEndings_eq]
  | [c] => simp [isSentenceEnd, sentenceEndings_eq]
  | c₁ :: c₂ :: r =>
    simp only [isSentenceEnd, sentenceEndings_eq, List.mem_cons, List.mem_singleton,
      List.not_mem_nil, exists_eq_or_imp, exists_eq_left, or_false, List.cons_prefix_cons,
      List.nil_prefix, and_true, Bool.and_eq_true, Bool.or_eq_true, beq_iff_eq]
    constructor
    · rintro ⟨(h₁ | h₁) | h₁, h₂ | h₂⟩ <;> subst h₁ h₂ <;> simp
    · rintro (⟨rfl, rfl⟩ | ⟨rfl, rfl⟩ | ⟨rfl, rfl⟩ | ⟨rfl, rfl⟩ | ⟨rfl, rfl⟩ | ⟨rfl, rfl⟩) <;> simp

/-- Two sentence endings never start at neighbouring positions. -/
theorem not_isSentenceEnd_succ {s : PyStr} {p : Nat} (h : isSentenceEnd (s.drop p) = true) :
    isSentenceEnd (s.drop (p + 1)) = false := by
  rw [← List.drop_drop]
  match hs : s.drop p, h with
  | c₁ :: c₂ :: r, h =>
    simp only [isSentenceEnd, Bool.and_eq_true, Bool.or_eq_true, beq_iff_eq] at h
    rcases h.2 with rfl | rfl <;> cases r <;> rfl

/-- Cutting a string after `k` code points keeps a sentence ending at its start when both of
its code points survive. -/
theorem isSentenceEnd_take (l : PyStr) (k : Nat) :
    isSentenceEnd (l.take k) = (isSentenceEnd l && decide (2 ≤ k)) := by
  match l, k with
  | [], _ => simp [isSentenceEnd]
  | [_], k => cases k <;> simp [isSentenceEnd]
  | _ :: _ :: _, 0 => simp [isSentenceEnd]
  | _ :: _ :: _, 1 => simp [isSentenceEnd]
  | _ :: _ :: _, k + 2 => simp [isSentenceEnd]

/-! ## `_find_sentence_boundary` -/

/-- A position where `_find_sentence_boundary` may cut `text`: a sentence ending starts
there, in the trailing fifth of `text`. -/
def IsBoundary (text : PyStr) (p : Nat) : Prop :=
  isSentenceEnd (text.drop p) = true ∧ 4 * (text.length : Int) < 5 * p

/-- An occurrence of one of the endings `E` at `q`, in the trailing fifth of `text`. -/
private def Hit (text : PyStr) (E : List PyStr) (q : Nat) : Prop :=
  (∃ e ∈ E, e <+: text.drop q) ∧ 4 * (text.length : Int) < 5 * q

private theorem hit_append {text : PyStr} {E : List PyStr} {e : PyStr} {q : Nat} :
    Hit text (E ++ [e]) q ↔
      Hit text E q ∨ (e <+: text.drop q ∧ 4 * (text.length : Int) < 5 * q) := by
  simp only [Hit, List.mem_append, List.mem_singleton]
  constructor
  · rintro ⟨⟨e', he' | rfl, hp⟩, h⟩
    · exact .inl ⟨⟨e', he', hp⟩, h⟩
    · exact .inr ⟨hp, h⟩
  · rintro (⟨⟨e', he', hp⟩, h⟩ | ⟨hp, h⟩)
    · exact ⟨⟨e', .inl he', hp⟩, h⟩
    · exact ⟨⟨e, .inr rfl, hp⟩, h⟩

/-- What the scan over the endings `E` has found: nothing, or one past the last hit. -/
private def ScanState (text : PyStr) (E : List PyStr) (best : Int) : Prop :=
  (best = -1 ∧ ∀ q, ¬ Hit text E q) ∨
    ∃ p : Nat, best = p + 1 ∧ Hit text E p ∧ ∀ q, Hit text E q → q ≤ p

/-- The body of the scan of `_find_sentence_boundary`. -/
private def scanStep (text : PyStr) (bestPos : Int) (ending : PyStr) : Int :=
  if bestPos < rfind text ending ∧ 4 * (text.length : Int) < 5 * rfind text ending then
    rfind text ending + ending.length - 1
  else bestPos

/-- One pass of the scan keeps `ScanState`. -/
private theorem scanState_step {text : PyStr} {E : List PyStr} {best : Int} {e : PyStr}
    (he : e ∈ sentenceEndings) (hE : ∀ e' ∈ E, e' ∈ sentenceEndings)
    (h : ScanState text E best) : ScanState text (E ++ [e]) (scanStep text best e) := by
  have hlen : e.length = 2 := by
    simp only [sentenceEndings_eq, List.mem_cons, List.mem_singleton, List.not_mem_nil,
      or_false] at he
    rcases he with rfl | rfl | rfl | rfl | rfl | rfl <;> rfl
  have hne : e ≠ [] := fun h => by simp [h] at hlen
  unfold scanStep
  rcases rfind_spec text hne with ⟨hr, hnone⟩ | ⟨pos, hr, hpos, hmax⟩
  · -- `e` does not occur: the hits are those of `E`, and the scan keeps its value
    have hsame : ∀ q, Hit text (E ++ [e]) q ↔ Hit text E q := fun q => by
      simp [hit_append, hnone q]
    rw [hr, if_neg (by rcases h with ⟨rfl, -⟩ | ⟨p, rfl, -⟩ <;> omega)]
    simpa only [ScanState, hsame] using h
  · rw [hr, hlen]
    split
    · -- the last occurrence of `e` is past the best so far: it becomes the best
      rename_i hif
      refine .inr ⟨pos, by omega, hit_append.mpr (.inr ⟨hpos, hif.2⟩), fun q hq => ?_⟩
      rcases hit_append.mp hq with hq | ⟨hq, -⟩
      · rcases h with ⟨-, hnone⟩ | ⟨p, rfl, -, hmax'⟩
        · exact absurd hq (hnone q)
        · have := hmax' q hq; omega
      · exact hmax q hq
    · -- otherwise no occurrence of `e` beats the best so far
      rename_i hif
      have hle : ∀ q, e <+: text.drop q → 4 * (text.length : Int) < 5 * q →
          ∃ p : Nat, best = p + 1 ∧ Hit text E p ∧ q ≤ p := by
        intro q hq hq5
        have hqp := hmax q hq
        rcases h with ⟨rfl, -⟩ | ⟨p, rfl, hp, -⟩
        · exact absurd ⟨by omega, by omega⟩ hif
        · refine ⟨p, rfl, hp, ?_⟩
          by_contra hlt
          have hq1 : q = p + 1 := by
            have : ¬ ((p : Int) + 1 < pos ∧ 4 * (text.length : Int) < 5 * pos) := hif
            omega
          obtain ⟨⟨e', he', hp'⟩, -⟩ := hp
          have h1 := (isSentenceEnd_iff _).mpr ⟨e', hE e' he', hp'⟩
          have h2 := (isSentenceEnd_iff _).mpr ⟨e, he, hq1 ▸ hq⟩
          simp [not_isSentenceEnd_succ h1] at h2
      rcases h with ⟨rfl, hnone⟩ | ⟨p, rfl, hp, hmax'⟩
      · refine .inl ⟨rfl, fun q hq => ?_⟩
        rcases hit_append.mp hq with hq | ⟨hq, hq5⟩
        · exact hnone q hq
        · obtain ⟨p, hp, -⟩ := hle q hq hq5; omega
      · refine .inr ⟨p, rfl, hit_append.mpr (.inl hp), fun q hq => ?_⟩
        rcases hit_append.mp hq with hq | ⟨hq, hq5⟩
        · exact hmax' q hq
        · obtain ⟨p', hp', -, hle'⟩ := hle q hq hq5
          have : p' = p := by omega
          omega

/-- The scan over a list of endings keeps `ScanState`. -/
private theorem scanState_foldl {text : PyStr} :
    ∀ (L E : List PyStr) (best : Int), (∀ e ∈ L, e ∈ sentenceEndings) →
      (∀ e ∈ E, e ∈ sentenceEndings) → ScanState text E best →
        ScanState text (E ++ L) (L.foldl (scanStep text) best)
  | [], E, best, _, _, h => by simpa using h
  | e :: L, E, best, hL, hE, h => by
    have := scanState_foldl L (E ++ [e]) (scanStep text best e) (fun e' h' => hL e' (.tail _ h'))
      (fun e' h' => (List.mem_append.mp h').elim (hE e')
        fun h => (List.mem_singleton.mp h) ▸ hL e (.head _))
      (scanState_step (hL e (.head _)) hE h)
    simpa using this

/-- **`_find_sentence_boundary` returns one past the last boundary**, or `-1` when there is
none. -/
theorem findSentenceBoundary_spec (text : PyStr) :
    (findSentenceBoundary text = -1 ∧ ∀ p, ¬ IsBoundary text p) ∨
      ∃ p : Nat, findSentenceBoundary text = p + 1 ∧ IsBoundary text p ∧
        ∀ q, IsBoundary text q → q ≤ p := by
  have hiff : ∀ q, Hit text sentenceEndings q ↔ IsBoundary text q := fun q => by
    rw [Hit, IsBoundary, isSentenceEnd_iff]
  have h := @scanState_foldl text sentenceEndings [] (-1) (fun _ h => h)
    (fun _ h => absurd h (List.not_mem_nil _)) (.inl ⟨rfl, fun q hq => by simp [Hit] at hq⟩)
  simpa only [List.nil_append, ScanState, hiff] using h

/-- `_find_sentence_boundary` finds nothing in an empty text. -/
theorem findSentenceBoundary_nil : findSentenceBoundary [] = -1 := by decide

/-! ## The window end in the text's coordinates -/

namespace DocumentChunker

variable (ch : DocumentChunker) (T : PyStr)

/-- A sentence ending at `P` where the window starting at `s` may be cut: it lies wholly in
the window and starts in its trailing fifth. -/
def IsCut (s : Int) (P : Nat) : Prop :=
  isSentenceEnd (T.drop P) = true ∧ s ≤ P ∧ P + 2 ≤ s + ch.chunkSize ∧
    4 * ch.chunkSize < 5 * (P - s)

variable {ch T}

/-- Seen from the window `T[s:s+chunk_size]`, a boundary at `p` is the cut `s + p`. -/
theorem isBoundary_window_iff {s : Int} (hs : 0 ≤ s) (hcs : 0 ≤ ch.chunkSize)
    (hlt : s + ch.chunkSize ≤ T.length) (p : Nat) :
    IsBoundary (pySlice T s (s + ch.chunkSize)) p ↔ ch.IsCut T s (s.toNat + p) := by
  -- with both offsets as naturals, no `toNat` is left for `omega` to split on
  obtain ⟨n, rfl⟩ := Int.eq_ofNat_of_zero_le hs
  obtain ⟨c, hc⟩ := Int.eq_ofNat_of_zero_le hcs
  rw [pySlice_of_nonneg T hs (by omega), IsBoundary, IsCut, hc,
    show ((n : Int) + c - n).toNat = c by omega, show (n : Int).toNat = n by omega,
    List.drop_take, List.drop_drop, isSentenceEnd_take]
  have hlen : ((T.drop n).take c).length = c := by
    simp only [List.length_take, List.length_drop]; omega
  rw [hlen]
  simp only [Bool.and_eq_true, decide_eq_true_eq]
  constructor
  · rintro ⟨⟨h, h2⟩, h5⟩; exact ⟨h, by omega, by omega, by omega⟩
  · rintro ⟨h, -, h2, h5⟩; exact ⟨⟨h, by omega⟩, by omega⟩

/-- **The window end.** A window that is not the last one ends just after its last cut, or
`chunk_size` after its start when it has none. -/
theorem windowEnd_spec {s : Int} (hs : 0 ≤ s) (hcs : 0 ≤ ch.chunkSize)
    (hlt : s + ch.chunkSize < T.length) :
    (ch.windowEnd T s = s + ch.chunkSize ∧ ∀ P, ¬ ch.IsCut T s P) ∨
      ∃ P : Nat, ch.IsCut T s P ∧ ch.windowEnd T s = P + 2 ∧ ∀ Q, ch.IsCut T s Q → Q ≤ P := by
  have hw := isBoundary_window_iff hs hcs (Int.le_of_lt hlt)
  have hrel : ∀ P, ch.IsCut T s P → P = s.toNat + (P - s.toNat) := fun P hP => by
    obtain ⟨-, h, -⟩ := hP; omega
  unfold windowEnd
  rw [if_pos hlt]
  rcases findSentenceBoundary_spec (pySlice T s (s + ch.chunkSize)) with
    ⟨h, hnone⟩ | ⟨p, h, hp, hmax⟩
  · refine .inl ⟨by simp [h], fun P hP => hnone (P - s.toNat) ?_⟩
    rw [hw, ← hrel P hP]; exact hP
  · refine .inr ⟨s.toNat + p, (hw p).mp hp, by simp only [h]; split <;> omega, fun Q hQ => ?_⟩
    have := hmax (Q - s.toNat) (by rw [hw, ← hrel Q hQ]; exact hQ)
    omega

/-- The last window ends `chunk_size` after its start. -/
theorem windowEnd_of_le {s : Int} (h : T.length ≤ s + ch.chunkSize) :
    ch.windowEnd T s = s + ch.chunkSize := by
  simp [windowEnd, Int.not_lt.mpr h]

/-- A window with a negative start reads an empty slice, so it ends `chunk_size` after its
start. -/
theorem windowEnd_of_neg {s : Int} (hs : s < 0) (hs' : 0 ≤ s + ch.chunkSize)
    (hcs : ch.chunkSize ≤ T.length) : ch.windowEnd T s = s + ch.chunkSize := by
  unfold windowEnd
  rw [pySlice_eq_nil_of_neg T hs hs' (by omega), findSentenceBoundary_nil]
  simp

/-- A window ends at most `chunk_size` after its start. -/
theorem windowEnd_le {s : Int} (hs : 0 ≤ s) (hcs : 0 ≤ ch.chunkSize) :
    ch.windowEnd T s ≤ s + ch.chunkSize := by
  by_cases hlt : s + ch.chunkSize < T.length
  · rcases windowEnd_spec hs hcs hlt with ⟨h, -⟩ | ⟨P, ⟨-, -, hP, -⟩, h, -⟩ <;> omega
  · have h : ch.windowEnd T s = s + ch.chunkSize := windowEnd_of_le (by omega)
    omega

/-- A window with a non-negative start ends after it. -/
theorem lt_windowEnd {s : Int} (hs : 0 ≤ s) (hcs : 0 < ch.chunkSize) : s < ch.windowEnd T s := by
  by_cases hlt : s + ch.chunkSize < T.length
  · rcases windowEnd_spec hs (by omega) hlt with ⟨h, -⟩ | ⟨P, ⟨-, hP, -⟩, h, -⟩ <;> omega
  · rw [windowEnd_of_le (show T.length ≤ s + ch.chunkSize by omega)]; omega

/-- **A window moves the start forward.** A window cut at a sentence ending ends at least
`⌊4 * chunk_size / 5⌋ + 3` after its start, any other `chunk_size` after it; an `overlap`
below both lets the next window start later. -/
theorem lt_windowEnd_sub_overlap {s : Int} (hs : 0 ≤ s) (hov : 0 ≤ ch.overlap)
    (hlt : ch.overlap < ch.chunkSize) (hsmall : 5 * ch.overlap ≤ 4 * ch.chunkSize + 10) :
    s < ch.windowEnd T s - ch.overlap := by
  by_cases hlen : s + ch.chunkSize < T.length
  · rcases windowEnd_spec hs (by omega) hlen with ⟨h, -⟩ | ⟨P, ⟨-, -, -, h5⟩, h, -⟩ <;> omega
  · have h : ch.windowEnd T s = s + ch.chunkSize := windowEnd_of_le (by omega)
    omega

/-- **A later window never ends earlier.** This is what rules out, among non-negative
starts, every run of the loop that moves backwards and still terminates. -/
theorem windowEnd_mono {s₁ s₂ : Int} (hs₁ : 0 ≤ s₁) (h12 : s₁ ≤ s₂)
    (hcs : 0 ≤ ch.chunkSize) : ch.windowEnd T s₁ ≤ ch.windowEnd T s₂ := by
  have hle₁ : ch.windowEnd T s₁ ≤ s₁ + ch.chunkSize := windowEnd_le hs₁ hcs
  by_cases hlt₂ : s₂ + ch.chunkSize < T.length
  · have hlt₁ : s₁ + ch.chunkSize < T.length := by omega
    rcases windowEnd_spec (by omega) hcs hlt₂ with ⟨h₂, -⟩ | ⟨P₂, hP₂, h₂, hmax₂⟩
    · omega
    rcases windowEnd_spec hs₁ hcs hlt₁ with ⟨h₁, hnone₁⟩ | ⟨P₁, hP₁, h₁, -⟩
    · -- `P₂` would be a cut of the first window unless it lies past that window
      obtain ⟨hse, hP₂s, -, h5⟩ := hP₂
      by_contra hgt
      exact hnone₁ P₂ ⟨hse, by omega, by omega, by omega⟩
    · -- `P₁` is a cut of the second window too, or lies before its trailing fifth
      obtain ⟨hse₁, -, hP₁e, -⟩ := hP₁
      obtain ⟨-, hP₂s, -, h5₂⟩ := hP₂
      by_cases hcut : s₂ ≤ P₁ ∧ 4 * ch.chunkSize < 5 * (P₁ - s₂)
      · have := hmax₂ P₁ ⟨hse₁, hcut.1, by omega, hcut.2⟩
        omega
      · omega
  · rw [windowEnd_of_le (show T.length ≤ s₂ + ch.chunkSize by omega)]; omega

/-! ## The cut rule, counted from the window start -/

variable (ch T) in
/-- A cut position of the window starting at `s`, counted from the window start: one of the
six endings starts at `s + q`, lies wholly inside the window, and starts past four fifths of
it (`pos > len(text) * 0.8`). -/
def IsWindowCut (s q : Nat) : Prop :=
  (∃ e ∈ sentenceEndings, e <+: T.drop (s + q)) ∧ q + 2 ≤ ch.chunkSize ∧
    4 * ch.chunkSize < 5 * (q : Int)

theorem isWindowCut_iff {s q : Nat} : ch.IsWindowCut T s q ↔ ch.IsCut T s (s + q) := by
  rw [IsWindowCut, IsCut, isSentenceEnd_iff]
  constructor
  · rintro ⟨h, h2, h5⟩; exact ⟨h, by omega, by omega, by omega⟩
  · rintro ⟨h, -, h2, h5⟩; exact ⟨h, by omega, by omega⟩

/-- **The cut rule.** A window that starts at `s ≥ 0` and is not the last one ends just after
the last sentence ending that lies wholly inside it and starts strictly past four fifths of
it, or `chunk_size` after its start when it has none. -/
theorem windowEnd_cut_rule (s : Nat) (hcs : 0 ≤ ch.chunkSize)
    (hlt : s + ch.chunkSize < T.length) :
    (∃ q, ch.IsWindowCut T s q ∧ (∀ q', ch.IsWindowCut T s q' → q' ≤ q) ∧
        ch.windowEnd T s = s + q + 2) ∨
      ((∀ q, ¬ ch.IsWindowCut T s q) ∧ ch.windowEnd T s = s + ch.chunkSize) := by
  rcases windowEnd_spec (Int.ofNat_zero_le s) hcs hlt with ⟨h, hnone⟩ | ⟨P, hP, h, hmax⟩
  · exact .inr ⟨fun q hq => hnone _ (isWindowCut_iff.mp hq), h⟩
  · have hsP : s ≤ P := by obtain ⟨-, h, -⟩ := hP; omega
    refine .inl ⟨P - s, isWindowCut_iff.mpr (by rwa [Nat.add_sub_cancel' hsP]),
      fun q' hq' => ?_, by rw [h]; omega⟩
    have := hmax _ (isWindowCut_iff.mp hq')
    omega

theorem windowEnd_cut_rule_at_thirteen :
    (∃ q, (mk 15 0).IsWindowCut "aaaaaaaaaaaaa. bbbb".toList 0 q ∧
        (∀ q', (mk 15 0).IsWindowCut "aaaaaaaaaaaaa. bbbb".toList 0 q' → q' ≤ q) ∧
        (mk 15 0).windowEnd "aaaaaaaaaaaaa. bbbb".toList 0 = 0 + q + 2) ∨
      ((∀ q, ¬ (mk 15 0).IsWindowCut "aaaaaaaaaaaaa. bbbb".toList 0 q) ∧
        (mk 15 0).windowEnd "aaaaaaaaaaaaa. bbbb".toList 0 = 0 + 15) :=
  @windowEnd_cut_rule (mk 15 0) "aaaaaaaaaaaaa. bbbb".toList 0 (by decide) (by decide)

end DocumentChunker

end KotaRag
