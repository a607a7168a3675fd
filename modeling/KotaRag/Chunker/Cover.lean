import KotaRag.Chunker.Run
import Mathlib.Data.List.Chain

/-!
# The chunks cover the text, in order

The spec's round-trip law for the chunker: on every input on which `chunk_document` returns,
its chunks are an ordered overlapping cover of the normalised text `T` (`OrderedCover`).
Every non-blank position of `T` lies in some chunk's `[start_char, end_char)`, each chunk is
the stripped slice of `T` it records, the recorded spans never move backwards, and joining
each chunk's part beyond the previous chunk's end gives back `T` up to whitespace.

The loop itself does not promise any of this: a window's end can be pulled back below the
overlap, and then the next start is smaller than the current one or even negative. The proof
follows a returning run through four phases (`CoverInv`):

* `start` — before the first window;
* `forward` — the start is the successor of a smaller non-negative start `p`. Since a later
  window never ends earlier (`windowEnd_mono`), the successor of the start is at least the
  start again: it either grows, or it stays and the loop spins for ever;
* `detour` — the first window was cut below the overlap, and the start went negative. Such
  windows read an empty slice, end `chunk_size` after their start, and are dropped;
* `back` — the first non-negative start after the detour. Its window either ends where the
  first one did, and then the run cycles through the same detour for ever (`back_cycle`), or
  it reaches past the first window and the run goes on forward (`back_advances`).

Along the way `Emitted` records what the chunks kept so far satisfy.
-/

namespace KotaRag

/-- The non-blank code points of a string, in order. -/
def nonBlank (s : PyStr) : PyStr := s.filter fun c => !isPySpace c

/-- The end of the last chunk, or `prev` when there is none. -/
def lastEnd (prev : Int) : List Chunk → Int
  | [] => prev
  | c :: cs => lastEnd c.span.2 cs

/-- Joining each chunk's part beyond the previous chunk's end, the first chunk's part being
taken beyond `prev`. -/
def rebuildFrom (T : PyStr) : Int → List Chunk → PyStr
  | _, [] => []
  | prev, c :: cs => pySlice T (max prev c.span.1) c.span.2 ++ rebuildFrom T c.span.2 cs

/-- One span lies before another: it starts and ends no later. -/
def SpanLe (c d : Chunk) : Prop := c.span.1 ≤ d.span.1 ∧ c.span.2 ≤ d.span.2

/-- **An ordered overlapping cover of `T`.** -/
structure OrderedCover (T : PyStr) (chunks : List Chunk) : Prop where
  /-- every non-blank position lies in some chunk's span -/
  covers : ∀ (i : Nat) (hi : i < T.length), isPySpace T[i] = false →
    ∃ c ∈ chunks, c.span.1 ≤ i ∧ i < c.span.2
  /-- each chunk is the stripped slice it records -/
  content_eq : ∀ c ∈ chunks, c.content = pyStrip (pySlice T c.span.1 c.span.2)
  /-- the spans never move backwards -/
  monotone : chunks.Chain' SpanLe
  /-- the parts beyond each previous end join up to `T`, up to whitespace -/
  rebuild : nonBlank (rebuildFrom T 0 chunks) = nonBlank T

@[simp] theorem lastEnd_append_singleton (prev : Int) (acc : List Chunk) (c : Chunk) :
    lastEnd prev (acc ++ [c]) = c.span.2 := by
  induction acc generalizing prev with
  | nil => rfl
  | cons d acc ih => exact ih _

theorem rebuildFrom_append_singleton (T : PyStr) (prev : Int) (acc : List Chunk) (c : Chunk) :
    rebuildFrom T prev (acc ++ [c]) =
      rebuildFrom T prev acc ++ pySlice T (max (lastEnd prev acc) c.span.1) c.span.2 := by
  induction acc generalizing prev with
  | nil => simp [rebuildFrom, lastEnd]
  | cons d acc ih => simp [rebuildFrom, lastEnd, ih]

theorem nonBlank_append (s t : PyStr) : nonBlank (s ++ t) = nonBlank s ++ nonBlank t :=
  List.filter_append _ _

/-- A slice whose positions are all blank has no non-blank code point. -/
theorem nonBlank_pySlice_eq_nil {T : PyStr} {a b : Int} (ha : 0 ≤ a) (hb : 0 ≤ b)
    (h : ∀ (i : Nat) (hi : i < T.length), a ≤ i → i < b → isPySpace T[i] = true) :
    nonBlank (pySlice T a b) = [] := by
  rw [nonBlank, List.filter_eq_nil_iff]
  intro x hx
  obtain ⟨i, hi, hai, hib, rfl⟩ := mem_pySlice ha hb hx
  simp [h i hi hai hib]

/-! ## What the kept chunks satisfy -/

/-- What holds of the chunks `acc` kept before the window at `start`, once the windows
processed so far reach `E`. -/
structure Emitted (T : PyStr) (acc : List Chunk) (start E : Int) : Prop where
  /-- each chunk is the stripped slice it records -/
  content_eq : ∀ c ∈ acc, c.content = pyStrip (pySlice T c.span.1 c.span.2)
  /-- the spans never move backwards -/
  chain : acc.Chain' SpanLe
  /-- every span starts in `[0, start]` and is not reversed -/
  starts : ∀ c ∈ acc, 0 ≤ c.span.1 ∧ c.span.1 ≤ start ∧ c.span.1 ≤ c.span.2
  /-- the last chunk ends last -/
  ends : ∀ c ∈ acc, c.span.2 ≤ lastEnd 0 acc
  /-- and it ends in `[0, E]` -/
  last : 0 ≤ lastEnd 0 acc ∧ lastEnd 0 acc ≤ E
  /-- every non-blank position before `E` is covered -/
  covers : ∀ (i : Nat) (hi : i < T.length), (i : Int) < E → isPySpace T[i] = false →
    ∃ c ∈ acc, c.span.1 ≤ i ∧ i < c.span.2
  /-- the join so far is `T` up to the last end, up to whitespace -/
  rebuild : nonBlank (rebuildFrom T 0 acc) = nonBlank (pySlice T 0 (lastEnd 0 acc))

theorem emitted_nil (T : PyStr) (start : Int) : Emitted T [] start 0 where
  content_eq := by simp
  chain := List.chain'_nil
  starts := by simp
  ends := by simp
  last := ⟨Int.le_refl 0, Int.le_refl 0⟩
  covers := fun i _ hi => absurd hi (by omega)
  rebuild := by simp [rebuildFrom, lastEnd, pySlice_of_nonneg]

theorem Emitted.mono_start {T : PyStr} {acc : List Chunk} {s s' E : Int}
    (h : Emitted T acc s E) (hs : s ≤ s') : Emitted T acc s' E :=
  { h with starts := fun c hc => have := h.starts c hc; ⟨this.1, by omega, this.2.2⟩ }

/-- **A dropped window.** A window whose stripped content is empty holds no non-blank
position, so what was emitted before it still covers up to its end. -/
theorem Emitted.drop_blank {T : PyStr} {md : PyDict JsonVal} {acc : List Chunk} {s E e s' : Int}
    {k : Nat} (h : Emitted T acc s E) (hs : 0 ≤ s) (hsE : s ≤ E) (hEe : E ≤ e) (hs' : s ≤ s')
    (hblank : (DocumentChunker.windowChunk T md k s e).content = []) : Emitted T acc s' e :=
  { h.mono_start hs' with
    last := ⟨h.last.1, by have := h.last.2; omega⟩
    covers := fun i hi hie hsp => by
      by_cases hiE : (i : Int) < E
      · exact h.covers i hi hiE hsp
      · exact absurd hblank
          (DocumentChunker.windowChunk_content_ne_nil hs (by omega) hie hi hsp k) }

/-- **A kept window** extends what is emitted up to its end. -/
theorem Emitted.push {T : PyStr} {md : PyDict JsonVal} {acc : List Chunk} {s E e s' : Int}
    {k : Nat} (h : Emitted T acc s E) (hs : 0 ≤ s) (hsE : s ≤ E) (hEe : E ≤ e) (hs' : s ≤ s') :
    Emitted T (acc ++ [DocumentChunker.windowChunk T md k s e]) s' e := by
  set w := DocumentChunker.windowChunk T md k s e with hw
  have hspan : w.span = (s, e) := rfl
  have hL := h.last
  refine ⟨fun c hc => ?_, ?_, fun c hc => ?_, fun c hc => ?_, ?_, fun i hi hie hsp => ?_, ?_⟩
  · -- contents
    rcases List.mem_append.mp hc with hc | hc
    · exact h.content_eq c hc
    · rw [List.mem_singleton.mp hc]; rfl
  · -- the new span follows the last kept one
    refine h.chain.append (List.chain'_singleton _) fun x hx y hy => ?_
    have hxacc : x ∈ acc := List.mem_of_mem_getLast? hx
    simp only [List.head?_cons, Option.mem_def, Option.some.injEq] at hy
    subst hy
    have := h.ends x hxacc
    exact ⟨by rw [hspan]; exact (h.starts x hxacc).2.1, by rw [hspan]; omega⟩
  · -- starts
    rcases List.mem_append.mp hc with hc | hc
    · have := h.starts c hc; exact ⟨this.1, by omega, this.2.2⟩
    · rw [List.mem_singleton.mp hc, hspan]; exact ⟨hs, hs', by omega⟩
  · -- ends
    rw [lastEnd_append_singleton, hspan]
    rcases List.mem_append.mp hc with hc | hc
    · have := h.ends c hc; omega
    · have h2 : c.span.2 = e := by rw [List.mem_singleton.mp hc, hspan]
      omega
  · rw [lastEnd_append_singleton, hspan]; exact ⟨by omega, Int.le_refl e⟩
  · -- a position past `E` lies in the new window
    by_cases hiE : (i : Int) < E
    · obtain ⟨c, hc, hci⟩ := h.covers i hi hiE hsp
      exact ⟨c, List.mem_append_left _ hc, hci⟩
    · exact ⟨w, List.mem_append_right _ (List.mem_singleton_self _),
        by rw [hspan]; exact ⟨by omega, hie⟩⟩
  · -- between the last end and the new start everything is blank
    rw [rebuildFrom_append_singleton, nonBlank_append, h.rebuild, lastEnd_append_singleton,
      hspan]
    have hgap : nonBlank (pySlice T (lastEnd 0 acc) (max (lastEnd 0 acc) s)) = [] := by
      refine nonBlank_pySlice_eq_nil hL.1 (by omega) fun i hi hLi his => ?_
      by_contra hsp
      obtain ⟨c, hc, -, hci⟩ := h.covers i hi (by omega) (by simpa using hsp)
      have := h.ends c hc
      omega
    rw [← pySlice_append T (Int.le_refl 0) hL.1 (show lastEnd 0 acc ≤ e by omega),
      ← pySlice_append T hL.1 (Int.le_max_left _ s) (show max (lastEnd 0 acc) s ≤ e by omega),
      nonBlank_append, nonBlank_append, hgap, List.nil_append]

/-- **Processing one window**, kept or dropped, keeps `Emitted`. -/
theorem Emitted.window {T : PyStr} {md : PyDict JsonVal} {acc : List Chunk} {s E e s' : Int}
    {k : Nat} (h : Emitted T acc s E) (hs : 0 ≤ s) (hsE : s ≤ E) (hEe : E ≤ e) (hs' : s ≤ s') :
    Emitted T (if (DocumentChunker.windowChunk T md k s e).content.isEmpty then acc
      else acc ++ [DocumentChunker.windowChunk T md k s e]) s' e := by
  split
  · exact h.drop_blank hs hsE hEe hs' (List.isEmpty_iff.mp ‹_›)
  · exact h.push hs hsE hEe hs'

/-! ## The phases of a returning run -/

/-- Adding the period keeps a difference divisible by it. -/
private theorem dvd_add_period {m a b : Int} (h : m ∣ a - b) : m ∣ a + m - b := by
  have := Int.dvd_add h (Int.dvd_refl m)
  rwa [show a - b + m = a + m - b by omega] at this

/-- Two values in `[0, m)` that differ by a multiple of `m` are equal. -/
private theorem eq_of_dvd_sub {m a b : Int} (h : m ∣ a - b) (ha : 0 ≤ a) (ham : a < m)
    (hb : 0 ≤ b) (hbm : b < m) : a = b := by
  obtain ⟨k, hk⟩ := h
  rcases Int.lt_trichotomy k 0 with hk0 | rfl | hk0
  · have := Int.mul_le_mul_of_nonneg_left (show k ≤ -1 by omega) (show 0 ≤ m by omega); omega
  · omega
  · have := Int.mul_le_mul_of_nonneg_left (show 1 ≤ k by omega) (show 0 ≤ m by omega); omega

namespace DocumentChunker

/-- The states a returning run of the loop on `T` passes through. -/
inductive CoverInv (ch : DocumentChunker) (T : PyStr) (st : Loop) : Prop
  /-- before the first window -/
  | start : st.start = 0 → st.chunks = [] → CoverInv ch T st
  /-- the start is the successor of a smaller non-negative start `p` -/
  | forward (p : Int) : 0 ≤ p → p < st.start → st.start = ch.windowEnd T p - ch.overlap →
      Emitted T st.chunks st.start (ch.windowEnd T p) → CoverInv ch T st
  /-- a negative start, the first window having been cut below the overlap -/
  | detour : ch.windowEnd T 0 < ch.overlap → ch.windowEnd T 0 - ch.overlap ≤ st.start →
      st.start < 0 → ch.chunkSize - ch.overlap ∣ st.start - (ch.windowEnd T 0 - ch.overlap) →
      Emitted T st.chunks 0 (ch.windowEnd T 0) → CoverInv ch T st
  /-- the first non-negative start after the detour -/
  | back : ch.windowEnd T 0 < ch.overlap → 0 ≤ st.start →
      st.start < ch.chunkSize - ch.overlap →
      ch.chunkSize - ch.overlap ∣ st.start - (ch.windowEnd T 0 - ch.overlap) →
      Emitted T st.chunks st.start (ch.windowEnd T 0) → CoverInv ch T st

section Phases

variable {ch : DocumentChunker} {T : PyStr} {md : PyDict JsonVal}

/-- A first window that ends below the overlap was cut at its last sentence ending, which
lies past four fifths of `chunk_size`; so it ends past `chunk_size - overlap`. -/
theorem first_cut (hlong : ch.chunkSize < T.length) (hov : 0 ≤ ch.overlap)
    (hlt : ch.overlap < ch.chunkSize) (h0 : ch.windowEnd T 0 < ch.overlap) :
    ∃ P : Nat, ch.IsCut T 0 P ∧ ch.windowEnd T 0 = P + 2 ∧ (∀ Q, ch.IsCut T 0 Q → Q ≤ P) ∧
      ch.chunkSize - ch.overlap < ch.windowEnd T 0 := by
  rcases windowEnd_spec (Int.le_refl 0) (by omega) (show 0 + ch.chunkSize < T.length by omega)
    with ⟨h, -⟩ | ⟨P, hP, h, hmax⟩
  · omega
  · exact ⟨P, hP, h, hmax, by obtain ⟨-, -, -, h5⟩ := hP; omega⟩

/-- Back from the detour, a window that reaches past the first one lies past `chunk_size`,
or is not cut at all; either way the next start is larger. -/
theorem back_advances {s : Int} (hlong : ch.chunkSize < T.length) (hov : 0 ≤ ch.overlap)
    (hlt : ch.overlap < ch.chunkSize) (hs : 0 ≤ s) (hsm : s < ch.chunkSize - ch.overlap)
    (h0 : ch.windowEnd T 0 < ch.overlap)
    (hgt : ch.windowEnd T 0 < ch.windowEnd T s) : s < ch.windowEnd T s - ch.overlap := by
  obtain ⟨P₀, -, h₀, hmax₀, -⟩ := first_cut hlong hov hlt h0
  by_cases hlt : s + ch.chunkSize < T.length
  · rcases windowEnd_spec hs (by omega) hlt with ⟨h, -⟩ | ⟨P, hP, h, -⟩
    · omega
    · -- a cut inside the first window would be a later cut of it than its last one
      obtain ⟨hse, hsP, -, h5⟩ := hP
      by_contra hle
      have := hmax₀ P ⟨hse, by omega, by omega, by omega⟩
      omega
  · rw [windowEnd_of_le (show T.length ≤ s + ch.chunkSize by omega)]; omega

/-- Back from the detour, a window that ends where the first one did sends the run through
the same detour again: the loop never returns. -/
theorem back_cycle {s : Int} (hlong : ch.chunkSize < T.length) (hov : 0 ≤ ch.overlap)
    (hlt : ch.overlap < ch.chunkSize) (hs : 0 ≤ s) (hsm : s < ch.chunkSize - ch.overlap)
    (h0 : ch.windowEnd T 0 < ch.overlap)
    (hdvd : ch.chunkSize - ch.overlap ∣ s - (ch.windowEnd T 0 - ch.overlap))
    (heq : ch.windowEnd T s = ch.windowEnd T 0) (fuel : Nat) (st : Loop)
    (hst : st.start = ch.windowEnd T 0 - ch.overlap) : ch.chunkLoop T md fuel st = none := by
  have he₀ : 0 < ch.windowEnd T 0 := lt_windowEnd (Int.le_refl 0) (by omega)
  refine chunkLoop_eq_none_of_closed (fun st => st.start = s ∨
      (ch.windowEnd T 0 - ch.overlap ≤ st.start ∧ st.start < 0 ∧
        ch.chunkSize - ch.overlap ∣ st.start - (ch.windowEnd T 0 - ch.overlap)))
    (fun st hq => ?_) (fun st hq => by dsimp only at hq; rcases hq with h | h <;> omega) fuel st
    (.inr ⟨by omega, by omega, by rw [hst, Int.sub_self]; exact Int.dvd_zero _⟩)
  dsimp only at hq ⊢
  rw [loopStep_start]
  rcases hq with hq | ⟨hlo, hneg, hd⟩
  · rw [hq, heq]
    exact .inr ⟨Int.le_refl _, by omega, by rw [Int.sub_self]; exact Int.dvd_zero _⟩
  · -- a negative window ends `chunk_size` on, so the start moves up by `chunk_size - overlap`
    rw [windowEnd_of_neg hneg (by omega) (by omega)]
    have hd' := dvd_add_period hd
    rw [show st.start + (ch.chunkSize - ch.overlap) = st.start + ch.chunkSize - ch.overlap
      by omega] at hd'
    by_cases hn : st.start + ch.chunkSize - ch.overlap < 0
    · exact .inr ⟨by omega, hn, hd'⟩
    · refine .inl (eq_of_dvd_sub ?_ (by omega) (by omega) hs hsm)
      have := Int.dvd_sub hd' hdvd
      rwa [show st.start + ch.chunkSize - ch.overlap - (ch.windowEnd T 0 - ch.overlap) -
        (s - (ch.windowEnd T 0 - ch.overlap)) = st.start + ch.chunkSize - ch.overlap - s
          by omega] at this

/-- **One pass from a phase** leads to a phase again, or into a state from which the loop
never returns. -/
theorem CoverInv.step {st : Loop} (hlong : ch.chunkSize < T.length) (hov : 0 ≤ ch.overlap)
    (hlt : ch.overlap < ch.chunkSize) (h : CoverInv ch T st) (hst : st.start < T.length) :
    CoverInv ch T (ch.loopStep T md st) ∨
      ∀ fuel, ch.chunkLoop T md fuel (ch.loopStep T md st) = none := by
  have hcs : 0 ≤ ch.chunkSize := by omega
  have he₀ : 0 < ch.windowEnd T 0 := lt_windowEnd (Int.le_refl 0) (by omega)
  have hnext : (ch.loopStep T md st).start = ch.windowEnd T st.start - ch.overlap :=
    loopStep_start st
  cases h with
  | start h0 hnil =>
    -- the first window is kept; the next start decides the phase
    have hem : ∀ s', 0 ≤ s' → Emitted T (ch.loopStep T md st).chunks s' (ch.windowEnd T 0) :=
      fun s' hs' => by
        rw [loopStep_chunks, h0, hnil]
        exact (emitted_nil T 0).window (Int.le_refl 0) (Int.le_refl 0) (by omega) hs'
    rw [h0] at hnext
    rcases Int.lt_trichotomy (ch.windowEnd T 0 - ch.overlap) 0 with hneg | hzero | hpos
    · exact .inl (.detour (by omega) (by omega) (by omega)
        (by rw [hnext, Int.sub_self]; exact Int.dvd_zero _) (hem 0 (Int.le_refl 0)))
    · exact .inr fun fuel => chunkLoop_eq_none_of_fixed hzero (by omega) fuel _
        (by rw [hnext, hzero])
    · exact .inl (.forward 0 (Int.le_refl 0) (by omega) hnext
        (by rw [hnext]; exact hem _ (by omega)))
  | forward p hp hps hsp hem =>
    -- the next start is at least the current one, since windows only end later
    have hmono : ch.windowEnd T p ≤ ch.windowEnd T st.start := windowEnd_mono hp (by omega) hcs
    by_cases heq : ch.windowEnd T st.start - ch.overlap = st.start
    · exact .inr fun fuel => chunkLoop_eq_none_of_fixed heq hst fuel _ (by rw [hnext, heq])
    · refine .inl (.forward st.start (by omega) (by omega) hnext ?_)
      rw [loopStep_chunks, hnext]
      exact hem.window (by omega) (by omega) hmono (by omega)
  | detour h0 hlo hneg hdvd hem =>
    -- a negative window is empty and dropped; the start moves up by `chunk_size - overlap`
    have hwe : ch.windowEnd T st.start = st.start + ch.chunkSize :=
      windowEnd_of_neg hneg (by omega) (by omega)
    have hempty : pySlice T st.start (st.start + ch.chunkSize) = [] :=
      pySlice_eq_nil_of_neg T hneg (by omega) (by omega)
    have hchunks : (ch.loopStep T md st).chunks = st.chunks := by
      rw [loopStep_chunks, if_pos]
      simp [windowChunk, hwe, hempty]
    have hd := dvd_add_period hdvd
    rw [hwe] at hnext
    rw [show st.start + (ch.chunkSize - ch.overlap) = st.start + ch.chunkSize - ch.overlap
      by omega, ← hnext] at hd
    by_cases hn : st.start + ch.chunkSize - ch.overlap < 0
    · exact .inl (.detour h0 (by omega) (by omega) hd (by rw [hchunks]; exact hem))
    · exact .inl (.back h0 (by omega) (by omega) hd
        (by rw [hchunks]; exact hem.mono_start (by omega)))
  | back h0 hs hsm hdvd hem =>
    have hm := (first_cut hlong hov hlt h0).choose_spec.2.2.2
    have hmono : ch.windowEnd T 0 ≤ ch.windowEnd T st.start :=
      windowEnd_mono (Int.le_refl 0) hs hcs
    by_cases heq : ch.windowEnd T st.start = ch.windowEnd T 0
    · exact .inr fun fuel =>
        back_cycle hlong hov hlt hs hsm h0 hdvd heq fuel _ (by rw [hnext, heq])
    · have hadv := back_advances hlong hov hlt hs hsm h0 (by omega)
      refine .inl (.forward st.start hs (by omega) hnext ?_)
      rw [loopStep_chunks, hnext]
      exact hem.window hs (by omega) hmono (by omega)

/-- A run stops only in the forward phase, and there its chunks are an ordered cover. -/
theorem CoverInv.exit {st : Loop} (hlong : ch.chunkSize < T.length) (hov : 0 ≤ ch.overlap)
    (hlt : ch.overlap < ch.chunkSize) (hlast : ∀ c, T.getLast? = some c → isPySpace c = false)
    (h : CoverInv ch T st) (hst : T.length ≤ st.start) : OrderedCover T st.chunks := by
  cases h with
  | start h0 _ => omega
  | detour _ _ hneg _ _ => omega
  | back _ _ hsm _ _ => omega
  | forward p hp hps hsp hem =>
    -- the last code point is covered, so the last chunk reaches the end of `T`
    have hn : T.length - 1 < T.length := by omega
    have hsp : isPySpace T[T.length - 1] = false :=
      hlast _ (by rw [List.getLast?_eq_getElem?]; simp)
    obtain ⟨c, hc, -, hcn⟩ := hem.covers (T.length - 1) hn (by omega) hsp
    have hL : T.length ≤ lastEnd 0 st.chunks := by have := hem.ends c hc; omega
    exact ⟨fun i hi hsp => hem.covers i hi (by omega) hsp, hem.content_eq, hem.chain,
      by rw [hem.rebuild, pySlice_zero_of_le T hL]⟩

end Phases

end DocumentChunker

open DocumentChunker

/-! ## `chunk_document` -/

@[simp] theorem Chunk.span_withCount (c : Chunk) (k : Nat) :
    ({ c with chunkCount := k } : Chunk).span = c.span := rfl

theorem rebuildFrom_withCount (T : PyStr) (k : Nat) (prev : Int) (chunks : List Chunk) :
    rebuildFrom T prev (chunks.map fun c => { c with chunkCount := k }) =
      rebuildFrom T prev chunks := by
  induction chunks generalizing prev with
  | nil => rfl
  | cons c cs ih => simp only [List.map_cons, rebuildFrom, Chunk.span_withCount, ih]

/-- Filling in `chunk_count` keeps an ordered cover. -/
theorem OrderedCover.withCount {T : PyStr} {chunks : List Chunk} (h : OrderedCover T chunks)
    (k : Nat) : OrderedCover T (chunks.map fun c => { c with chunkCount := k }) where
  covers i hi hsp := by
    obtain ⟨c, hc, hcs⟩ := h.covers i hi hsp
    exact ⟨_, List.mem_map_of_mem _ hc, hcs⟩
  content_eq := by
    simp only [List.mem_map, forall_exists_index, and_imp]
    rintro _ c hc rfl
    exact h.content_eq c hc
  monotone :=
    List.chain'_map_of_chain' (fun c : Chunk => { c with chunkCount := k }) (fun _ _ hab => hab)
      h.monotone
  rebuild := by rw [rebuildFrom_withCount, h.rebuild]

/-- The fast path's single chunk covers the normalised text. -/
theorem orderedCover_single (input : PyStr) (md : PyDict JsonVal) :
    OrderedCover (cleanContent input) [⟨cleanContent input, ⟨md, none⟩, 0, 1⟩] where
  covers i hi _ := ⟨_, List.mem_singleton_self _, Int.ofNat_zero_le i, by simp [Chunk.span, hi]⟩
  content_eq c hc := by
    rw [List.mem_singleton.mp hc]
    simp [Chunk.span, pySlice_zero_of_le, cleanContent]
  monotone := List.chain'_singleton _
  rebuild := by
    simp [rebuildFrom, Chunk.span, show max (0 : Int) 0 = 0 from rfl,
      pySlice_zero_of_le (cleanContent input) (Int.le_refl _)]

/-- **`chunk_document` covers the text in order.** Whenever `0 ≤ overlap < chunk_size` and
`chunk_document` returns, its chunks are an ordered overlapping cover of the normalised
text. -/
theorem chunkDocument_orderedCover {ch : DocumentChunker} {fuel : Nat} {input : PyStr}
    {metadata : Option (PyDict JsonVal)} {r : List Chunk} (hov : 0 ≤ ch.overlap)
    (hlt : ch.overlap < ch.chunkSize) (h : ch.chunkDocument fuel input metadata = some r) :
    OrderedCover (cleanContent input) r := by
  rcases chunkDocument_cases h with ⟨-, rfl⟩ | ⟨hlong, chunks, hrun, rfl⟩
  · exact orderedCover_single input _
  · -- `_clean_content` strips, so the text ends with a non-blank code point
    have hlast : ∀ c, (cleanContent input).getLast? = some c → isPySpace c = false := by
      intro c hc
      have hne : cleanContent input ≠ [] := fun h => by simp [h] at hc
      rw [List.getLast?_eq_getLast _ hne, Option.some_inj] at hc
      rw [← hc]
      exact pyStrip_getLast_not_space hne
    exact (chunkLoop_induction (CoverInv ch (cleanContent input))
      (OrderedCover (cleanContent input)) (fun _ h hs => h.step (by omega) hov hlt hs)
      (fun _ h hs => h.exit (by omega) hov hlt hlast hs)
      fuel _ chunks (.start rfl rfl) hrun).withCount _

/-- On a three-window text, `chunk_document` returns an ordered cover. -/
theorem chunkDocument_orderedCover_three_windows :
    ∃ r, (DocumentChunker.mk 4 1).chunkDocument 8 "ab cd. ef".toList none = some r ∧
      OrderedCover (cleanContent "ab cd. ef".toList) r :=
  ⟨_, rfl, @chunkDocument_orderedCover (DocumentChunker.mk 4 1) 8 _ none _ (by decide) (by decide) rfl⟩

end KotaRag
