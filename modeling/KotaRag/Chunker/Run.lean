import KotaRag.Chunker.Boundary

/-!
# Runs of the windowing loop

`chunkLoop` is the `while` loop of `chunk_document` with fuel. Every fact about a returned
result is proved with one of two tools:

* `chunkLoop_induction` — an invariant that each pass keeps, unless the pass leads into a
  state from which the loop never returns, holds of the chunks the loop returns;
* `chunkLoop_eq_none_of_closed` — from a set of states that the loop body maps into itself
  and that all lie before the end of the text, the loop never returns, whatever the fuel;
* `chunkLoop_isSome_of_advance` — if every pass moves the start forward, the loop returns
  once the fuel exceeds the distance left to the end of the text.

With them: the chunk records the loop builds (`chunkDocument_chunk_records`), the runs on
which the loop spins forever, emits a chunk that only repeats text, or cuts through a
sentence whose ending starts at exactly four fifths of the window, and the overlaps for which
it always returns (`chunkDocument_returns`).
-/

namespace KotaRag

/-- The part of the text a chunk records: its `start_char`/`end_char`, and for the single
chunk of the fast path, which is the whole text, `[0, len)`. -/
def Chunk.span (c : Chunk) : Int × Int :=
  match c.metadata.loc with
  | some l => (l.startChar, l.endChar)
  | none => (0, c.content.length)

namespace DocumentChunker

variable {ch : DocumentChunker} {content : PyStr} {metadata : PyDict JsonVal}

@[simp] theorem windowChunk_span (i : Nat) (s e : Int) :
    (windowChunk content metadata i s e).span = (s, e) := rfl

/-- A window holding a non-whitespace code point of the text yields a chunk. -/
theorem windowChunk_content_ne_nil {s e : Int} {i : Nat} (hs : 0 ≤ s) (hsi : s ≤ i)
    (hie : i < e) (hi : i < content.length) (hsp : isPySpace content[i] = false) (k : Nat) :
    (windowChunk content metadata k s e).content ≠ [] :=
  pyStrip_ne_nil_of_mem (getElem_mem_pySlice content hs hsi hie hi) hsp

@[simp] theorem loopStep_start (st : Loop) :
    (ch.loopStep content metadata st).start = ch.windowEnd content st.start - ch.overlap := rfl

@[simp] theorem loopStep_chunkIndex (st : Loop) :
    (ch.loopStep content metadata st).chunkIndex = st.chunkIndex + 1 := rfl

theorem loopStep_chunks (st : Loop) :
    (ch.loopStep content metadata st).chunks =
      if (windowChunk content metadata st.chunkIndex st.start
          (ch.windowEnd content st.start)).content.isEmpty then st.chunks
      else st.chunks ++ [windowChunk content metadata st.chunkIndex st.start
        (ch.windowEnd content st.start)] := by
  simp only [loopStep]

theorem chunkLoop_succ_of_lt {fuel : Nat} {st : Loop} (h : st.start < content.length) :
    ch.chunkLoop content metadata (fuel + 1) st =
      ch.chunkLoop content metadata fuel (ch.loopStep content metadata st) := by
  simp [chunkLoop, h]

theorem chunkLoop_succ_of_le {fuel : Nat} {st : Loop} (h : content.length ≤ st.start) :
    ch.chunkLoop content metadata (fuel + 1) st = some st.chunks := by
  simp [chunkLoop, Int.not_lt.mpr h]

/-- `chunk_document`: the fast path, or the loop with `chunk_count` filled in. -/
theorem chunkDocument_eq {fuel : Nat} {input : PyStr} {md : Option (PyDict JsonVal)} :
    ch.chunkDocument fuel input md =
      if (cleanContent input).length ≤ ch.chunkSize then
        some [⟨cleanContent input, ⟨md.getD [], none⟩, 0, 1⟩]
      else (ch.chunkLoop (cleanContent input) (md.getD []) fuel ⟨0, 0, []⟩).map fun chunks =>
        chunks.map fun c => { c with chunkCount := chunks.length } := rfl

/-- What `chunk_document` can return: the normalised text as its one chunk when it fits in
`chunk_size`, and otherwise what the loop returned, with `chunk_count` filled in. -/
theorem chunkDocument_cases {fuel : Nat} {input : PyStr} {md : Option (PyDict JsonVal)}
    {r : List Chunk} (h : ch.chunkDocument fuel input md = some r) :
    ((cleanContent input).length ≤ ch.chunkSize ∧
        r = [⟨cleanContent input, ⟨md.getD [], none⟩, 0, 1⟩]) ∨
      (ch.chunkSize < (cleanContent input).length ∧ ∃ chunks,
        ch.chunkLoop (cleanContent input) (md.getD []) fuel ⟨0, 0, []⟩ = some chunks ∧
        r = chunks.map fun c => { c with chunkCount := chunks.length }) := by
  rw [chunkDocument_eq] at h
  split at h
  · exact .inl ⟨‹_›, (Option.some.inj h).symm⟩
  · obtain ⟨chunks, hrun, rfl⟩ := Option.map_eq_some'.mp h
    exact .inr ⟨by omega, chunks, hrun, rfl⟩

/-- **Run induction.** If every pass from an `Inv` state either keeps `Inv` or enters a
state from which the loop never returns, and `Goal` holds of the chunks of every `Inv`
state at which the loop stops, then `Goal` holds of whatever the loop returns. -/
theorem chunkLoop_induction (Inv : Loop → Prop) (Goal : List Chunk → Prop)
    (hstep : ∀ st, Inv st → st.start < content.length →
      Inv (ch.loopStep content metadata st) ∨
        ∀ fuel, ch.chunkLoop content metadata fuel (ch.loopStep content metadata st) = none)
    (hexit : ∀ st, Inv st → content.length ≤ st.start → Goal st.chunks) :
    ∀ fuel st r, Inv st → ch.chunkLoop content metadata fuel st = some r → Goal r
  | 0, _, _, _, h => by simp [chunkLoop] at h
  | fuel + 1, st, r, hinv, h => by
    by_cases hlt : st.start < content.length
    · rw [chunkLoop_succ_of_lt hlt] at h
      rcases hstep st hinv hlt with hinv' | hnone
      · exact chunkLoop_induction Inv Goal hstep hexit fuel _ r hinv' h
      · simp [hnone fuel] at h
    · rw [chunkLoop_succ_of_le (Int.not_lt.mp hlt)] at h
      cases h
      exact hexit st hinv (Int.not_lt.mp hlt)

/-- **Non-termination.** From a set of states closed under the loop body, all before the end
of the text, the loop never returns. -/
theorem chunkLoop_eq_none_of_closed (Q : Loop → Prop)
    (hclosed : ∀ st, Q st → Q (ch.loopStep content metadata st))
    (hlt : ∀ st, Q st → st.start < content.length) :
    ∀ fuel st, Q st → ch.chunkLoop content metadata fuel st = none
  | 0, _, _ => rfl
  | fuel + 1, st, hq => by
    rw [chunkLoop_succ_of_lt (hlt st hq)]
    exact chunkLoop_eq_none_of_closed Q hclosed hlt fuel _ (hclosed st hq)

/-- A window start that the loop body maps to itself is never left. -/
theorem chunkLoop_eq_none_of_fixed {s : Int} (hfix : ch.windowEnd content s - ch.overlap = s)
    (hs : s < content.length) (fuel : Nat) (st : Loop) (hst : st.start = s) :
    ch.chunkLoop content metadata fuel st = none :=
  chunkLoop_eq_none_of_closed (fun st => st.start = s)
    (fun st (h : st.start = s) => by simp only [loopStep_start, h, hfix])
    (fun st (h : st.start = s) => h ▸ hs) fuel st hst

/-- **Enough fuel.** If every pass from a non-negative start moves the start forward, the
loop returns once the fuel exceeds the distance from the start to the end of the text. -/
theorem chunkLoop_isSome_of_advance
    (hadv : ∀ s : Int, 0 ≤ s → s < ch.windowEnd content s - ch.overlap) :
    ∀ fuel (st : Loop), 0 ≤ st.start → (content.length - st.start).toNat < fuel →
      ∃ r, ch.chunkLoop content metadata fuel st = some r
  | 0, _, _, h => absurd h (Nat.not_lt_zero _)
  | fuel + 1, st, hs, hfuel => by
    by_cases hlt : st.start < content.length
    · have hnext := hadv st.start hs
      rw [chunkLoop_succ_of_lt hlt]
      exact chunkLoop_isSome_of_advance hadv fuel _ (by rw [loopStep_start]; omega)
        (by rw [loopStep_start]; omega)
    · exact ⟨_, chunkLoop_succ_of_le (Int.not_lt.mp hlt)⟩

/-! ## Chunk records -/

/-- The chunk list the loop builds: non-empty contents, each `chunk_index` repeated in the
metadata, and indices strictly increasing from `0`. -/
def ChunkRecords (chunks : List Chunk) : Prop :=
  (∀ c ∈ chunks, c.content ≠ [] ∧ c.metadata.loc.map (·.chunkIndex) = some c.chunkIndex) ∧
    (chunks.map (·.chunkIndex)).Pairwise (· < ·) ∧ chunks.head?.map (·.chunkIndex) = some 0

/-- `ChunkRecords`, with every index below the loop's counter. -/
def RecordInv (st : Loop) : Prop :=
  ChunkRecords st.chunks ∧ ∀ c ∈ st.chunks, c.chunkIndex < st.chunkIndex

/-- Every pass keeps `RecordInv`: a new chunk carries the counter, above all the indices
before it. -/
theorem RecordInv.step {st : Loop} (h : RecordInv st) :
    RecordInv (ch.loopStep content metadata st) := by
  obtain ⟨⟨hall, hsort, hhead⟩, hlt⟩ := h
  rw [RecordInv, loopStep_chunks, loopStep_chunkIndex]
  split
  · exact ⟨⟨hall, hsort, hhead⟩, fun c hc => by have := hlt c hc; omega⟩
  · rename_i hne
    have hne' : (windowChunk content metadata st.chunkIndex st.start
        (ch.windowEnd content st.start)).content ≠ [] := by simpa using hne
    refine ⟨⟨fun c hc => ?_, ?_, ?_⟩, fun c hc => ?_⟩
    · rcases List.mem_append.mp hc with hc | hc
      · exact hall c hc
      · rw [List.mem_singleton.mp hc]; exact ⟨hne', rfl⟩
    · rw [List.map_append, List.pairwise_append]
      refine ⟨hsort, List.pairwise_singleton _ _, fun a ha b hb => ?_⟩
      obtain ⟨c, hc, rfl⟩ := List.mem_map.mp ha
      simp only [List.map_cons, List.map_nil, List.mem_singleton] at hb
      rw [hb]; exact hlt c hc
    · rcases hnil : st.chunks with _ | ⟨c, cs⟩
      · rw [hnil] at hhead; simp at hhead
      · rw [hnil] at hhead; simpa using hhead
    · rcases List.mem_append.mp hc with hc | hc
      · have := hlt c hc; omega
      · rw [List.mem_singleton.mp hc]; simp [windowChunk]

/-- The first window of a text longer than `chunk_size` is kept, as chunk `0`: it starts
with the first code point, which `_clean_content` leaves non-blank. -/
theorem recordInv_first {input : PyStr} (hcs : 0 < ch.chunkSize)
    (hlong : ch.chunkSize < (cleanContent input).length) :
    RecordInv (ch.loopStep (cleanContent input) metadata ⟨0, 0, []⟩) := by
  have hT : cleanContent input ≠ [] := fun h => by simp [h] at hlong; omega
  have h0 : 0 < (cleanContent input).length := List.length_pos.mpr hT
  have hend : 1 ≤ ch.windowEnd (cleanContent input) 0 := by
    rcases @windowEnd_spec ch (cleanContent input) 0 (Int.le_refl 0) (by omega) (by omega) with
      ⟨h, -⟩ | ⟨P, ⟨-, -, -, h5⟩, h, -⟩ <;> omega
  have hsp : isPySpace (cleanContent input)[0] = false := by
    simpa [List.head_eq_getElem] using pyStrip_head_not_space hT
  have hne : (windowChunk (cleanContent input) metadata 0 0
      (ch.windowEnd (cleanContent input) 0)).content ≠ [] :=
    windowChunk_content_ne_nil (Int.le_refl 0) (by simp) (by simpa using hend) h0 hsp 0
  have hchunks : (ch.loopStep (cleanContent input) metadata ⟨0, 0, []⟩).chunks =
      [windowChunk (cleanContent input) metadata 0 0 (ch.windowEnd (cleanContent input) 0)] := by
    rw [loopStep_chunks]; simp [hne]
  rw [RecordInv, ChunkRecords, hchunks]
  refine ⟨⟨fun c hc => ?_, by simp, rfl⟩, fun c hc => ?_⟩ <;> rw [List.mem_singleton.mp hc]
  · exact ⟨hne, rfl⟩
  · simp [windowChunk]

end DocumentChunker

open DocumentChunker

/-- **The chunk records `chunk_document` returns.** Every chunk carries the final
`chunk_count`; the `chunk_index` values start at `0` and strictly increase. On the windowing
path every chunk is non-empty and its metadata repeats its `chunk_index`; the fast path
returns the normalised text as its one chunk, with the caller's metadata, even when that
text is empty. -/
theorem chunkDocument_chunk_records {ch : DocumentChunker} {fuel : Nat} {input : PyStr}
    {metadata : Option (PyDict JsonVal)} {r : List Chunk} (hcs : 0 < ch.chunkSize)
    (h : ch.chunkDocument fuel input metadata = some r) :
    (∀ c ∈ r, c.chunkCount = r.length) ∧ r.head?.map (·.chunkIndex) = some 0 ∧
      (r.map (·.chunkIndex)).Pairwise (· < ·) ∧
      (((cleanContent input).length ≤ ch.chunkSize ∧
          r = [⟨cleanContent input, ⟨metadata.getD [], none⟩, 0, 1⟩]) ∨
        ch.chunkSize < (cleanContent input).length ∧
          ∀ c ∈ r, c.content ≠ [] ∧ c.metadata.loc.map (·.chunkIndex) = some c.chunkIndex) := by
  rcases chunkDocument_cases h with ⟨hshort, rfl⟩ | ⟨hlong, chunks, hrun, rfl⟩
  · simp [hshort]
  · cases fuel with
    | zero => simp [chunkLoop] at hrun
    | succ fuel =>
      rw [chunkLoop_succ_of_lt (by simp; omega)] at hrun
      obtain ⟨hall, hsort, hhead⟩ := chunkLoop_induction RecordInv ChunkRecords
        (fun _ h _ => .inl h.step) (fun _ h _ => h.1) fuel _ chunks
        (recordInv_first hcs (by omega)) hrun
      refine ⟨by simp, ?_, ?_, .inr ⟨hlong, fun c hc => ?_⟩⟩
      · rcases chunks with _ | ⟨c, cs⟩
        · simp at hhead
        · simpa using hhead
      · simpa [List.map_map, Function.comp_def] using hsort
      · obtain ⟨c', hc', rfl⟩ := List.mem_map.mp hc
        exact hall c' hc'

/-- On a three-window text the records are `0, 1, 2` of three. -/
theorem chunkDocument_chunk_records_three_windows :
    ∃ r, (DocumentChunker.mk 4 1).chunkDocument 8 "ab cd. ef".toList none = some r ∧
      (∀ c ∈ r, c.chunkCount = r.length) ∧ r.head?.map (·.chunkIndex) = some 0 ∧
      (r.map (·.chunkIndex)).Pairwise (· < ·) ∧
      ((((cleanContent "ab cd. ef".toList).length : Int) ≤ 4 ∧
          r = [⟨cleanContent "ab cd. ef".toList, ⟨(none : Option (PyDict JsonVal)).getD [], none⟩,
            0, 1⟩]) ∨
        4 < ((cleanContent "ab cd. ef".toList).length : Int) ∧
          ∀ c ∈ r, c.content ≠ [] ∧ c.metadata.loc.map (·.chunkIndex) = some c.chunkIndex) :=
  ⟨_, rfl, @chunkDocument_chunk_records (DocumentChunker.mk 4 1) 8 "ab cd. ef".toList none _
    (by decide) rfl⟩

/-- Two inputs on which the records are not `0, …, n-1` with non-empty contents: the fast
path returns an empty chunk for an empty text, and on `b a` with `chunk_size = 1` the
dropped blank window leaves the index `1` out, so the last chunk's index reaches
`chunk_count`. -/
theorem chunkDocument_empty_chunk_and_index_gap :
    (∃ r, (DocumentChunker.mk 1000 100).chunkDocument 1 [] none = some r ∧
      ∃ c ∈ r, c.content = []) ∧
    ∃ r, (DocumentChunker.mk 1 0).chunkDocument 4 "b a".toList none = some r ∧
      r.map (·.chunkIndex) = [0, 2] ∧ ∃ c ∈ r, r.length ≤ c.chunkIndex :=
  ⟨⟨_, rfl, _, List.mem_singleton_self _, rfl⟩, ⟨_, rfl, by decide⟩⟩

/-- **The loop can spin.** With `chunk_size = 16` and `overlap = 15`, the sentence ending at
position 13 cuts the first window at 15, and the next window starts at `15 - 15 = 0` again:
on this input `chunk_document` never returns, whatever the fuel. -/
theorem chunkDocument_never_returns (fuel : Nat) :
    (DocumentChunker.mk 16 15).chunkDocument fuel "aaaaaaaaaaaaa. bb".toList none = none := by
  have hT : cleanContent "aaaaaaaaaaaaa. bb".toList = "aaaaaaaaaaaaa. bb".toList := by decide
  have hw : (DocumentChunker.mk 16 15).windowEnd "aaaaaaaaaaaaa. bb".toList 0 = 15 := by decide
  rw [chunkDocument_eq, hT, if_neg (by decide),
    chunkLoop_eq_none_of_fixed (by rw [hw]; rfl) (by decide) fuel _ rfl]
  rfl

/-- With `0 ≤ overlap < chunk_size` and `5 * overlap ≤ 4 * chunk_size + 10`, every window
moves the start forward, so the loop returns once the fuel exceeds the length of the cleaned
text. -/
theorem DocumentChunker.chunkDocument_isSome_of_small_overlap {ch : DocumentChunker}
    {input : PyStr} {metadata : Option (PyDict JsonVal)} {fuel : Nat} (hov : 0 ≤ ch.overlap)
    (hlt : ch.overlap < ch.chunkSize) (hsmall : 5 * ch.overlap ≤ 4 * ch.chunkSize + 10)
    (hfuel : (cleanContent input).length < fuel) :
    ∃ r, ch.chunkDocument fuel input metadata = some r := by
  rw [chunkDocument_eq]
  split
  · exact ⟨_, rfl⟩
  · obtain ⟨r, hr⟩ := DocumentChunker.chunkLoop_isSome_of_advance
      (fun s hs => DocumentChunker.lt_windowEnd_sub_overlap hs hov hlt hsmall) fuel ⟨0, 0, []⟩
      (Int.le_refl 0) (show ((cleanContent input).length - (0 : Int)).toNat < fuel by omega)
    exact ⟨_, by rw [hr]; rfl⟩

/-- **Small overlaps terminate.** With `0 ≤ overlap < chunk_size` and
`5 * overlap ≤ 4 * chunk_size + 10`, which the defaults `chunk_size = 1000` and
`overlap = 100` meet, every window moves the start forward, and `chunk_document` returns
once the fuel exceeds the length of the cleaned text. -/
theorem chunkDocument_returns {ch : DocumentChunker} {input : PyStr}
    {metadata : Option (PyDict JsonVal)} {fuel : Nat} (hov : 0 ≤ ch.overlap)
    (hlt : ch.overlap < ch.chunkSize) (hsmall : 5 * ch.overlap ≤ 4 * ch.chunkSize + 10)
    (hfuel : (cleanContent input).length < fuel) :
    ∃ r, ch.chunkDocument fuel input metadata = some r :=
  chunkDocument_isSome_of_small_overlap hov hlt hsmall hfuel

/-- A text of 44 code points, longer than a `chunk_size` of 20, cut into overlapping windows
with `overlap = 5`. -/
theorem chunkDocument_returns_overlapping_windows :
    ∃ r, (DocumentChunker.mk 20 5).chunkDocument 45
      "KotaDB stores documents. It answers queries.".toList none = some r :=
  chunkDocument_returns (by decide) (by decide) (by decide) (by decide)

/-- **Four fifths is not past four fifths.** With `chunk_size = 15` the ending `. ` of
`aaaaaaaaaaaa. bbb` starts at `12`, exactly four fifths of the window `[0, 15)`, in its last
fifth; `_find_sentence_boundary` keeps an ending only strictly past four fifths, so the first
chunk is cut at `15`, through the next sentence, and not at `12 + 2`. -/
theorem chunkDocument_four_fifths_uncut :
    (∃ e ∈ sentenceEndings, e <+: "aaaaaaaaaaaa. bbb".toList.drop 12) ∧ 5 * 12 = 4 * 15 ∧
      ((DocumentChunker.mk 15 0).chunkDocument 3 "aaaaaaaaaaaa. bbb".toList none).map
        (·.map Chunk.span) = some [(0, 15), (15, 30)] := by
  decide

/-- **A chunk that only repeats text.** With `chunk_size = 2` and `overlap = 1`, the window
`[1, 3)` already reaches the end of `abc`, yet the loop goes on to emit `[2, 4)`, whose only
position, `2`, the chunk before it covers. -/
theorem chunkDocument_redundant_chunk :
    ∃ r, (DocumentChunker.mk 2 1).chunkDocument 4 "abc".toList none = some r ∧
      ∃ pre c, r = pre ++ [c] ∧ ∀ i : Int, c.span.1 ≤ i → i < min c.span.2 3 →
        ∃ d ∈ pre, d.span.1 ≤ i ∧ i < d.span.2 := by
  refine ⟨[⟨"ab".toList, ⟨[], some ⟨0, 0, 2⟩⟩, 0, 3⟩, ⟨"bc".toList, ⟨[], some ⟨1, 1, 3⟩⟩, 1, 3⟩,
    ⟨"c".toList, ⟨[], some ⟨2, 2, 4⟩⟩, 2, 3⟩], rfl,
    [⟨"ab".toList, ⟨[], some ⟨0, 0, 2⟩⟩, 0, 3⟩, ⟨"bc".toList, ⟨[], some ⟨1, 1, 3⟩⟩, 1, 3⟩],
    ⟨"c".toList, ⟨[], some ⟨2, 2, 4⟩⟩, 2, 3⟩, rfl, fun i h₁ h₂ => ?_⟩
  exact ⟨⟨"bc".toList, ⟨[], some ⟨1, 1, 3⟩⟩, 1, 3⟩, by simp, by simp [Chunk.span] at *; omega⟩

end KotaRag
