import KotaRag.Chunker.Run

/-!
# Where each chunk lies

Every chunk of the windowing loop records the window it was cut from: `chunk_index`,
`start_char` and `end_char` in its metadata. This module shows what those records say about
the text (`Located`):

* the start lies in the text, the window ends after it and at most `chunk_size` later, and
  the chunk is the stripped slice it records (`chunkDocument_locations`). The end is not
  clamped to the text: the last window can overhang it;
* so every chunk is a stripped piece of the text of at most `chunk_size` code points
  (`chunkDocument_chunk_substrings`).

The single chunk of the fast path records no window: its metadata is the caller's.

A window with a negative start would record a negative `start_char`. None is kept: the start
never falls `chunk_size` below zero, and from there a window reads an empty slice
(`SpanInv.step`).
-/

namespace KotaRag

namespace DocumentChunker

/-- What a chunk of the windowing loop records: a location whose `chunk_index` is the
chunk's own, whose `start_char` lies in the text, whose window `[start_char, end_char)` is
non-empty and at most `chunk_size` long, and whose stripped slice is the chunk's content. -/
def Located (ch : DocumentChunker) (T : PyStr) (c : Chunk) : Prop :=
  ∃ l : ChunkLoc, c.metadata.loc = some l ∧ l.chunkIndex = c.chunkIndex ∧ 0 ≤ l.startChar ∧
    l.startChar < T.length ∧ l.startChar < l.endChar ∧ l.endChar ≤ l.startChar + ch.chunkSize ∧
    c.content = pyStrip (pySlice T l.startChar l.endChar)

/-- Filling in `chunk_count` changes no record. -/
@[simp] theorem located_withCount {ch : DocumentChunker} {T : PyStr} (c : Chunk) (k : Nat) :
    Located ch T { c with chunkCount := k } ↔ Located ch T c := Iff.rfl

/-- The loop invariant: the start stays above `-chunk_size`, and every kept chunk is
`Located`. -/
def SpanInv (ch : DocumentChunker) (T : PyStr) (st : Loop) : Prop :=
  -ch.chunkSize < st.start ∧ ∀ c ∈ st.chunks, Located ch T c

variable {ch : DocumentChunker} {T : PyStr} {md : PyDict JsonVal}

/-- **One pass keeps `SpanInv`.** From a non-negative start the window ends after it and at
most `chunk_size` later, so the chunk it keeps is `Located` and the next start is above
`-overlap`; from a negative start the window reads an empty slice, is dropped, and the next
start is larger. -/
theorem SpanInv.step {st : Loop} (hov : 0 ≤ ch.overlap) (hlt : ch.overlap < ch.chunkSize)
    (hlong : ch.chunkSize < T.length) (hst : st.start < T.length) (h : SpanInv ch T st) :
    SpanInv ch T (ch.loopStep T md st) := by
  obtain ⟨hlo, hall⟩ := h
  by_cases hs : 0 ≤ st.start
  · have he : st.start < ch.windowEnd T st.start := lt_windowEnd hs (by omega)
    have hle : ch.windowEnd T st.start ≤ st.start + ch.chunkSize := windowEnd_le hs (by omega)
    refine ⟨by rw [loopStep_start]; omega, fun c hc => ?_⟩
    rw [loopStep_chunks] at hc
    split at hc
    · exact hall c hc
    · rcases List.mem_append.mp hc with hc | hc
      · exact hall c hc
      · rw [List.mem_singleton.mp hc]
        exact ⟨⟨st.chunkIndex, st.start, _⟩, rfl, rfl, hs, hst, he, hle, rfl⟩
  · have hwe : ch.windowEnd T st.start = st.start + ch.chunkSize :=
      windowEnd_of_neg (by omega) (by omega) (by omega)
    have hempty : (windowChunk T md st.chunkIndex st.start
        (ch.windowEnd T st.start)).content = [] := by
      rw [hwe]
      simp [windowChunk, pySlice_eq_nil_of_neg T (show st.start < 0 by omega) (by omega)
        (show st.start + ch.chunkSize ≤ st.start + T.length by omega)]
    refine ⟨by rw [loopStep_start, hwe]; omega, fun c hc => ?_⟩
    rw [loopStep_chunks, if_pos (by simp [hempty])] at hc
    exact hall c hc

/-- A located chunk is a stripped piece of the text, at most `chunk_size` long. -/
theorem Located.piece {c : Chunk} (h : Located ch T c) :
    c.content <:+: T ∧ pyStrip c.content = c.content ∧ (c.content.length : Int) ≤ ch.chunkSize := by
  obtain ⟨l, -, -, hl0, -, hlt, hle, hcontent⟩ := h
  rw [hcontent]
  have hslice := length_pySlice_le T hl0 (show 0 ≤ l.endChar by omega)
  have hstrip := (pyStrip_isInfix_self (pySlice T l.startChar l.endChar)).length_le
  exact ⟨(pyStrip_isInfix_self _).trans (pySlice_isInfix_self _ _ _), pyStrip_pyStrip _, by omega⟩

/-- Every chunk the loop returns is `Located`. -/
theorem chunkLoop_located (hov : 0 ≤ ch.overlap) (hlt : ch.overlap < ch.chunkSize)
    (hlong : ch.chunkSize < T.length) {fuel : Nat} {r : List Chunk}
    (h : ch.chunkLoop T md fuel ⟨0, 0, []⟩ = some r) : ∀ c ∈ r, Located ch T c :=
  chunkLoop_induction (SpanInv ch T) (fun chunks => ∀ c ∈ chunks, Located ch T c)
    (fun _ hinv hst => .inl (hinv.step hov hlt hlong hst)) (fun _ hinv _ => hinv.2) fuel _ r
    ⟨show -ch.chunkSize < 0 by omega, by simp⟩ h

end DocumentChunker

/-! ## What `chunk_document` returns -/

section Returned

variable {ch : DocumentChunker} {fuel : Nat} {input : PyStr}
  {metadata : Option (PyDict JsonVal)} {r : List Chunk}

/-- **The recorded locations.** On the fast path the one chunk is the whole text, with the
caller's metadata and no location. On the windowing path every chunk is `Located`: it
records its `chunk_index`, a `start_char` in `[0, len(T))` and an `end_char` after it and at
most `chunk_size` later, and it is `T[start_char:end_char].strip()`. -/
theorem chunkDocument_locations (hov : 0 ≤ ch.overlap) (hlt : ch.overlap < ch.chunkSize)
    (h : ch.chunkDocument fuel input metadata = some r) :
    ((cleanContent input).length ≤ ch.chunkSize ∧
        r = [⟨cleanContent input, ⟨metadata.getD [], none⟩, 0, 1⟩]) ∨
      (ch.chunkSize < (cleanContent input).length ∧
        ∀ c ∈ r, DocumentChunker.Located ch (cleanContent input) c) := by
  rcases DocumentChunker.chunkDocument_cases h with hfast | ⟨hlong, chunks, hrun, rfl⟩
  · exact .inl hfast
  · refine .inr ⟨hlong, fun c hc => ?_⟩
    obtain ⟨c', hc', rfl⟩ := List.mem_map.mp hc
    exact (DocumentChunker.located_withCount c' _).mpr
      (DocumentChunker.chunkLoop_located hov hlt hlong hrun c' hc')

theorem chunkDocument_locations_three_windows :
    ∃ r, (DocumentChunker.mk 4 1).chunkDocument 8 "ab cd. ef".toList none = some r ∧
      ((((cleanContent "ab cd. ef".toList).length : Int) ≤ 4 ∧
          r = [⟨cleanContent "ab cd. ef".toList, ⟨(none : Option (PyDict JsonVal)).getD [], none⟩,
            0, 1⟩]) ∨
        ((4 : Int) < (cleanContent "ab cd. ef".toList).length ∧
          ∀ c ∈ r, DocumentChunker.Located (DocumentChunker.mk 4 1)
            (cleanContent "ab cd. ef".toList) c)) :=
  ⟨_, rfl, @chunkDocument_locations (DocumentChunker.mk 4 1) 8 "ab cd. ef".toList none _
    (by decide) (by decide) rfl⟩

/-- **No location on the fast path, and an overhanging last window.** A short text comes
back as one chunk whose metadata is the caller's, here empty, with no `start_char` or
`end_char`. With `chunk_size = 10` and no overlap, twenty-five code points are cut at `10`
and `20`, and the last window records `end_char = 30`, past the end of the text. -/
theorem chunkDocument_no_location_and_overhang :
    ((DocumentChunker.mk 10 0).chunkDocument 1 "KotaDB".toList none).map
        (·.map fun c => (c.content, c.metadata.loc, c.metadata.toDict.isEmpty)) =
      some [("KotaDB".toList, none, true)] ∧
      ((DocumentChunker.mk 10 0).chunkDocument 4 (List.replicate 25 'a') none).map
          (·.map Chunk.span) = some [(0, 10), (10, 20), (20, 30)] ∧
        (cleanContent (List.replicate 25 'a')).length = 25 := by
  decide

/-- **Every chunk is a stripped piece of the text, at most `chunk_size` long.** -/
theorem chunkDocument_chunk_substrings (hov : 0 ≤ ch.overlap) (hlt : ch.overlap < ch.chunkSize)
    (h : ch.chunkDocument fuel input metadata = some r) :
    ∀ c ∈ r, c.content <:+: cleanContent input ∧ pyStrip c.content = c.content ∧
      (c.content.length : Int) ≤ ch.chunkSize := by
  intro c hc
  rcases DocumentChunker.chunkDocument_cases h with ⟨hshort, rfl⟩ | ⟨hlong, chunks, hrun, rfl⟩
  · rw [List.mem_singleton.mp hc]
    exact ⟨List.infix_refl _, pyStrip_pyStrip _, hshort⟩
  · obtain ⟨c', hc', rfl⟩ := List.mem_map.mp hc
    exact (DocumentChunker.chunkLoop_located hov hlt hlong hrun c' hc').piece

theorem chunkDocument_chunk_substrings_three_windows :
    ∃ r, (DocumentChunker.mk 4 1).chunkDocument 8 "ab cd. ef".toList none = some r ∧
      ∀ c ∈ r, c.content <:+: cleanContent "ab cd. ef".toList ∧ pyStrip c.content = c.content ∧
        (c.content.length : Int) ≤ 4 :=
  ⟨_, rfl, @chunkDocument_chunk_substrings (DocumentChunker.mk 4 1) 8 "ab cd. ef".toList none _
    (by decide) (by decide) rfl⟩

end Returned

end KotaRag
