import KotaRag.Ingest

/-!
# The names `ingest_document` gives its chunks

`ingest_document` stores the `i`-th chunk of a title under
`/knowledge/<safe_title>/chunk_{i:03d}.md`, titled `<title> - Chunk <i+1>`. This module proves
what those names can and cannot collide on. Decimal numerals are read back by their value
(`digitsValue`, Python's `int` on a string of digits), which leading zeros do not change.

* `ingestDocument_names_nodup` — the documents one call stores have pairwise distinct paths
  and pairwise distinct titles;
* `chunkPath_eq_iff` — unless `\w` matches `/`, two chunk paths are equal exactly when the
  titles have the same safe form and the indices agree, so titles that differ only outside
  `[\w\-_]` share their paths.
-/

namespace KotaRag

/-! ## Decimal numerals -/

/-- Reading on from an accumulated value shifts it by the digits still to come. -/
theorem foldl_digitValue (s : PyStr) : ∀ acc : Nat,
    s.foldl (fun acc c => 10 * acc + digitValue c) acc = acc * 10 ^ s.length + digitsValue s := by
  induction s with
  | nil => intro acc; simp [digitsValue]
  | cons c s ih =>
    intro acc
    simp only [digitsValue, List.foldl_cons, ih (10 * acc + digitValue c), ih (10 * 0 + digitValue c),
      List.length_cons, Nat.pow_succ]
    ring

theorem digitsValue_cons (c : Char) (s : PyStr) :
    digitsValue (c :: s) = digitValue c * 10 ^ s.length + digitsValue s := by
  rw [digitsValue, List.foldl_cons, foldl_digitValue]
  simp

/-- `Nat.digitChar` of a digit is read back as that digit. -/
theorem digitValue_digitChar : ∀ m < 10, digitValue (Nat.digitChar m) = m := by
  decide

/-- `Nat.toDigitsCore` with enough fuel puts the numeral in front of what it was given. -/
theorem digitsValue_toDigitsCore : ∀ (fuel n : Nat) (ds : PyStr), n < fuel →
    digitsValue (Nat.toDigitsCore 10 fuel n ds) = n * 10 ^ ds.length + digitsValue ds
  | 0, _, _, h => absurd h (Nat.not_lt_zero _)
  | fuel + 1, n, ds, h => by
    have hd := digitValue_digitChar (n % 10) (Nat.mod_lt _ (by decide))
    unfold Nat.toDigitsCore
    dsimp only
    split
    · rename_i h0
      rw [digitsValue_cons, hd, Nat.mod_eq_of_lt (by omega)]
    · rename_i h0
      rw [digitsValue_toDigitsCore fuel (n / 10) _ (by omega), digitsValue_cons, hd,
        List.length_cons, Nat.pow_succ]
      -- `n` is `10 * (n / 10) + n % 10`
      have hn := Nat.div_add_mod n 10
      generalize n / 10 = q at hn ⊢
      generalize n % 10 = r at hn ⊢
      subst hn
      ring

/-- `str(n)` is read back as `n`. -/
theorem digitsValue_toDigits (n : Nat) : digitsValue (Nat.toDigits 10 n) = n := by
  rw [Nat.toDigits, digitsValue_toDigitsCore _ _ _ (Nat.lt_succ_self n)]
  simp [digitsValue]

/-- Leading zeros do not change a numeral's value. -/
theorem digitsValue_zeros (k : Nat) (s : PyStr) :
    digitsValue (List.replicate k '0' ++ s) = digitsValue s := by
  induction k with
  | zero => rfl
  | succ k ih =>
    rw [List.replicate_succ, List.cons_append, digitsValue_cons, ← ih]
    simp [digitValue]

theorem digitsValue_format03d (i : Nat) : digitsValue (format03d i) = i := by
  rw [format03d, digitsValue_zeros, digitsValue_toDigits]

theorem format03d_injective : Function.Injective format03d := fun i j h => by
  rw [← digitsValue_format03d i, h, digitsValue_format03d]

/-! ## Paths and titles -/

/-- The chunks of one title get distinct paths. -/
theorem chunkPath_injective (isWordChar : Char → Bool) (title : PyStr) :
    Function.Injective (chunkPath isWordChar title) := fun _ _ h =>
  format03d_injective (List.append_cancel_left (List.append_cancel_right h))

/-- The chunks of one title get distinct titles. -/
theorem chunkTitle_injective (title : PyStr) : Function.Injective (chunkTitle title) :=
  fun _ _ h => by
    have h' := congrArg digitsValue (List.append_cancel_left h)
    rwa [digitsValue_toDigits, digitsValue_toDigits, Nat.add_right_cancel_iff] at h'

/-- A safe title holds no `/` unless `\w` matches it. -/
theorem slash_not_mem_safeTitle {isWordChar : Char → Bool} (hslash : isWordChar '/' = false)
    (title : PyStr) : '/' ∉ safeTitle isWordChar title := by
  simp only [safeTitle, List.mem_map, not_exists, not_and]
  intro c _
  split <;> rename_i hc
  · rintro rfl
    simp [hslash] at hc
  · decide

/-- Two lists that each end at the first occurrence of a separator are equal when what
follows them is. -/
theorem append_cons_inj {a : Char} : ∀ {s₁ s₂ r₁ r₂ : PyStr}, a ∉ s₁ → a ∉ s₂ →
    s₁ ++ a :: r₁ = s₂ ++ a :: r₂ → s₁ = s₂ ∧ r₁ = r₂
  | [], [], _, _, _, _, h => ⟨rfl, List.cons.inj h |>.2⟩
  | [], b :: _, _, _, _, h₂, h => absurd (List.mem_cons.mpr (.inl (List.cons.inj h).1)) h₂
  | b :: _, [], _, _, h₁, _, h => absurd (List.mem_cons.mpr (.inl (List.cons.inj h).1.symm)) h₁
  | b :: s₁, c :: s₂, _, _, h₁, h₂, h => by
    simp only [List.cons_append, List.cons.injEq] at h
    obtain ⟨rfl, h⟩ := h
    obtain ⟨rfl, hr⟩ := append_cons_inj (List.not_mem_of_not_mem_cons h₁)
      (List.not_mem_of_not_mem_cons h₂) h
    exact ⟨rfl, hr⟩

/-- **When two chunk paths collide.** Unless `\w` matches `/`, two chunk paths are equal
exactly when the titles have the same safe form and the chunk indices agree: titles that
differ only in characters outside `[\w\-_]`, such as `Q&A` and `Q A`, share every path. -/
theorem chunkPath_eq_iff {isWordChar : Char → Bool} (hslash : isWordChar '/' = false)
    (title₁ title₂ : PyStr) (i j : Nat) :
    chunkPath isWordChar title₁ i = chunkPath isWordChar title₂ j ↔
      safeTitle isWordChar title₁ = safeTitle isWordChar title₂ ∧ i = j := by
  constructor
  · intro h
    have hsep : "/chunk_".toList = '/' :: "chunk_".toList := rfl
    simp only [chunkPath, List.append_assoc, List.append_cancel_left_eq, hsep] at h
    obtain ⟨hs, hr⟩ := append_cons_inj (slash_not_mem_safeTitle hslash _)
      (slash_not_mem_safeTitle hslash _) h
    exact ⟨hs, format03d_injective
      (List.append_cancel_right (List.append_cancel_left hr))⟩
  · rintro ⟨hs, rfl⟩
    simp only [chunkPath, hs]

theorem chunkPath_eq_iff_qa :
    Char.isAlphanum '/' = false ∧
      (chunkPath Char.isAlphanum "Q&A".toList 0 = chunkPath Char.isAlphanum "Q A".toList 0 ↔
        safeTitle Char.isAlphanum "Q&A".toList = safeTitle Char.isAlphanum "Q A".toList ∧
          0 = 0) :=
  ⟨by decide, chunkPath_eq_iff (by decide) _ _ 0 0⟩

/-! ## What one call stores -/

namespace RAGPipeline

variable {σ : Type} (w : IngestWorld σ) {title : PyStr} {source : Option PyStr}

/-- The loop stores each chunk at most once, under its own index: any name that tells the
indices apart is never repeated among the documents it stores. -/
theorem ingestChunks_nodup {β : Type} (key : BuiltDoc → β) (g : Nat → β)
    (hg : Function.Injective g) (hkey : ∀ i c embedding, key (chunkDoc w title source i c embedding) = g i) :
    ∀ (chunks : List Chunk) (embedder : EmbeddingProvider) (i : Nat),
      ((ingestChunks w title source embedder i chunks).2.map fun r => key r.1).Nodup
  | [], _, _ => List.nodup_nil
  | c :: chunks, embedder, i => by
    have ih := ingestChunks_nodup key g hg hkey chunks
      (EmbeddingProvider.embedText w.toEmbedWorld embedder c.content).1 (i + 1)
    -- every later document is named after a later index
    have hlater : g i ∉ (ingestChunks w title source
        (EmbeddingProvider.embedText w.toEmbedWorld embedder c.content).1 (i + 1) chunks).2.map
          fun r => key r.1 := by
      intro hx
      obtain ⟨⟨d, id⟩, hd, hdi⟩ := List.mem_map.mp hx
      obtain ⟨j, c', embedding, -, rfl, -⟩ := mem_ingestChunks w hd
      have := hg ((hkey _ _ _).symm.trans hdi)
      omega
    simp only [ingestChunks]
    rcases hemb : (EmbeddingProvider.embedText w.toEmbedWorld embedder c.content).2 with
      err | embedding
    · simpa using ih
    · rcases hins : w.insert (chunkDoc w title source i c embedding) with err | id
      · simpa [hins] using ih
      · simp only [hins, except_toOption_ok, Option.map_some', Option.toList_some,
          List.singleton_append, List.map_cons, hkey]
        exact List.nodup_cons.mpr ⟨hlater, ih⟩

/-- **One call never reuses a name.** The documents one `ingest_document` call stores have
pairwise distinct paths and pairwise distinct titles: the `i`-th chunk is stored under
`chunk_{i:03d}.md` and titled `<title> - Chunk <i+1>`, and neither numeral repeats. -/
theorem ingestDocument_names_nodup {p p' : RAGPipeline} {fuel : Nat} {content : PyStr}
    {metadata : Option (PyDict JsonVal)} {stored : List (BuiltDoc × PyStr)}
    (h : ingestDocument w p fuel title content source metadata = some (p', stored)) :
    (stored.map (·.1.path)).Nodup ∧ (stored.map (·.1.title)).Nodup := by
  obtain ⟨chunks, -, hr⟩ := Option.map_eq_some'.mp h
  cases hr
  exact ⟨ingestChunks_nodup w _ _ (chunkPath_injective w.isWordChar title) (fun _ _ _ => rfl) _ _ _,
    ingestChunks_nodup w _ _ (chunkTitle_injective title) (fun _ _ _ => rfl) _ _ _⟩

/-- A pipeline that cuts chunks of twenty code points, with no overlap. -/
def smallChunkPipeline : RAGPipeline :=
  init demoWorld.deps (fun _ => .ok []) (some { chunkSize := 20, chunkOverlap := 0 })

/-- A text of three such chunks: the call stores all three. -/
theorem ingestDocument_names_nodup_three_chunks :
    ∃ p' stored, ingestDocument demoIngestWorld smallChunkPipeline 10 "KotaDB".toList
        "KotaDB stores documents. It answers queries.".toList none none = some (p', stored) ∧
      (stored.map (·.1.path)).Nodup ∧ (stored.map (·.1.title)).Nodup :=
  have h : ingestDocument demoIngestWorld smallChunkPipeline 10 "KotaDB".toList
      "KotaDB stores documents. It answers queries.".toList none none = some (_, _) := rfl
  ⟨_, _, h, ingestDocument_names_nodup demoIngestWorld h⟩

end RAGPipeline

end KotaRag
