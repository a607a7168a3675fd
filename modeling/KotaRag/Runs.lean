import KotaRag.Chunker.Run
import KotaRag.Requests

/-!
# What a run stores, and that it returns

Only `ingest_document` writes to the store. This module states where every document in the
store after a run comes from, and that every run returns once the loop of `chunk_document`
has the fuel the texts it ingests need.

* `run_docs_provenance` — every document in the store after a run from `__init__` is a chunk
  of the text of one of the run's ingestions, under its title and source, with an embedding
  that the embedder `__init__` built returned for the chunk;
* `run_returns` — when the overlap is non-negative, below `chunk_size` and small enough for the
  window to advance, every run returns that gives each ingestion more fuel than its cleaned
  text has code points.
-/

namespace KotaRag

open RAGPipeline

/-- The fuel the loop of `chunk_document` needs for an operation: one more than the code points
of the cleaned text it ingests, none when it does not ingest. -/
def Op.fuelNeeded {σ : Type} : Op σ → Nat
  | .ingest _ content _ _ => (cleanContent content).length + 1
  | _ => 0

/-- What an operation can have put in the store, under a configuration, with its fuel: for
`ingest_document`, the store document of a chunk `chunk_document` returned for its content,
under its title and source, with what `embed_text` returned for the chunk's content from the
embedder `__init__` built, after some requests; nothing for the other operations. -/
def Op.Stores {σ : Type} (w : IngestWorld σ) (config : RAGConfig) (fuel : Nat) :
    Op σ → StoreDoc → Prop
  | .ingest title content source metadata, d =>
    ∃ chunks i c embedding,
      (⟨config.chunkSize, config.chunkOverlap⟩ : DocumentChunker).chunkDocument fuel content
        (some (ingestMetadata w.now content source metadata)) = some chunks ∧
      chunks[i]? = some c ∧ d = (chunkDoc w title source i c embedding).toStoreDoc ∧
      ∃ n, (EmbeddingProvider.embedText w.toEmbedWorld { initEmbedder w.deps with requests := n }
        c.content).2 = .ok embedding
  | _, _ => False

namespace KnowledgeBase

variable (textMatch : PyStr → StoreDoc → Bool) {σ : Type} [OfScientific σ]
  (w : PipelineWorld σ)

/-- A pipeline with `openai`, cutting chunks of twenty code points with no overlap, over an
empty store. -/
def smallChunkBase : KnowledgeBase :=
  init anyText openaiWorld.deps (some { chunkSize := 20, chunkOverlap := 0 })

/-- Ingesting a text of three chunks, then asking about it. -/
def ingestThenAsk : List (Nat × Op ℚ) :=
  [(10, .ingest "KotaDB".toList "KotaDB stores documents. It answers queries.".toList none none),
    (0, .ask "What does KotaDB store?".toList)]

/-! ## What a run stores -/

/-- A document after a step was there before, or the step stored it, from an embedder
that the invariant keeps `__init__`'s but for its request count. -/
theorem step_docs_stores {kb kb' : KnowledgeBase} {fuel : Nat} {op : Op σ} (hinv : KBInv w kb)
    (h : step textMatch w fuel kb op = some kb') {d : StoreDoc} (hd : d ∈ kb'.docs) :
    d ∈ kb.docs ∨ op.Stores w.toIngestWorld kb.config fuel d := by
  cases op with
  | ingest title content source metadata =>
    obtain ⟨r, hr, rfl⟩ := Option.map_eq_some'.mp h
    rcases List.mem_append.mp hd with hd | hd
    · exact .inl hd
    · obtain ⟨⟨bd, id⟩, hmem, rfl⟩ := List.mem_map.mp hd
      obtain ⟨chunks, i, c, embedding, hchunks, hi, rfl, -, n, hemb⟩ :=
        mem_ingestDocument w.toIngestWorld hr hmem
      obtain ⟨m, hm⟩ := hinv.embedder
      have hp : (kb.pipeline textMatch).embedder = { initEmbedder w.deps with requests := m } := hm
      rw [hp] at hemb
      exact .inr ⟨chunks, i, c, embedding, hchunks, hi, rfl, n, hemb⟩
  | _ => exact .inl (((step_frame w textMatch h).2.2 rfl).1 ▸ hd)

/-- A document after a run from a knowledge base that holds the invariant was there before,
or one of the run's operations stored it. -/
theorem run_docs_stores : ∀ {kb kb' : KnowledgeBase} (ops : List (Nat × Op σ)), KBInv w kb →
    run textMatch w kb ops = some kb' →
      ∀ d ∈ kb'.docs, d ∈ kb.docs ∨ ∃ o ∈ ops, o.2.Stores w.toIngestWorld kb.config o.1 d
  | _, _, [], _, h => by
    cases h
    exact fun d hd => .inl hd
  | kb, _, (fuel, op) :: ops, hinv, h => by
    obtain ⟨kb₁, h₁, hrest⟩ := Option.bind_eq_some.mp h
    have hc : kb₁.config = kb.config := (step_frame w textMatch h₁).1
    intro d hd
    rcases run_docs_stores ops (hinv.step w textMatch h₁) hrest d hd with hd | ⟨o, ho, hs⟩
    · rcases step_docs_stores textMatch w hinv h₁ hd with hd | hs
      · exact .inl hd
      · exact .inr ⟨(fuel, op), List.mem_cons_self _ _, hs⟩
    · exact .inr ⟨o, List.mem_cons_of_mem _ ho, hc ▸ hs⟩

/-- **The store holds only what the run ingested.** After a run from the pipeline `__init__`
builds, every document in the store is the store document of a chunk that `chunk_document`
returned, with the operation's fuel, for the content of one of the run's `ingest_document`
operations, under that operation's title and source, with an embedding `embed_text` returned
for the chunk's content from the embedder `__init__` built, after some requests. -/
theorem run_docs_provenance {config : Option RAGConfig} {ops : List (Nat × Op σ)}
    {kb : KnowledgeBase} (h : run textMatch w (init textMatch w.deps config) ops = some kb) :
    ∀ d ∈ kb.docs, ∃ o ∈ ops, o.2.Stores w.toIngestWorld (config.getD {}) o.1 d := fun d hd =>
  (run_docs_stores textMatch w ops (KBInv.init w textMatch config) h d hd).resolve_left
    (List.not_mem_nil d)

theorem run_docs_provenance_ingest_ask :
    ∃ kb, run anyText openaiWorld
        (init anyText openaiWorld.deps (some { chunkSize := 20, chunkOverlap := 0 }))
        ingestThenAsk = some kb ∧
      ∀ d ∈ kb.docs, ∃ o ∈ ingestThenAsk, o.2.Stores openaiWorld.toIngestWorld
        ((some { chunkSize := 20, chunkOverlap := 0 } : Option RAGConfig).getD {}) o.1 d :=
  have h : run anyText openaiWorld
      (init anyText openaiWorld.deps (some { chunkSize := 20, chunkOverlap := 0 }))
      ingestThenAsk = some _ := rfl
  ⟨_, h, run_docs_provenance anyText openaiWorld h⟩

/-! ## Every run returns -/

/-- One operation returns when it has the fuel it needs: `chunk_document`'s window advances
past its start at every pass. -/
theorem step_returns {kb : KnowledgeBase} (hov : 0 ≤ kb.config.chunkOverlap)
    (hlt : kb.config.chunkOverlap < kb.config.chunkSize)
    (hsmall : 5 * kb.config.chunkOverlap ≤ 4 * kb.config.chunkSize + 10) {fuel : Nat}
    {op : Op σ} (hfuel : op.fuelNeeded ≤ fuel) :
    ∃ kb', step textMatch w fuel kb op = some kb' := by
  cases op with
  | ingest title content source metadata =>
    have hchunks : ∃ r, (kb.pipeline textMatch).chunker.chunkDocument fuel content
        (some (ingestMetadata w.now content source metadata)) = some r :=
      DocumentChunker.chunkDocument_isSome_of_small_overlap hov hlt hsmall
        (by simp only [Op.fuelNeeded] at hfuel; omega)
    obtain ⟨r, hr⟩ := hchunks
    simp only [step, ingestDocument, hr, Option.map_some']
    exact ⟨_, rfl⟩
  | search => exact ⟨_, rfl⟩
  | answer => exact ⟨_, rfl⟩
  | ask => exact ⟨_, rfl⟩
  | stats => exact ⟨_, rfl⟩

/-- **Every run returns.** From a knowledge base whose overlap is non-negative, below
`chunk_size`, and at most four fifths of `chunk_size` plus two (so that the window advances
even when it is cut back to a sentence end), every run returns in which each ingestion has
more fuel than its cleaned text has code points. -/
theorem run_returns : ∀ {kb : KnowledgeBase}, 0 ≤ kb.config.chunkOverlap →
    kb.config.chunkOverlap < kb.config.chunkSize →
    5 * kb.config.chunkOverlap ≤ 4 * kb.config.chunkSize + 10 →
    ∀ ops : List (Nat × Op σ), (∀ o ∈ ops, o.2.fuelNeeded ≤ o.1) →
      ∃ kb', run textMatch w kb ops = some kb'
  | kb, _, _, _, [], _ => ⟨kb, rfl⟩
  | _, hov, hlt, hsmall, (fuel, op) :: ops, hfuel => by
    obtain ⟨kb₁, h₁⟩ := step_returns textMatch w hov hlt hsmall (hfuel _ (List.mem_cons_self _ _))
    have hc : kb₁.config = _ := (step_frame w textMatch h₁).1
    obtain ⟨kb', h⟩ := run_returns (hc ▸ hov) (hc ▸ hlt) (hc ▸ hsmall) ops
      fun o ho => hfuel o (List.mem_cons_of_mem _ ho)
    exact ⟨kb', by simp only [run, h₁, Option.some_bind, h]⟩

/-- The text of three chunks, with fuel for each of its code points. -/
theorem run_returns_ingest_ask :
    ∃ kb', run anyText openaiWorld smallChunkBase
      [(45, .ingest "KotaDB".toList "KotaDB stores documents. It answers queries.".toList none none),
        (0, .ask "What does KotaDB store?".toList)] = some kb' :=
  run_returns anyText openaiWorld (by decide) (by decide) (by decide) _ (by decide)

end KnowledgeBase

end KotaRag
