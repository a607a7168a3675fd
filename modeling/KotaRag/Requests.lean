import KotaRag.System

/-!
# What the pipeline asks of the embedding service

Every `embed_text` of the `"openai"` provider sends one request to the remote service, even
when the request fails and the mock vector is used instead; the other providers send none.
This module counts the requests a run of the pipeline sends.

* `step_requests` — one operation sends one request per chunk `chunk_document` made when
  ingesting (a chunk the store then rejects included), one per retrieval, and none for
  `generate_answer` with given documents or for `get_knowledge_base_stats`;
* `reachable_iff_run` — the knowledge bases `Reachable` describes are those `run` computes
  from `__init__`;
* `run_requests_from_init` — so from the pipeline `__init__` builds, any run sends exactly the
  sum of those counts with `openai`, and nothing without it.
-/

namespace KotaRag

open RAGPipeline

namespace EmbeddingProvider

variable (w : EmbedWorld)

/-- `embed_text` sends one request with the `"openai"` provider, none otherwise. -/
theorem embedText_requests (p : EmbeddingProvider) (text : PyStr) :
    (embedText w p text).1.requests = p.requests + if usesOpenai w p then 1 else 0 := by
  unfold embedText openaiEmbed
  split <;> rename_i ho
  · simp [ho]
  · split <;> simp [ho]

/-- `embed_text` keeps the provider, so whether it talks to the service. -/
theorem usesOpenai_embedText (p : EmbeddingProvider) (text : PyStr) :
    usesOpenai w (embedText w p text).1 = usesOpenai w p := by
  obtain ⟨n, hn⟩ := embedText_fst w p text
  rw [hn]
  rfl

end EmbeddingProvider

namespace RAGPipeline

variable {σ : Type} (w : IngestWorld σ) (title : PyStr) (source : Option PyStr)

/-- The ingestion loop embeds every chunk, stored or not: one request each with `"openai"`. -/
theorem ingestChunks_requests : ∀ (chunks : List Chunk) (e : EmbeddingProvider) (i : Nat),
    (ingestChunks w title source e i chunks).1.requests =
      e.requests + if EmbeddingProvider.usesOpenai w.toEmbedWorld e then chunks.length else 0
  | [], e, _ => by simp [ingestChunks]
  | c :: chunks, e, i => by
    have ih := ingestChunks_requests chunks
      (EmbeddingProvider.embedText w.toEmbedWorld e c.content).1 (i + 1)
    simp only [ingestChunks] at ih ⊢
    rw [ih, EmbeddingProvider.usesOpenai_embedText, EmbeddingProvider.embedText_requests]
    split <;> simp only [List.length_cons, Nat.add_zero]
    omega

/-- The ingestion loop keeps the provider. -/
theorem usesOpenai_ingestChunks : ∀ (chunks : List Chunk) (e : EmbeddingProvider) (i : Nat),
    EmbeddingProvider.usesOpenai w.toEmbedWorld (ingestChunks w title source e i chunks).1 =
      EmbeddingProvider.usesOpenai w.toEmbedWorld e
  | [], _, _ => rfl
  | c :: chunks, e, i => by
    simp only [ingestChunks]
    rw [usesOpenai_ingestChunks chunks, EmbeddingProvider.usesOpenai_embedText]

end RAGPipeline

/-! ## Per operation -/

/-- The requests an operation sends with the `"openai"` provider, under a configuration, the
ingestion timestamp and the fuel of `chunk_document`: one per chunk it made when ingesting,
one per retrieval, none otherwise. -/
def Op.requests {σ : Type} (config : RAGConfig) (now : PyStr) (fuel : Nat) : Op σ → Nat
  | .ingest _ content source metadata =>
    match (⟨config.chunkSize, config.chunkOverlap⟩ : DocumentChunker).chunkDocument fuel content
        (some (ingestMetadata now content source metadata)) with
    | some chunks => chunks.length
    | none => 0
  | .search _ _ => 1
  | .answer _ (some _) => 0
  | .answer _ none => 1
  | .ask _ => 1
  | .stats => 0

namespace KnowledgeBase

variable (textMatch : PyStr → StoreDoc → Bool) {σ : Type} [OfScientific σ]
  (w : PipelineWorld σ) {kb kb' : KnowledgeBase} {fuel : Nat} {op : Op σ}

/-- **One step.** An operation that returns keeps the configuration and the provider, and
sends `Op.requests` requests with `"openai"`, none otherwise. -/
theorem step_requests (h : step textMatch w fuel kb op = some kb') :
    kb'.config = kb.config ∧
      EmbeddingProvider.usesOpenai w.toEmbedWorld kb'.embedder =
        EmbeddingProvider.usesOpenai w.toEmbedWorld kb.embedder ∧
      kb'.embedder.requests = kb.embedder.requests +
        if EmbeddingProvider.usesOpenai w.toEmbedWorld kb.embedder then
          op.requests kb.config w.now fuel
        else 0 := by
  -- retrieval embeds the query once
  have hsearch : ∀ query maxResults,
      (semanticSearch w.toSearchWorld (kb.pipeline textMatch) query maxResults).1.embedder =
        (EmbeddingProvider.embedText w.toEmbedWorld kb.embedder query).1 :=
    fun query maxResults => by rw [semanticSearch_fst]; rfl
  cases op with
  | ingest title content source metadata =>
    obtain ⟨r, hr, rfl⟩ := Option.map_eq_some'.mp h
    obtain ⟨chunks, hchunks, rfl⟩ := Option.map_eq_some'.mp hr
    have hc : (⟨kb.config.chunkSize, kb.config.chunkOverlap⟩ : DocumentChunker).chunkDocument
        fuel content (some (ingestMetadata w.now content source metadata)) = some chunks :=
      hchunks
    refine ⟨rfl, usesOpenai_ingestChunks w.toIngestWorld title source chunks _ 0, ?_⟩
    rw [ingestChunks_requests]
    simp only [Op.requests, hc]
    rfl
  | search query maxResults =>
    cases h
    refine ⟨rfl, ?_, ?_⟩ <;> simp only [hsearch, EmbeddingProvider.usesOpenai_embedText,
      EmbeddingProvider.embedText_requests, Op.requests]
  | answer question contextDocs =>
    cases h
    cases contextDocs with
    | some docs => simp [generateAnswer_fst, Op.requests, pipeline]
    | none =>
      refine ⟨rfl, ?_, ?_⟩ <;> simp only [generateAnswer_fst, hsearch,
        EmbeddingProvider.usesOpenai_embedText, EmbeddingProvider.embedText_requests, Op.requests]
  | ask question =>
    cases h
    refine ⟨rfl, ?_, ?_⟩ <;> simp only [askQuestion_eq_generateAnswer, generateAnswer_fst,
      hsearch, EmbeddingProvider.usesOpenai_embedText, EmbeddingProvider.embedText_requests,
      Op.requests]
  | stats =>
    cases h
    simp [Op.requests]

/-- Operations run one after another, each with its fuel: the knowledge base after them, or
`none` when one ran out of fuel. -/
def run (kb : KnowledgeBase) : List (Nat × Op σ) → Option KnowledgeBase
  | [] => some kb
  | (fuel, op) :: ops => (step textMatch w fuel kb op).bind fun kb' => run kb' ops

/-- **A whole run** keeps the configuration and sends the sum of its operations' requests
with `"openai"`, none otherwise. -/
theorem run_requests : ∀ {kb kb' : KnowledgeBase} (ops : List (Nat × Op σ)),
    run textMatch w kb ops = some kb' →
      kb'.embedder.requests = kb.embedder.requests +
        if EmbeddingProvider.usesOpenai w.toEmbedWorld kb.embedder then
          (ops.map fun o => o.2.requests kb.config w.now o.1).sum
        else 0
  | _, _, [], h => by cases h; simp
  | kb, _, (fuel, op) :: ops, h => by
    obtain ⟨kb₁, h₁, h⟩ := Option.bind_eq_some.mp h
    obtain ⟨hconfig, hopenai, hreq⟩ := step_requests textMatch w h₁
    rw [run_requests ops h, hreq, hopenai, hconfig]
    split <;> simp only [List.map_cons, List.sum_cons, Nat.add_zero]
    omega

/-- Every run from a reachable knowledge base ends in a reachable one. -/
theorem Reachable.run : ∀ {kb kb' : KnowledgeBase} (ops : List (Nat × Op σ)),
    Reachable textMatch w kb → run textMatch w kb ops = some kb' → Reachable textMatch w kb'
  | _, _, [], hr, h => by cases h; exact hr
  | _, _, (fuel, op) :: ops, hr, h => by
    obtain ⟨kb₁, h₁, h⟩ := Option.bind_eq_some.mp h
    exact Reachable.run ops (.step fuel op hr h₁) h

/-- Running two lists of operations is running their concatenation. -/
theorem run_append (kb : KnowledgeBase) : ∀ ops ops' : List (Nat × Op σ),
    run textMatch w kb (ops ++ ops') = (run textMatch w kb ops).bind fun kb' =>
      run textMatch w kb' ops'
  | [], _ => rfl
  | (fuel, op) :: ops, ops' => by
    simp only [List.cons_append, run]
    cases step textMatch w fuel kb op with
    | none => rfl
    | some kb₁ => exact run_append kb₁ ops ops'

/-- **Two views of a run agree.** The knowledge bases reachable by the relation `Reachable` are
exactly those `run` computes from the pipeline `__init__` builds. -/
theorem reachable_iff_run :
    Reachable textMatch w kb ↔ ∃ config ops, run textMatch w (init textMatch w.deps config) ops = some kb := by
  constructor
  · intro h
    induction h with
    | init config => exact ⟨config, [], rfl⟩
    | step fuel op _ hstep ih =>
      obtain ⟨config, ops, hrun⟩ := ih
      exact ⟨config, ops ++ [(fuel, op)], by simp [run_append, hrun, run, hstep]⟩
  · rintro ⟨config, ops, h⟩
    exact Reachable.run textMatch w ops (.init config) h

/-- **Requests over every run.** From the pipeline `__init__` builds, any run sends exactly one
embedding request per chunk it tried to store and per retrieval when `openai` imported, and
none at all otherwise. -/
theorem run_requests_from_init {config : Option RAGConfig} {ops : List (Nat × Op σ)}
    (h : run textMatch w (init textMatch w.deps config) ops = some kb) :
    kb.embedder.requests = if w.deps.hasOpenai then
      (ops.map fun o => o.2.requests (config.getD {}) w.now o.1).sum else 0 := by
  rw [run_requests textMatch w ops h]
  cases ho : w.deps.hasOpenai <;>
    simp [init_embedder, initEmbedder, EmbeddingProvider.usesOpenai, EmbeddingProvider.init, ho,
      init, RAGPipeline.init]

end KnowledgeBase

/-! ## Example -/

/-- The examples' ingestion and answering worlds together, with `openai` installed. -/
def openaiWorld : PipelineWorld ℚ := { demoIngestWorld, demoAnswerWorld with }

/-- Ingesting a text of three chunks, then asking a question, sends four requests. -/
theorem run_requests_from_init_ingest_ask :
    ∃ kb, KnowledgeBase.run anyText openaiWorld
        (KnowledgeBase.init anyText openaiWorld.deps (some { chunkSize := 20, chunkOverlap := 0 }))
        [(10, .ingest "KotaDB".toList "KotaDB stores documents. It answers queries.".toList none
          none), (0, .ask "What does KotaDB store?".toList)] = some kb ∧
      kb.embedder.requests = if openaiWorld.deps.hasOpenai then
        ([(10, .ingest "KotaDB".toList "KotaDB stores documents. It answers queries.".toList none
          none), (0, .ask "What does KotaDB store?".toList)].map fun (o : Nat × Op ℚ) =>
            o.2.requests ((some { chunkSize := 20, chunkOverlap := 0 } : Option RAGConfig).getD {})
              openaiWorld.now o.1).sum
      else 0 :=
  have h : KnowledgeBase.run anyText openaiWorld
      (KnowledgeBase.init anyText openaiWorld.deps (some { chunkSize := 20, chunkOverlap := 0 }))
      [(10, .ingest "KotaDB".toList "KotaDB stores documents. It answers queries.".toList none
        none), (0, .ask "What does KotaDB store?".toList)] = some _ := rfl
  ⟨_, h, KnowledgeBase.run_requests_from_init anyText openaiWorld h⟩

end KotaRag
