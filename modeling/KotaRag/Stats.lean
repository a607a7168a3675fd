import KotaRag.Search

/-!
# `get_knowledge_base_stats`

`RAGPipeline.get_knowledge_base_stats()` (lines 387-420 of `rag_demo.py`) asks the store for
every document tagged `knowledge-base`, capped at 1000, and sums up what came back: the
number of documents, the code points of their contents, and the distinct sources named by
their `source:` tags. When the query raises it returns `{}`.

The module gives the model; what the statistics say about a knowledge base filled by
`ingest_document` is proved in `KotaRag.System`.
-/

namespace KotaRag

/-- The dict `get_knowledge_base_stats` returns when its query succeeds. -/
structure KBStats where
  /-- `'total_chunks'` -/
  totalChunks : Nat
  /-- `'unique_sources'` -/
  uniqueSources : Nat
  /-- `'total_content_length'` -/
  totalContentLength : Nat
  /-- `'average_chunk_size'` -/
  averageChunkSize : Nat
  /-- `'sources'`: `list(sources)`, kept as the set -/
  sources : Finset PyStr
  deriving DecidableEq

namespace RAGPipeline

/-- The query of `get_knowledge_base_stats`. -/
def statsQuery : Query := ⟨none, ["knowledge-base".toList], 1000⟩

/-- `tag[7:]` for each tag that `startswith('source:')`, in order. -/
def tagSources (tags : List PyStr) : List PyStr :=
  (tags.filter fun tag => "source:".toList.isPrefixOf tag).map (·.drop 7)

/-- `get_knowledge_base_stats()`: the statistics, or `none` for the `{}` it returns when the
query raises. A document with no `'content'` counts as empty, one with no `'tags'` names no
source. -/
def getKnowledgeBaseStats (p : RAGPipeline) : Option KBStats :=
  match p.db statsQuery with
  | .ok chunks =>
    let sources := (chunks.flatMap fun chunk => tagSources (chunk.tags.getD [])).toFinset
    let totalContentLength := (chunks.map fun chunk => (chunk.content.getD []).length).sum
    some { totalChunks := chunks.length
           uniqueSources := sources.card
           totalContentLength := totalContentLength
           averageChunkSize :=
             if chunks.isEmpty then 0 else totalContentLength / chunks.length
           sources := sources }
  | .error _ => none

end RAGPipeline

end KotaRag
