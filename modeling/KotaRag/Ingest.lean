import KotaRag.Chunker.Defs
import KotaRag.Search

/-!
# Ingestion

`RAGPipeline.ingest_document` (lines 225-280 of `rag_demo.py`) is the write side of the
knowledge base. It splits a document with `chunk_document`, embeds each chunk, and stores it
with the tags `knowledge-base`, `chunk`, `source:<source>` and `metadata:<json>`, the last
carrying the chunk's metadata and its embedding as JSON text. `semantic_search` is the read
side. This module models the writer and shows that the two sides agree:

* `ingestChunks` — the loop over the chunks, which skips a chunk whose embedding or
  insertion raises and goes on with the next;
* `mem_ingestDocument` — every document the call stores is the chunk document of one of
  `chunk_document`'s chunks, at its index, with an embedding `embed_text` returned for it;
* `scoreChunk_of_chunkDoc` — whatever order the store returns the tags in, the candidate
  loop of `semantic_search` reads the chunk's own metadata tag, and scores the chunk with the
  embedding stored in it once `json.loads` inverts `json.dumps` on that metadata;
* `ingestDocument_read_back` — the two together: every stored chunk is read back by
  retrieval with the embedding ingestion computed for it.

The store, the builder's validation, `json.dumps`, the clock and the `\w` of `re` belong to
the world (`IngestWorld`).
-/

namespace KotaRag

open scoped List

/-- The document a `DocumentBuilder` holds for a chunk. -/
structure BuiltDoc where
  /-- `.path(ValidatedPath(chunk_path))` -/
  path : PyStr
  /-- `.title(...)` -/
  title : PyStr
  /-- `.content(...)` -/
  content : PyStr
  /-- the `add_tag` tags, in order -/
  tags : List PyStr
  deriving DecidableEq, Repr

/-- What ingestion calls outside the pipeline, besides what retrieval calls. -/
structure IngestWorld (σ : Type) extends SearchWorld σ where
  /-- `json.dumps` -/
  jsonDumps : JsonVal → PyStr
  /-- `datetime.now().isoformat()` -/
  now : PyStr
  /-- the characters that `\w` matches -/
  isWordChar : Char → Bool
  /-- `self.db.insert_with_builder(builder)` for the document the builder holds: the new
  document's id, or the exception that validating or storing it raises -/
  insert : BuiltDoc → Except PyErr PyStr

/-- `self.knowledge_base_path`, set in `RAGPipeline.__init__` and never changed. -/
def knowledgeBasePath : PyStr := "/knowledge".toList

/-- `source or 'unknown'` -/
def sourceOrUnknown : Option PyStr → PyStr
  | some (c :: cs) => c :: cs
  | _ => "unknown".toList

/-- `re.sub(r'[^\w\-_]', '_', title)` -/
def safeTitle (isWordChar : Char → Bool) (title : PyStr) : PyStr :=
  title.map fun c => if isWordChar c || c == '-' || c == '_' then c else '_'

/-- `f"{i:03d}"` for a non-negative `i`: its decimal digits, padded with zeros to three. -/
def format03d (i : Nat) : PyStr :=
  List.replicate (3 - (Nat.toDigits 10 i).length) '0' ++ Nat.toDigits 10 i

/-- `f"{self.knowledge_base_path}/{safe_title}/chunk_{i:03d}.md"` -/
def chunkPath (isWordChar : Char → Bool) (title : PyStr) (i : Nat) : PyStr :=
  knowledgeBasePath ++ "/".toList ++ safeTitle isWordChar title ++ "/chunk_".toList ++
    format03d i ++ ".md".toList

/-- `f"{title} - Chunk {i+1}"` -/
def chunkTitle (title : PyStr) (i : Nat) : PyStr :=
  title ++ " - Chunk ".toList ++ Nat.toDigits 10 (i + 1)

/-- `chunk_metadata = chunk['metadata'].copy()` followed by
`chunk_metadata['embedding'] = embedding`. -/
def chunkMetadata (chunk : Chunk) (embedding : List Float) : JsonVal :=
  .obj (dictSet chunk.metadata.toDict "embedding".toList (.arr (embedding.map .float)))

/-- The four `add_tag` calls, the last one with `json.dumps(chunk_metadata)`. -/
def chunkTags (source : Option PyStr) (metadataJson : PyStr) : List PyStr :=
  ["knowledge-base".toList, "chunk".toList, "source:".toList ++ sourceOrUnknown source,
    "metadata:".toList ++ metadataJson]

/-- `metadata = metadata or {}` and the `metadata.update({...})` after it. -/
def ingestMetadata (now content : PyStr) (source : Option PyStr)
    (metadata : Option (PyDict JsonVal)) : PyDict JsonVal :=
  dictSet (dictSet (dictSet (metadata.getD []) "source".toList (.str (sourceOrUnknown source)))
    "ingested_at".toList (.str now)) "content_length".toList (.int content.length)

namespace RAGPipeline

/-- `self.chunker`, which `__init__` builds from the configuration. -/
def chunker (p : RAGPipeline) : DocumentChunker := ⟨p.config.chunkSize, p.config.chunkOverlap⟩

variable {σ : Type} (w : IngestWorld σ)

/-- The document the builder holds for the `i`-th chunk and its embedding. -/
def chunkDoc (title : PyStr) (source : Option PyStr) (i : Nat) (chunk : Chunk)
    (embedding : List Float) : BuiltDoc where
  path := chunkPath w.isWordChar title i
  title := chunkTitle title i
  content := chunk.content
  tags := chunkTags source (w.jsonDumps (chunkMetadata chunk embedding))

/-- The `for i, chunk in enumerate(chunks)` loop from index `i` on: the embedder after it,
and each stored document with its id, in order. A chunk whose `embed_text` or insertion
raises is skipped. -/
def ingestChunks (title : PyStr) (source : Option PyStr) :
    EmbeddingProvider → Nat → List Chunk → EmbeddingProvider × List (BuiltDoc × PyStr)
  | embedder, _, [] => (embedder, [])
  | embedder, i, chunk :: chunks =>
    let embedded := EmbeddingProvider.embedText w.toEmbedWorld embedder chunk.content
    let stored : Option (BuiltDoc × PyStr) := match embedded.2 with
      | .ok embedding =>
        let doc := chunkDoc w title source i chunk embedding
        (w.insert doc).toOption.map ((doc, ·))
      | .error _ => none
    let rest := ingestChunks title source embedded.1 (i + 1) chunks
    (rest.1, stored.toList ++ rest.2)

/-- `ingest_document(title, content, source, metadata)`, with the loop of `chunk_document`
bounded by `fuel` (`none` when it runs out): the pipeline after the call, and the stored
documents with their ids, whose ids in order are the `chunk_ids` it returns. -/
def ingestDocument (p : RAGPipeline) (fuel : Nat) (title content : PyStr)
    (source : Option PyStr) (metadata : Option (PyDict JsonVal)) :
    Option (RAGPipeline × List (BuiltDoc × PyStr)) :=
  (p.chunker.chunkDocument fuel content
      (some (ingestMetadata w.now content source metadata))).map fun chunks =>
    let r := ingestChunks w title source p.embedder 0 chunks
    ({ p with embedder := r.1 }, r.2)

/-! ## What ingestion stores -/

section Stored

variable {title : PyStr} {source : Option PyStr} {d : BuiltDoc} {id : PyStr}

/-- One pass of the loop stores at most its own chunk's document, when `embed_text` answered
and the store accepted it. -/
theorem mem_ingestChunks_head {embedder : EmbeddingProvider} {i : Nat} {c : Chunk}
    (h : (d, id) ∈ (match (EmbeddingProvider.embedText w.toEmbedWorld embedder c.content).2 with
      | .ok embedding =>
        (w.insert (chunkDoc w title source i c embedding)).toOption.map
          ((chunkDoc w title source i c embedding, ·))
      | .error _ => none).toList) :
    ∃ embedding, d = chunkDoc w title source i c embedding ∧ w.insert d = .ok id ∧
      (EmbeddingProvider.embedText w.toEmbedWorld embedder c.content).2 = .ok embedding := by
  split at h
  · rename_i embedding hemb
    rcases hins : w.insert (chunkDoc w title source i c embedding) with e | id'
    · simp [hins] at h
    · obtain ⟨rfl, rfl⟩ : d = chunkDoc w title source i c embedding ∧ id = id' := by
        simpa [hins] using h
      exact ⟨embedding, rfl, hins, hemb⟩
  · simp at h

/-- **Run lemma.** Every document the loop stores is the document of one of its chunks, at
that chunk's index, with what `embed_text` returned for the chunk's content from the loop's
embedder after some requests, and the store accepted it under the id listed with it. -/
theorem mem_ingestChunks :
    ∀ {embedder : EmbeddingProvider} {i : Nat} {chunks : List Chunk},
      (d, id) ∈ (ingestChunks w title source embedder i chunks).2 →
      ∃ j c embedding, chunks[j]? = some c ∧ d = chunkDoc w title source (i + j) c embedding ∧
        w.insert d = .ok id ∧ ∃ n,
          (EmbeddingProvider.embedText w.toEmbedWorld { embedder with requests := n }
            c.content).2 = .ok embedding
  | _, _, [], h => by simp [ingestChunks] at h
  | embedder, i, c :: chunks, h => by
    rcases List.mem_append.mp h with h | h
    · obtain ⟨embedding, rfl, hins, hemb⟩ := mem_ingestChunks_head w h
      exact ⟨0, c, embedding, by simp, rfl, hins, embedder.requests, hemb⟩
    · obtain ⟨j, c', embedding, hj, rfl, hins, n, hemb⟩ := mem_ingestChunks h
      -- the next pass starts from this embedder with another request count
      obtain ⟨n', hn'⟩ := EmbeddingProvider.embedText_fst w.toEmbedWorld embedder c.content
      rw [hn'] at hemb
      exact ⟨j + 1, c', embedding, by simpa using hj,
        by rw [Nat.add_right_comm, Nat.add_assoc], hins, n, hemb⟩

/-- Every document `ingest_document` stores comes from a chunk of `chunk_document`'s result,
as `mem_ingestChunks` describes. -/
theorem mem_ingestDocument {p p' : RAGPipeline} {fuel : Nat} {content : PyStr}
    {metadata : Option (PyDict JsonVal)} {stored : List (BuiltDoc × PyStr)}
    (h : ingestDocument w p fuel title content source metadata = some (p', stored))
    (hd : (d, id) ∈ stored) :
    ∃ chunks i c embedding, p.chunker.chunkDocument fuel content
        (some (ingestMetadata w.now content source metadata)) = some chunks ∧
      chunks[i]? = some c ∧ d = chunkDoc w title source i c embedding ∧ w.insert d = .ok id ∧
      ∃ n, (EmbeddingProvider.embedText w.toEmbedWorld { p.embedder with requests := n }
        c.content).2 = .ok embedding := by
  obtain ⟨chunks, hchunks, hr⟩ := Option.map_eq_some'.mp h
  cases hr
  obtain ⟨i, c, embedding, hi, hd, hins, hemb⟩ := mem_ingestChunks w hd
  exact ⟨chunks, i, c, embedding, hchunks, hi, by simpa using hd, hins, hemb⟩

end Stored

/-! ## What retrieval reads back -/

/-- Of the four tags, only the last is a `metadata:` tag: neither fixed tag is one, and a
`source:` tag never is. -/
theorem metadataTags_chunkTags (source : Option PyStr) (metadataJson : PyStr) :
    metadataTags (chunkTags source metadataJson) = ["metadata:".toList ++ metadataJson] := by
  have hkb : "metadata:".toList.isPrefixOf "knowledge-base".toList = false := by decide
  have hch : "metadata:".toList.isPrefixOf "chunk".toList = false := by decide
  have hsrc : "metadata:".toList.isPrefixOf ("source:".toList ++ sourceOrUnknown source) =
    false := rfl
  have hmeta : "metadata:".toList.isPrefixOf ("metadata:".toList ++ metadataJson) = true :=
    List.isPrefixOf_iff_prefix.mpr (List.prefix_append _ _)
  simp only [metadataTags, chunkTags, List.filter_cons, hkb, hch, hsrc, hmeta, List.filter_nil,
    Bool.false_eq_true, ↓reduceIte]

/-- The store may return the tags in any order: the metadata tag is still the only one. -/
theorem metadataTags_of_perm {tags : List PyStr} {source : Option PyStr} {metadataJson : PyStr}
    (h : tags ~ chunkTags source metadataJson) :
    metadataTags tags = ["metadata:".toList ++ metadataJson] := by
  have hp : metadataTags tags ~ metadataTags (chunkTags source metadataJson) := h.filter _
  rw [metadataTags_chunkTags] at hp
  exact List.perm_singleton.mp hp

/-- **Retrieval reads what ingestion wrote.** A document the store returns with the tags of a
chunk document, in any order, is scored from its own metadata tag: once `json.loads` reads
back what `json.dumps` wrote, the chunk is skipped exactly when its embedding is empty, and
otherwise it is compared with the query through that embedding. -/
theorem scoreChunk_of_chunkDoc {title : PyStr} {source : Option PyStr} {i : Nat}
    {chunk : Chunk} {embedding : List Float} {doc : StoreDoc} {tags : List PyStr}
    (qv : List Float) (hdoc : doc.tags = some tags)
    (htags : tags ~ (chunkDoc w title source i chunk embedding).tags)
    (hjson : w.jsonLoads (w.jsonDumps (chunkMetadata chunk embedding)) =
      .ok (chunkMetadata chunk embedding)) :
    scoreChunk w.toSearchWorld qv doc =
      if embedding.isEmpty then none
      else (w.cosine qv (.arr (embedding.map .float))).toOption.map
        fun s => ⟨doc, s, some (chunkMetadata chunk embedding)⟩ := by
  have hdrop : ("metadata:".toList ++ w.jsonDumps (chunkMetadata chunk embedding)).drop 9 =
      w.jsonDumps (chunkMetadata chunk embedding) := List.drop_left' rfl
  have hget : (chunkMetadata chunk embedding).get? "embedding".toList (.arr []) =
      some (.arr (embedding.map .float)) :=
    congrArg some (dictGet_dictSet_self _ _ _ _)
  simp only [scoreChunk, hdoc, Option.getD_some, metadataTags_of_perm htags, hdrop, hjson,
    except_toOption_ok, Option.bind_eq_bind, Option.some_bind, hget, JsonVal.truthy]
  cases embedding with
  | nil => rfl
  | cons v vs => cases (w.cosine qv (.arr ((v :: vs).map .float))).toOption <;> rfl

/-- The ingestion world of the examples: the retrieval world of `demoWorld`; `json.dumps`
is `JsonCodec.dumps` writing every float as `1.0`, the one float this world's service
answers; `\w` matches ASCII letters, digits and `_`, which is `re`'s on the examples' ASCII
titles; and the store accepts every document. -/
def demoIngestWorld : IngestWorld ℚ :=
  { demoWorld with
    jsonDumps := JsonCodec.dumps fun _ => "1.0".toList
    now := "2024-05-01T12:00:00".toList
    isWordChar := fun c => c.isAlphanum || c == '_'
    insert := fun _ => .ok "chunk-1".toList }

end RAGPipeline

end KotaRag
