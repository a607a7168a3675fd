import KotaRag.Embedding
import KotaRag.JsonCodec
import KotaRag.Sort

/-!
# Retrieval: `semantic_search` and `_fallback_text_search`

`RAGPipeline.semantic_search(query, max_results)` (lines 282-336 of `rag_demo.py`) ranks the
store's knowledge-base chunks by the similarity of their stored embedding to the query's:

* inside one `try` it embeds the query, asks the store for every chunk tagged
  `knowledge-base` and `chunk`, and returns `[]` at once when there is none;
* each chunk is scored in a `try` of its own (`scoreChunk`): the first `metadata:` tag is
  parsed as JSON, and its non-empty `'embedding'` is compared with the query's. A chunk with
  no such tag, unparsable metadata, an empty embedding or a similarity that raises is
  skipped;
* the entries are sorted by similarity with `list.sort(reverse=True)`, and the first
  `max_results` are returned;
* when the `try` raises, in the query embedding or in the store query, the lexical tier
  `_fallback_text_search` answers instead, every hit with the sentinel score `0.5`.

The store, `json.loads`, `_cosine_similarity` and Python's `list.sort` belong to the world
(`SearchWorld`). A similarity is a value of any type `σ`: Python's floats, NaN included, are
one (`PyFloat`). The sort only rearranges; when `<` is a strict weak order on the
similarities it is the stable one (`SearchWorld.SortsStably`), as Python guarantees.

* `scoreChunk_eq_usable` — the candidate loop scores exactly the candidates the
  specification calls usable (`usable`), written apart from it;
* `semanticSearch_top_k` — with no exception and similarities in a linear order, the result
  is a top-`k` of the usable candidates (`IsTopK`);
* `semanticSearch_eq_nil_iff` — the result is empty exactly when the fallback answered
  empty, or when nothing raised and no candidate was usable;
* `semanticSearch_empty_without_fallback` — in the second case the lexical tier is not
  asked, although it has hits;
* `semanticSearch_nan_unranked` — a NaN similarity leaves CPython's sort unordered, and the
  top-`1` is not the largest similarity.
-/

namespace KotaRag

open scoped List

/-- A document as the store returns it, with the keys the pipeline reads. -/
structure StoreDoc where
  /-- `'tags'` -/
  tags : Option (List PyStr)
  /-- `'title'` -/
  title : Option PyStr
  /-- `'content'` -/
  content : Option PyStr
  deriving DecidableEq, Repr

/-- A query as `QueryBuilder` assembles it: `.text(...)`, the `.tag_filter(...)` tags in
order, and `.limit(...)`. -/
structure Query where
  /-- `.text(...)` -/
  text : Option PyStr
  /-- the `.tag_filter(...)` tags -/
  tagFilters : List PyStr
  /-- `.limit(...)` -/
  limit : Int
  deriving DecidableEq, Repr

/-- `self.db.query_with_builder(query).get('documents', [])`: the documents, or the exception
that building or running the query raises. -/
abbrev Store : Type := Query → Except PyErr (List StoreDoc)

/-- An entry of a search result, `{'document', 'similarity', 'metadata'}`; the lexical tier's
entries have no `'metadata'`. -/
structure Scored (σ : Type) where
  /-- `'document'`: the chunk as the store returned it -/
  document : StoreDoc
  /-- `'similarity'` -/
  similarity : σ
  /-- `'metadata'`: the parsed `metadata:` tag -/
  metadata : Option JsonVal

/-- The fields of `RAGConfig` the pipeline reads, and `max_context_length`, which it
declares. -/
structure RAGConfig where
  /-- `chunk_size` -/
  chunkSize : Int := 1000
  /-- `chunk_overlap` -/
  chunkOverlap : Int := 100
  /-- `max_context_length` -/
  maxContextLength : Int := 4000
  /-- `completion_model` -/
  completionModel : PyStr := "gpt-3.5-turbo".toList
  /-- `temperature` -/
  temperature : Float := 0.7
  /-- `max_results` -/
  maxResults : Int := 5

/-- The fields of a `RAGPipeline` its retrieval and answer methods read. -/
structure RAGPipeline where
  /-- `self.config` -/
  config : RAGConfig
  /-- `self.db` -/
  db : Store
  /-- `self.embedder` -/
  embedder : EmbeddingProvider

/-- What retrieval calls outside the pipeline: the embedding world, `json.loads`, the
similarity, and Python's `list.sort`. -/
structure SearchWorld (σ : Type) extends EmbedWorld where
  /-- `json.loads` -/
  jsonLoads : PyStr → Except PyErr JsonVal
  /-- `self._cosine_similarity(query_embedding, chunk_embedding)` -/
  cosine : List Float → JsonVal → Except PyErr σ
  /-- `similarities.sort(key=lambda x: x['similarity'], reverse=True)` -/
  sortDesc : List (Scored σ) → List (Scored σ)
  /-- the sort only rearranges the list -/
  perm_sortDesc : ∀ l, sortDesc l ~ l

/-- Python's guarantee for `list.sort`: whenever `<` is a strict weak order on the
similarities of the list, the world's sort is the stable one, largest first. -/
def SearchWorld.SortsStably {σ : Type} [LT σ] [DecidableRel (@LT.lt σ _)]
    (w : SearchWorld σ) : Prop :=
  ∀ l, StrictWeakOn (·.similarity) l → w.sortDesc l = sortByKeyDesc (·.similarity) l

/-- Over a linear order, where there is no NaN, a world that keeps the guarantee sorts every
list stably. -/
theorem SearchWorld.SortsStably.eq {σ : Type} [LinearOrder σ] {w : SearchWorld σ}
    (h : w.SortsStably) (l : List (Scored σ)) : w.sortDesc l = sortByKeyDesc (·.similarity) l :=
  h l (strictWeakOn_of_linearOrder _ l)

@[simp] theorem SearchWorld.sortDesc_eq_nil_iff {σ : Type} (w : SearchWorld σ)
    {l : List (Scored σ)} : w.sortDesc l = [] ↔ l = [] := by
  rw [← List.length_eq_zero, (w.perm_sortDesc l).length_eq, List.length_eq_zero]

namespace RAGPipeline

/-- `RAGPipeline(kotadb_client, config)`: `config or RAGConfig()`, and an `"openai"`
embedder when `openai` imported, a `"tfidf"` one otherwise. -/
def init (deps : Deps) (db : Store) (config : Option RAGConfig) : RAGPipeline where
  config := config.getD {}
  db := db
  embedder := EmbeddingProvider.init
    (if deps.hasOpenai then "openai".toList else "tfidf".toList) none

/-- The query of the semantic tier. -/
def semanticQuery : Query := ⟨none, ["knowledge-base".toList, "chunk".toList], 1000⟩

/-- The query of the lexical tier. -/
def fallbackQuery (query : PyStr) (maxResults : Int) : Query :=
  ⟨some query, ["knowledge-base".toList], maxResults⟩

/-- `max_results or self.config.max_results` -/
def resolveMaxResults (config : RAGConfig) : Option Int → Int
  | some k => if k = 0 then config.maxResults else k
  | none => config.maxResults

/-- `[tag for tag in tags if tag.startswith('metadata:')]` -/
def metadataTags (tags : List PyStr) : List PyStr :=
  tags.filter fun tag => "metadata:".toList.isPrefixOf tag

variable {σ : Type} (w : SearchWorld σ)

/-- One pass of the candidate loop (lines 304-329): the chunk's entry, or `none` when the
pass `continue`s or its `except` catches. -/
def scoreChunk (queryEmbedding : List Float) (chunk : StoreDoc) : Option (Scored σ) := do
  let tag :: _ := metadataTags (chunk.tags.getD []) | none
  let metadata ← (w.jsonLoads (tag.drop 9)).toOption
  let chunkEmbedding ← metadata.get? "embedding".toList (.arr [])
  if chunkEmbedding.truthy then
    let similarity ← (w.cosine queryEmbedding chunkEmbedding).toOption
    some ⟨chunk, similarity, some metadata⟩
  else none

/-- The `try` block of `semantic_search` (lines 285-331): the embedder after it, and the
result or the exception that leaves the block. -/
def semanticTier (p : RAGPipeline) (query : PyStr) (maxResults : Int) :
    EmbeddingProvider × Except PyErr (List (Scored σ)) :=
  ((EmbeddingProvider.embedText w.toEmbedWorld p.embedder query).1, do
    let queryEmbedding ← (EmbeddingProvider.embedText w.toEmbedWorld p.embedder query).2
    let chunks ← p.db semanticQuery
    if chunks.isEmpty then return []
    let similarities := chunks.filterMap (scoreChunk w queryEmbedding)
    return pySlice (w.sortDesc similarities) 0 maxResults)

/-! ## The usable candidates -/

/-- **A usable candidate**, as the ranking's specification says, apart from the loop: the
first of its tags that starts with `metadata:` parses as a JSON mapping whose `'embedding'`
is non-empty, and the similarity of that embedding to the query computes. Its entry pairs
the candidate with that similarity and the mapping. -/
def usable (qv : List Float) (chunk : StoreDoc) : Option (Scored σ) :=
  match (chunk.tags.getD []).find? ("metadata:".toList.isPrefixOf ·) with
  | none => none
  | some tag =>
    match w.jsonLoads (tag.drop "metadata:".length) with
    | .ok (.obj items) =>
      if (dictGet items "embedding".toList (.arr [])).truthy then
        match w.cosine qv (dictGet items "embedding".toList (.arr [])) with
        | .ok s => some ⟨chunk, s, some (.obj items)⟩
        | .error _ => none
      else none
    | _ => none

/-- The usable candidates of a list, each with its entry, in the list's order. -/
def usableCandidates (qv : List Float) (L : List StoreDoc) : List (Scored σ) :=
  L.filterMap (usable w qv)

/-- **The loop scores the usable candidates.** One pass of the candidate loop gives a chunk
an entry exactly when the chunk is usable, and then the usable candidate's entry. -/
theorem scoreChunk_eq_usable (qv : List Float) (chunk : StoreDoc) :
    scoreChunk w qv chunk = usable w qv chunk := by
  have htag := List.filter_head? (fun tag => "metadata:".toList.isPrefixOf tag) (chunk.tags.getD [])
  unfold scoreChunk usable
  rw [← htag, ← metadataTags]
  rcases metadataTags (chunk.tags.getD []) with _ | ⟨tag, _⟩
  · rfl
  · have h9 : "metadata:".length = 9 := rfl
    simp only [List.head?_cons, Option.bind_eq_bind, h9]
    rcases w.jsonLoads (tag.drop 9) with e | md
    · rfl
    · cases md with
      | obj items =>
        simp only [except_toOption_ok, Option.some_bind, JsonVal.get?]
        split <;> [cases w.cosine qv (dictGet items "embedding".toList (.arr [])) <;> rfl; rfl]
      | _ => rfl

/-- So the loop's entries are the usable candidates. -/
theorem filterMap_scoreChunk (qv : List Float) (L : List StoreDoc) :
    L.filterMap (scoreChunk w qv) = usableCandidates w qv L :=
  List.filterMap_congr fun c _ => scoreChunk_eq_usable w qv c

/-! ## The `try` block -/

/-- When neither the query embedding nor the store query raises, the `try` block returns the
first `k` of the sorted usable candidates. -/
theorem semanticTier_of_ok {p : RAGPipeline} {query : PyStr} {k : Int} {qv : List Float}
    {L : List StoreDoc} (hk : 1 ≤ k)
    (hemb : (EmbeddingProvider.embedText w.toEmbedWorld p.embedder query).2 = .ok qv)
    (hstore : p.db semanticQuery = .ok L) :
    (semanticTier w p query k).2 = .ok ((w.sortDesc (usableCandidates w qv L)).take k.toNat) := by
  rcases L with _ | ⟨c, L⟩
  · simp [semanticTier, hemb, hstore, usableCandidates]
  · simp [semanticTier, hemb, hstore, filterMap_scoreChunk,
      pySlice_zero_of_nonneg _ (show (0 : Int) ≤ k by omega)]

theorem semanticTier_of_embed_error {p : RAGPipeline} {query : PyStr} {k : Int} {e : PyErr}
    (hemb : (EmbeddingProvider.embedText w.toEmbedWorld p.embedder query).2 = .error e) :
    (semanticTier w p query k).2 = .error e := by
  simp [semanticTier, hemb]

theorem semanticTier_of_store_error {p : RAGPipeline} {query : PyStr} {k : Int} {qv : List Float}
    {e : PyErr} (hemb : (EmbeddingProvider.embedText w.toEmbedWorld p.embedder query).2 = .ok qv)
    (hstore : p.db semanticQuery = .error e) :
    (semanticTier w p query k).2 = .error e := by
  simp [semanticTier, hemb, hstore]

/-- A scored chunk carries a similarity `_cosine_similarity` returned. -/
theorem cosine_of_scoreChunk {qv : List Float} {c : StoreDoc} {r : Scored σ}
    (h : scoreChunk w qv c = some r) : ∃ v, w.cosine qv v = .ok r.similarity := by
  unfold scoreChunk at h
  split at h
  · simp only [Option.bind_eq_bind, Option.bind_eq_some] at h
    obtain ⟨md, -, v, -, h⟩ := h
    split at h
    · obtain ⟨s, hs, ⟨⟩⟩ := Option.bind_eq_some.mp h
      exact ⟨v, except_toOption_eq_some.mp hs⟩
    · cases h
  · cases h

/-- A scored chunk's entry holds the chunk itself. -/
theorem document_of_scoreChunk {qv : List Float} {c : StoreDoc} {r : Scored σ}
    (h : scoreChunk w qv c = some r) : r.document = c := by
  unfold scoreChunk at h
  split at h
  · simp only [Option.bind_eq_bind, Option.bind_eq_some] at h
    obtain ⟨md, -, v, -, h⟩ := h
    split at h
    · obtain ⟨s, -, ⟨⟩⟩ := Option.bind_eq_some.mp h
      rfl
    · cases h
  · cases h

/-- Whatever `max_results`, an entry the `try` block returns is scored from a chunk the store
returned. -/
theorem mem_semanticTier {p : RAGPipeline} {query : PyStr} {k : Int} {L : List (Scored σ)}
    {r : Scored σ} (h : (semanticTier w p query k).2 = .ok L) (hr : r ∈ L) :
    ∃ qv chunks, p.db semanticQuery = .ok chunks ∧ ∃ c ∈ chunks, scoreChunk w qv c = some r := by
  rcases hemb : (EmbeddingProvider.embedText w.toEmbedWorld p.embedder query).2 with e | qv
  · simp [semanticTier_of_embed_error w hemb] at h
  rcases hstore : p.db semanticQuery with e | chunks
  · simp [semanticTier_of_store_error w hemb hstore] at h
  simp only [semanticTier, hemb, hstore, except_ok_bind, List.isEmpty_iff] at h
  split at h
  · cases h
    cases hr
  · cases h
    exact ⟨qv, chunks, rfl, List.mem_filterMap.mp
      ((w.perm_sortDesc _).subset ((pySlice_isInfix_self _ _ _).subset hr))⟩

/-- Candidates that all score `c`, with `¬ c < c`, and keep their document are ranked in the
store's order: the first `n` of the ranking are the first `n` candidates. -/
theorem take_sortByKeyDesc_of_constant [LT σ] [DecidableRel (@LT.lt σ _)]
    {f : StoreDoc → Option (Scored σ)} {L : List StoreDoc} {c : σ} (hc : ¬ c < c)
    (hf : ∀ d ∈ L, ∃ m, f d = some ⟨d, c, m⟩) (n : Nat) :
    ((sortByKeyDesc (·.similarity) (L.filterMap f)).take n).map
        (fun r => (r.document, r.similarity)) = (L.take n).map fun d => (d, c) := by
  have hsim : ∀ r ∈ L.filterMap f, r.similarity = c := fun r hr => by
    obtain ⟨d, hd, hr⟩ := List.mem_filterMap.mp hr
    obtain ⟨m, hm⟩ := hf d hd
    rw [hm] at hr
    cases hr
    rfl
  have hpairs : (L.filterMap f).map (fun r => (r.document, r.similarity)) =
      L.map fun d => (d, c) := by
    rw [List.map_filterMap, ← congrFun (List.filterMap_eq_map fun d : StoreDoc => (d, c))]
    exact List.filterMap_congr fun d hd => by
      obtain ⟨m, hm⟩ := hf d hd
      rw [hm]
      rfl
  rw [sortByKeyDesc_of_forall_eq _ hc hsim, List.map_take, hpairs, List.map_take]

variable [OfScientific σ]

/-- `_fallback_text_search(query, max_results)`. -/
def fallbackTextSearch (db : Store) (query : PyStr) (maxResults : Int) : List (Scored σ) :=
  match db (fallbackQuery query maxResults) with
  | .ok chunks => chunks.map fun chunk => ⟨chunk, 0.5, none⟩
  | .error _ => []

/-- `semantic_search(query, max_results)`: the pipeline after it (its embedder may have sent
a request), and the result. -/
def semanticSearch (p : RAGPipeline) (query : PyStr) (maxResults : Option Int) :
    RAGPipeline × List (Scored σ) :=
  let maxResults := resolveMaxResults p.config maxResults
  ({ p with embedder := (semanticTier w p query maxResults).1 },
    match (semanticTier w p query maxResults).2 with
    | .ok similarities => similarities
    | .error _ => fallbackTextSearch p.db query maxResults)

/-! ## What `semantic_search` returns -/

section Spec

variable {p : RAGPipeline} {query : PyStr} {k : Int}

/-- With a positive `max_results`, `semantic_search` answers from its `try` block, or from the
lexical tier when the block raises. -/
theorem semanticSearch_snd (hk : 1 ≤ k) :
    (semanticSearch w p query (some k)).2 =
      match (semanticTier w p query k).2 with
      | .ok similarities => similarities
      | .error _ => fallbackTextSearch p.db query k := by
  simp only [semanticSearch, resolveMaxResults, if_neg (show k ≠ 0 by omega)]

/-- `semantic_search` changes the pipeline only through the query's `embed_text`. -/
theorem semanticSearch_fst (maxResults : Option Int) :
    (semanticSearch w p query maxResults).1 =
      { p with embedder := (EmbeddingProvider.embedText w.toEmbedWorld p.embedder query).1 } :=
  rfl

/-- **`semantic_search` returns a correct top-`k`.** When neither the query embedding nor the
store query raises, and the similarities lie in a linear order (no NaN) sorted as Python
sorts, the result is a top-`k` of the usable candidates, each paired with its own
similarity, in the store's order among equal similarities. -/
theorem semanticSearch_top_k [LinearOrder σ] (hsort : w.SortsStably) {qv : List Float}
    {L : List StoreDoc} (hk : 1 ≤ k)
    (hemb : (EmbeddingProvider.embedText w.toEmbedWorld p.embedder query).2 = .ok qv)
    (hstore : p.db semanticQuery = .ok L) :
    IsTopK (·.similarity) (usableCandidates w qv L) (semanticSearch w p query (some k)).2
      k.toNat := by
  rw [semanticSearch_snd w hk, semanticTier_of_ok w hk hemb hstore, hsort.eq]
  exact isTopK_take_sortByKeyDesc _ _ _

/-- **When `semantic_search` comes back empty.** Either embedding the query or the store
query raised and the lexical tier found nothing, or nothing raised and no candidate was
usable: in that case `[]` comes back without the lexical tier being asked. -/
theorem semanticSearch_eq_nil_iff (hk : 1 ≤ k) :
    (semanticSearch w p query (some k)).2 = [] ↔
      (((∃ e, (EmbeddingProvider.embedText w.toEmbedWorld p.embedder query).2 = .error e) ∨
          ∃ qv e, (EmbeddingProvider.embedText w.toEmbedWorld p.embedder query).2 = .ok qv ∧
            p.db semanticQuery = .error e) ∧
        (fallbackTextSearch p.db query k : List (Scored σ)) = []) ∨
      ∃ qv L, (EmbeddingProvider.embedText w.toEmbedWorld p.embedder query).2 = .ok qv ∧
        p.db semanticQuery = .ok L ∧ usableCandidates w qv L = [] := by
  rw [semanticSearch_snd w hk]
  rcases hemb : (EmbeddingProvider.embedText w.toEmbedWorld p.embedder query).2 with e | qv
  · simp [semanticTier_of_embed_error w hemb]
  · rcases hstore : p.db semanticQuery with e | L
    · simp [semanticTier_of_store_error w hemb hstore]
    · have hk' : k.toNat ≠ 0 := by omega
      simp [semanticTier_of_ok w hk hemb hstore, hk']

/-- **Where a similarity comes from.** Every entry of the result carries a similarity
`_cosine_similarity` returned, or the lexical tier's `0.5`. -/
theorem similarity_of_mem_semanticSearch {maxResults : Option Int} {r : Scored σ}
    (hr : r ∈ (semanticSearch w p query maxResults).2) :
    (∃ qv v, w.cosine qv v = .ok r.similarity) ∨ r.similarity = 0.5 := by
  simp only [semanticSearch] at hr
  split at hr
  · obtain ⟨qv, -, -, c, -, hc⟩ := mem_semanticTier w ‹_› hr
    exact .inl ⟨qv, cosine_of_scoreChunk w hc⟩
  · unfold fallbackTextSearch at hr
    split at hr
    · obtain ⟨c, -, rfl⟩ := List.mem_map.mp hr
      exact .inr rfl
    · cases hr

/-- **Where a document comes from.** Every entry of the result holds a document the store
returned, to the semantic tier's query or to the lexical tier's. -/
theorem document_mem_of_semanticSearch {maxResults : Option Int} {r : Scored σ}
    (hr : r ∈ (semanticSearch w p query maxResults).2) :
    (∃ chunks, p.db semanticQuery = .ok chunks ∧ r.document ∈ chunks) ∨
      ∃ chunks, p.db (fallbackQuery query (resolveMaxResults p.config maxResults)) = .ok chunks ∧
        r.document ∈ chunks := by
  simp only [semanticSearch] at hr
  split at hr
  · obtain ⟨qv, chunks, hstore, c, hc, hsc⟩ := mem_semanticTier w ‹_› hr
    exact .inl ⟨chunks, hstore, document_of_scoreChunk w hsc ▸ hc⟩
  · unfold fallbackTextSearch at hr
    split at hr
    · obtain ⟨c, hc, rfl⟩ := List.mem_map.mp hr
      exact .inr ⟨_, ‹_›, hc⟩
    · cases hr

end Spec

/-! ## Examples -/

/-- The embedding world of the examples: `openai` installed, its service answering `[1.0]`
for every text, and numpy and scikit-learn missing. -/
def demoEmbedWorld : EmbedWorld where
  deps := ⟨true, false, false, fun h => h⟩
  openai _ _ _ := .ok [1.0]
  dim _ := 1
  length_openai _ _ _ _ h := by cases h; rfl
  fit _ := .error ⟨"ValueError".toList⟩
  hash _ := 0
  normal _ size := List.replicate size 0.0
  length_normal _ size := List.length_replicate size 0.0

/-- The retrieval world of the examples: `json.loads` is `JsonCodec.loads`, and Python sorts
stably. Without scikit-learn `_cosine_similarity` is the pure-Python branch, which for the
query `[1.0]` and a one-entry embedding `[x]` computes `x / |x|`, and `0.0` for `x = 0`: the
sign of an integer entry, and `1` for a float entry, the one float this world writes being
the `1.0` of its service. -/
def demoWorld : SearchWorld ℚ :=
  { demoEmbedWorld with
    jsonLoads := JsonCodec.loads
    cosine := fun _ v => match v with
      | .arr [.int n] => .ok n.sign
      | .arr [.float _] => .ok 1
      | _ => .error ⟨"TypeError".toList⟩
    sortDesc := sortByKeyDesc (·.similarity)
    perm_sortDesc := perm_sortByKeyDesc _ }

/-- A store whose one knowledge-base chunk was stored without a `metadata:` tag; the chunk
matches both the semantic and the lexical query. -/
def untaggedStore : Store := fun _ =>
  .ok [⟨some ["knowledge-base".toList, "chunk".toList], some "KotaDB".toList,
    some "KotaDB stores documents".toList⟩]

/-- **No degradation.** The store's only chunk has no `metadata:` tag, so no candidate is
usable and `semantic_search` returns `[]`, while the lexical tier would have found it. -/
theorem semanticSearch_empty_without_fallback :
    (semanticSearch demoWorld (init demoWorld.deps untaggedStore none) "KotaDB".toList
        (some 5)).2 = [] ∧
      (fallbackTextSearch untaggedStore "KotaDB".toList 5 : List (Scored ℚ)) ≠ [] :=
  ⟨rfl, by simp [fallbackTextSearch, untaggedStore]⟩

theorem semanticSearch_eq_nil_iff_untagged :
    (semanticSearch demoWorld (init demoWorld.deps untaggedStore none) "KotaDB".toList
        (some 5)).2 = [] ↔
      (((∃ e, (EmbeddingProvider.embedText demoWorld.toEmbedWorld
            (init demoWorld.deps untaggedStore none).embedder "KotaDB".toList).2 = .error e) ∨
          ∃ qv e, (EmbeddingProvider.embedText demoWorld.toEmbedWorld
            (init demoWorld.deps untaggedStore none).embedder "KotaDB".toList).2 = .ok qv ∧
            untaggedStore semanticQuery = .error e) ∧
        (fallbackTextSearch untaggedStore "KotaDB".toList 5 : List (Scored ℚ)) = []) ∨
      ∃ qv L, (EmbeddingProvider.embedText demoWorld.toEmbedWorld
          (init demoWorld.deps untaggedStore none).embedder "KotaDB".toList).2 = .ok qv ∧
        untaggedStore semanticQuery = .ok L ∧ usableCandidates demoWorld qv L = [] :=
  semanticSearch_eq_nil_iff demoWorld (by decide)

/-- A knowledge-base chunk titled `title`, with these `metadata:` tags. -/
def kbChunk (title : String) (metadataTags : List String) : StoreDoc :=
  ⟨some (["knowledge-base".toList, "chunk".toList] ++ metadataTags.map String.toList),
    some title.toList, some "KotaDB".toList⟩

/-- Six chunks: one without a `metadata:` tag, one with an empty embedding, one whose first
`metadata:` tag is not JSON although its second is, and three whose embeddings `[-2]`, `[3]`
and `[5]` score `-1`, `1` and `1`. -/
def rankedChunks : List StoreDoc :=
  [kbChunk "A" [], kbChunk "B" ["metadata:\x7b\"embedding\": []\x7d"],
    kbChunk "C" ["metadata:nan", "metadata:\x7b\"embedding\": [5]\x7d"],
    kbChunk "D" ["metadata:\x7b\"embedding\": [-2]\x7d"],
    kbChunk "E" ["metadata:\x7b\"embedding\": [3]\x7d"],
    kbChunk "F" ["metadata:\x7b\"embedding\": [5], \"source\": \"notes\"\x7d"]]

theorem semanticSearch_top_k_ranked :
    IsTopK (·.similarity) (usableCandidates demoWorld [1.0] rankedChunks)
      (semanticSearch demoWorld (init demoWorld.deps (fun _ => .ok rankedChunks) none)
        "KotaDB".toList (some 2)).2 (2 : Int).toNat :=
  semanticSearch_top_k demoWorld (fun _ _ => rfl) (by decide) rfl rfl

/-- The two chunks of similarity `1` come back, in the store's order. -/
example : (semanticSearch demoWorld (init demoWorld.deps (fun _ => .ok rankedChunks) none)
    "KotaDB".toList (some 2)).2.map (fun r => (r.document.title, r.similarity)) =
      [(some "E".toList, 1), (some "F".toList, 1)] := by
  decide

/-! ## A NaN similarity -/

/-- A Python float as `<` sees it: a number, or NaN, which is below and above nothing. -/
inductive PyFloat where
  /-- a float that is a number -/
  | num (x : ℚ)
  /-- `float('nan')` -/
  | nan
  deriving DecidableEq, Repr

namespace PyFloat

/-- Python's `<` on floats: every comparison with NaN is false. -/
def lt : PyFloat → PyFloat → Prop
  | num x, num y => x < y
  | _, _ => False

instance : LT PyFloat := ⟨lt⟩

instance : DecidableRel (@LT.lt PyFloat _) := fun a b =>
  match a, b with
  | num x, num y => inferInstanceAs (Decidable (x < y))
  | nan, _ => isFalse fun h => h
  | num _, nan => isFalse fun h => h

instance : OfScientific PyFloat := ⟨fun m s e => num (OfScientific.ofScientific m s e)⟩

end PyFloat

/-- The world of the NaN example: that of `demoWorld`, over floats with NaN, where the
pure-Python `_cosine_similarity` gives the entry `NaN`, the example's one float, the
similarity NaN (`NaN * NaN` is NaN and `NaN == 0` is false, so the branch divides NaN by
NaN), and Python's sort is CPython's. -/
def nanWorld : SearchWorld PyFloat :=
  { demoEmbedWorld with
    jsonLoads := JsonCodec.loads
    cosine := fun _ v => match v with
      | .arr [.int n] => .ok (.num n.sign)
      | .arr [.float _] => .ok .nan
      | _ => .error ⟨"TypeError".toList⟩
    sortDesc := cpythonSortDesc (·.similarity)
    perm_sortDesc := perm_cpythonSortDesc _ }

/-- Three chunks whose embeddings `[-3]`, `[NaN]` and `[4]` score `-1`, NaN and `1`. -/
def nanChunks : List StoreDoc :=
  [kbChunk "A" ["metadata:\x7b\"embedding\": [-3]\x7d"],
    kbChunk "B" ["metadata:\x7b\"embedding\": [NaN]\x7d"],
    kbChunk "C" ["metadata:\x7b\"embedding\": [4]\x7d"]]

/-- **NaN unranks the result.** The three chunks are usable, with similarities `-1`, NaN and
`1`. CPython sorts the reversed list `1, NaN, -1` as one ascending run, no key being below
the one before it since nothing is below NaN, and reverses it back unchanged: asked for the
top `1`, `semantic_search` returns the chunk of similarity `-1`, and leaves out the usable
chunk of similarity `1`. -/
theorem semanticSearch_nan_unranked :
    (usableCandidates nanWorld [1.0] nanChunks).map (fun r => (r.document.title, r.similarity)) =
        [(some "A".toList, .num (-1)), (some "B".toList, .nan), (some "C".toList, .num 1)] ∧
      (semanticSearch nanWorld (init nanWorld.deps (fun _ => .ok nanChunks) none)
          "KotaDB".toList (some 1)).2.map (fun r => (r.document.title, r.similarity)) =
        [(some "A".toList, .num (-1))] := by
  decide

end RAGPipeline

end KotaRag
