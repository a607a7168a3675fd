import KotaRag.Json

/-!
# `DocumentChunker`

`DocumentChunker` (lines 61-141 of `rag_demo.py`) splits a document into overlapping
chunks. `chunk_document` normalises the text with `_clean_content`, returns the whole text
as one chunk when it fits in `chunk_size`, and otherwise runs a `while` loop over windows:

* a window starts at `start` and ends `chunk_size` later, unless it is not the last window
  and `_find_sentence_boundary` finds a sentence ending in its trailing fifth, in which case
  it ends just after that ending;
* the stripped window is kept as a chunk when it is not empty, and the next window starts
  `overlap` before this one's end.

Nothing in the loop makes `start` grow, so the loop is modelled with fuel: `chunkDocument`
returns `none` when the fuel runs out, and "`chunk_document` returns `r`" is "some fuel
gives `some r`". The start can also become negative, where Python slicing counts from the
end of the text; `pySlice` carries that.
-/

namespace KotaRag

/-- `DocumentChunker(chunk_size, overlap)`: the constructor stores both values unchecked. -/
structure DocumentChunker where
  /-- `chunk_size` -/
  chunkSize : Int
  /-- `overlap` -/
  overlap : Int
  deriving DecidableEq, Repr

/-- The keys the windowing loop adds to a chunk's metadata. -/
structure ChunkLoc where
  /-- `chunk_index` -/
  chunkIndex : Nat
  /-- `start_char` -/
  startChar : Int
  /-- `end_char` -/
  endChar : Int
  deriving DecidableEq, Repr

/-- A chunk's `metadata` dict: a copy of the caller's `metadata`, updated with the window's
location on the windowing path (`loc = some _`) and left as it is on the single-chunk path
(`loc = none`). -/
structure ChunkMeta where
  /-- the caller's `metadata` -/
  base : PyDict JsonVal
  /-- the `chunk_index`/`start_char`/`end_char` update, when there is one -/
  loc : Option ChunkLoc

/-- The dict a `ChunkMeta` stands for: `metadata.copy()` followed by `update`. -/
def ChunkMeta.toDict (m : ChunkMeta) : PyDict JsonVal :=
  match m.loc with
  | none => m.base
  | some l =>
    dictSet (dictSet (dictSet m.base "chunk_index".toList (.int l.chunkIndex))
      "start_char".toList (.int l.startChar)) "end_char".toList (.int l.endChar)

/-- A chunk record: `{'content', 'metadata', 'chunk_index', 'chunk_count'}`. -/
structure Chunk where
  /-- `content` -/
  content : PyStr
  /-- `metadata` -/
  metadata : ChunkMeta
  /-- `chunk_index` -/
  chunkIndex : Nat
  /-- `chunk_count` -/
  chunkCount : Nat

/-! ## `_clean_content` -/

/-- `re.sub(r'\s+', ' ', s)`: each maximal run of whitespace becomes one space. `inRun`
says that the code point before the rest was whitespace. -/
def subWhitespaceRuns (inRun : Bool) : PyStr → PyStr
  | [] => []
  | c :: cs =>
    if isPySpace c then
      if inRun then subWhitespaceRuns true cs else ' ' :: subWhitespaceRuns true cs
    else c :: subWhitespaceRuns false cs

/-- The character class `[\x00-\x1f\x7f]`. -/
def isControl (c : Char) : Bool := c.toNat ≤ 0x1f || c.toNat == 0x7f

/-- `DocumentChunker._clean_content`. -/
def cleanContent (content : PyStr) : PyStr :=
  pyStrip ((subWhitespaceRuns false content).filter fun c => !isControl c)

/-! ## `_find_sentence_boundary` -/

/-- The `sentence_endings` list of `_find_sentence_boundary`. -/
def sentenceEndings : List PyStr :=
  [". ".toList, "! ".toList, "? ".toList, ".\n".toList, "!\n".toList, "?\n".toList]

/-- `DocumentChunker._find_sentence_boundary`. The test `pos > len(text) * 0.8` is read over
exact arithmetic, as `4 * len(text) < 5 * pos`; the float product agrees with it on every
text shorter than `2^50` code points. -/
def findSentenceBoundary (text : PyStr) : Int :=
  sentenceEndings.foldl (fun bestPos ending =>
    let pos := rfind text ending
    if bestPos < pos ∧ 4 * (text.length : Int) < 5 * pos then pos + ending.length - 1
    else bestPos) (-1)

/-! ## `chunk_document` -/

namespace DocumentChunker

variable (ch : DocumentChunker) (content : PyStr) (metadata : PyDict JsonVal)

/-- The end of the window that starts at `start` (lines 88-95). -/
def windowEnd (start : Int) : Int :=
  if start + ch.chunkSize < content.length then
    let sentenceEnd := findSentenceBoundary (pySlice content start (start + ch.chunkSize))
    if sentenceEnd ≠ -1 then start + sentenceEnd + 1 else start + ch.chunkSize
  else start + ch.chunkSize

/-- The variables of the `while` loop of `chunk_document`. -/
structure Loop where
  /-- `start` -/
  start : Int
  /-- `chunk_index` -/
  chunkIndex : Nat
  /-- `chunks` -/
  chunks : List Chunk

/-- The chunk a window yields, before `chunk_count` is filled in (lines 97-111). -/
def windowChunk (chunkIndex : Nat) (start e : Int) : Chunk :=
  { content := pyStrip (pySlice content start e)
    metadata := ⟨metadata, some ⟨chunkIndex, start, e⟩⟩
    chunkIndex := chunkIndex
    chunkCount := 0 }

/-- One pass of the loop body (lines 88-114). -/
def loopStep (st : Loop) : Loop :=
  let e := ch.windowEnd content st.start
  let chunk := windowChunk content metadata st.chunkIndex st.start e
  { start := e - ch.overlap
    chunkIndex := st.chunkIndex + 1
    chunks := if chunk.content.isEmpty then st.chunks else st.chunks ++ [chunk] }

/-- `while start < len(content)`, for at most `fuel` passes; `none` when the fuel runs out. -/
def chunkLoop : Nat → Loop → Option (List Chunk)
  | 0, _ => none
  | fuel + 1, st =>
    if st.start < content.length then chunkLoop fuel (ch.loopStep content metadata st)
    else some st.chunks

end DocumentChunker

/-- `DocumentChunker.chunk_document(content, metadata)`, with the loop bounded by `fuel`. -/
def DocumentChunker.chunkDocument (ch : DocumentChunker) (fuel : Nat) (input : PyStr)
    (metadata : Option (PyDict JsonVal)) : Option (List Chunk) :=
  let metadata := metadata.getD []
  let content := cleanContent input
  if content.length ≤ ch.chunkSize then
    some [{ content, metadata := ⟨metadata, none⟩, chunkIndex := 0, chunkCount := 1 }]
  else
    (ch.chunkLoop content metadata fuel ⟨0, 0, []⟩).map fun chunks =>
      chunks.map fun c => { c with chunkCount := chunks.length }

end KotaRag
