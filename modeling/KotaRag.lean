import KotaRag.PyStr
import KotaRag.Json
import KotaRag.JsonCodec
import KotaRag.Chunker.Defs
import KotaRag.Chunker.Boundary
import KotaRag.Chunker.Run
import KotaRag.Chunker.Cover
import KotaRag.Chunker.Spans
import KotaRag.Chunker.Clean
import KotaRag.Sort
import KotaRag.Embedding
import KotaRag.Search
import KotaRag.Cosine
import KotaRag.Answer
import KotaRag.Ingest
import KotaRag.Stats
import KotaRag.Naming
import KotaRag.System
import KotaRag.Requests
import KotaRag.ClientTypes
import KotaRag.Runs
import KotaRag.Grounding
