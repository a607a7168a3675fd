import KotaRag.Json

/-!
# The client's data classes

`kotadb/types.py` reads the server's JSON answers into dataclasses (`Document.from_dict`,
`SearchResult.from_dict`, `QueryResult.from_dict`) and writes a document back as a dict
(`Document.to_dict`). A dataclass does not check what it
holds, so a field holds whatever JSON value the dict had; the two timestamps go through
`datetime.fromisoformat`, which is a parameter here. Reading raises `KeyError` naming the
missing key, `TypeError` when a value that is not a dict is subscripted or iterated, and
`AttributeError` when a timestamp is not a `str`.

* `Document.fromDict_keyError` — every `KeyError` that `from_dict` raises names one of the
  seven keys it subscripts, one the dict lacks; `to_dict` leaves out `created_at`,
  `updated_at` and `size`, so reading its dict back raises `KeyError('created_at')`;
* `QueryResult.fromDict_results` — a `results` value `from_dict` accepts is a list of
  search-result dicts, or an empty dict or string, which Python iterates as nothing.
-/

namespace KotaRag

namespace Client

/-- What reading a dict raises. -/
inductive ReadError where
  /-- `KeyError(key)`: `data[key]` on a dict without the key -/
  | keyError (key : PyStr)
  /-- `TypeError`: subscripting or iterating a value that does not allow it -/
  | typeError
  /-- `AttributeError`: `.replace` on a timestamp that is not a `str` -/
  | attributeError
  /-- what `datetime.fromisoformat` raised -/
  | isoFormat (e : PyErr)
  deriving DecidableEq, Repr

/-- A block that may raise goes on only with what its first statement returned. -/
theorem bind_eq_ok {α β : Type} {x : Except ReadError α} {f : α → Except ReadError β} {b : β} :
    x >>= f = .ok b ↔ ∃ a, x = .ok a ∧ f a = .ok b := by
  cases x <;> simp

/-- `data[key]` on a dict. -/
def getItem (data : PyDict JsonVal) (key : PyStr) : Except ReadError JsonVal :=
  match data.find? (·.1 == key) with
  | some item => .ok item.2
  | none => .error (.keyError key)

/-- A subscripted JSON value: a dict, or `TypeError`. -/
def asDict : JsonVal → Except ReadError (PyDict JsonVal)
  | .obj items => .ok items
  | _ => .error .typeError

/-- `for r in value`: a list gives its items, a dict its keys and a `str` its characters;
any other value raises `TypeError`. -/
def iterate : JsonVal → Except ReadError (List JsonVal)
  | .arr xs => .ok xs
  | .obj items => .ok (items.map fun item => .str item.1)
  | .str s => .ok (s.map fun c => .str [c])
  | _ => .error .typeError

/-- `s.replace('Z', '+00:00')` -/
def replaceZ (s : PyStr) : PyStr := s.flatMap fun c => if c = 'Z' then "+00:00".toList else [c]

/-- What the readers call outside themselves. -/
structure ClientWorld (D : Type) where
  /-- `datetime.fromisoformat` -/
  fromIsoFormat : PyStr → Except PyErr D

variable {D : Type} (w : ClientWorld D)

/-- `datetime.fromisoformat(value.replace('Z', '+00:00'))` -/
def parseTimestamp : JsonVal → Except ReadError D
  | .str s => (w.fromIsoFormat (replaceZ s)).mapError .isoFormat
  | _ => .error .attributeError

/-! ## `Document` -/

/-- `Document`, with its fields as `from_dict` fills them. -/
structure Document (D : Type) where
  /-- `id` -/
  id : JsonVal
  /-- `path` -/
  path : JsonVal
  /-- `title` -/
  title : JsonVal
  /-- `content` -/
  content : JsonVal
  /-- `tags` -/
  tags : JsonVal
  /-- `created_at` -/
  createdAt : D
  /-- `updated_at` -/
  updatedAt : D
  /-- `size` -/
  size : JsonVal
  /-- `metadata` -/
  metadata : JsonVal

namespace Document

/-- `Document.from_dict(data)`: the keyword arguments are evaluated in order, so the first
failing one raises. -/
def fromDict (data : PyDict JsonVal) : Except ReadError (Document D) := do
  let id ← getItem data "id".toList
  let path ← getItem data "path".toList
  let title ← getItem data "title".toList
  let content ← getItem data "content".toList
  let tags := dictGet data "tags".toList (.arr [])
  let createdAt ← getItem data "created_at".toList >>= parseTimestamp w
  let updatedAt ← getItem data "updated_at".toList >>= parseTimestamp w
  let size ← getItem data "size".toList
  let metadata := dictGet data "metadata".toList .null
  return ⟨id, path, title, content, tags, createdAt, updatedAt, size, metadata⟩

/-- `document.to_dict()` -/
def toDict (d : Document D) : PyDict JsonVal :=
  [("id".toList, d.id), ("path".toList, d.path), ("title".toList, d.title),
    ("content".toList, d.content), ("tags".toList, d.tags), ("metadata".toList, d.metadata)]

/-- The keys `from_dict` subscripts with `data[...]`, in order. -/
def requiredKeys : List PyStr :=
  ["id", "path", "title", "content", "created_at", "updated_at", "size"].map String.toList

/-- `data[key]` raises only `KeyError(key)`. -/
theorem getItem_eq_error {data : PyDict JsonVal} {key : PyStr} {e : ReadError}
    (h : getItem data key = .error e) : e = .keyError key := by
  unfold getItem at h
  split at h <;> cases h
  rfl

/-- A timestamp never raises `KeyError`. -/
theorem parseTimestamp_ne_keyError (v : JsonVal) (key : PyStr) :
    parseTimestamp w v ≠ .error (.keyError key) := by
  cases v with
  | str s => cases h : w.fromIsoFormat (replaceZ s) <;> simp [parseTimestamp, h, Except.mapError]
  | _ => simp [parseTimestamp]

/-- A block raises what its first statement raised, or what the rest raised after it. -/
theorem bind_eq_error {α β : Type} {x : Except ReadError α} {f : α → Except ReadError β}
    {e : ReadError} : x >>= f = .error e ↔ x = .error e ∨ ∃ a, x = .ok a ∧ f a = .error e := by
  cases x <;> simp

/-- **What a `KeyError` names.** Every `KeyError` that `from_dict` raises names a key it
subscripts, and the dict lacks that key: `tags` and `metadata`, read with `get`, never raise
it, and neither does a timestamp. -/
theorem fromDict_keyError {data : PyDict JsonVal} {key : PyStr}
    (h : fromDict w data = .error (.keyError key)) :
    key ∈ requiredKeys ∧ getItem data key = .error (.keyError key) := by
  -- the `KeyError` comes from one of the seven subscripts
  have hmiss : ∀ k ∈ requiredKeys, getItem data k = .error (.keyError key) →
      key ∈ requiredKeys ∧ getItem data key = .error (.keyError key) := fun k hk hg => by
    cases getItem_eq_error hg
    exact ⟨hk, hg⟩
  simp only [fromDict, bind_eq_error] at h
  rcases h with h | ⟨_, -, h | ⟨_, -, h | ⟨_, -, h | ⟨_, -, (h | ⟨_, -, h⟩) | ⟨_, -,
    (h | ⟨_, -, h⟩) | ⟨_, -, h | ⟨_, -, h⟩⟩⟩⟩⟩⟩⟩
  all_goals first
    | exact hmiss _ (by simp [requiredKeys]) h
    | exact absurd h (parseTimestamp_ne_keyError w _ _)
    | cases h

end Document

/-- A world whose `fromisoformat` accepts every string, with timestamps left abstract. -/
def acceptingWorld : ClientWorld Unit := ⟨fun _ => .ok ()⟩

/-- A document as the server sends it, with a UTC timestamp in `Z` form. -/
def serverDocument : PyDict JsonVal :=
  [("id".toList, .str "doc-1".toList), ("path".toList, .str "/notes/a.md".toList),
    ("title".toList, .str "A".toList), ("content".toList, .str "Some text".toList),
    ("created_at".toList, .str "2024-05-01T12:00:00Z".toList),
    ("updated_at".toList, .str "2024-05-01T12:00:00Z".toList), ("size".toList, .int 9)]

/-- `to_dict` of the document read from the server's dict leaves out `created_at`, so
reading it back raises `KeyError('created_at')`, a key `from_dict` subscripts. -/
theorem Document.fromDict_keyError_toDict :
    ∃ d, Document.fromDict acceptingWorld serverDocument = .ok d ∧
      Document.fromDict acceptingWorld d.toDict = .error (.keyError "created_at".toList) ∧
      "created_at".toList ∈ Document.requiredKeys ∧
      getItem d.toDict "created_at".toList = .error (.keyError "created_at".toList) :=
  have h : Document.fromDict acceptingWorld serverDocument = .ok _ := rfl
  have hback : Document.fromDict acceptingWorld (Document.toDict _) =
      .error (.keyError "created_at".toList) := rfl
  ⟨_, h, hback, Document.fromDict_keyError acceptingWorld hback⟩

/-! ## `SearchResult` and `QueryResult` -/

/-- `SearchResult` -/
structure SearchResult (D : Type) where
  /-- `document` -/
  document : Document D
  /-- `score` -/
  score : JsonVal
  /-- `content_preview` -/
  contentPreview : JsonVal

/-- `SearchResult.from_dict(data)`: `data['document']` is read as a `Document` first, then
`data['score']`; `content_preview` defaults to `''`. -/
def SearchResult.fromDict (data : JsonVal) : Except ReadError (SearchResult D) := do
  let items ← asDict data
  let document ← getItem items "document".toList >>= asDict >>= Document.fromDict w
  let score ← getItem items "score".toList
  return ⟨document, score, dictGet items "content_preview".toList (.str [])⟩

/-- `QueryResult` -/
structure QueryResult (D : Type) where
  /-- `results` -/
  results : List (SearchResult D)
  /-- `total_count` -/
  totalCount : JsonVal
  /-- `query_time_ms` -/
  queryTimeMs : JsonVal

/-- `QueryResult.from_dict(data)`: the comprehension over `data['results']` reads each item in
order, and the first that raises ends it. -/
def QueryResult.fromDict (data : PyDict JsonVal) : Except ReadError (QueryResult D) := do
  let results ← getItem data "results".toList >>= iterate >>= List.mapM (SearchResult.fromDict w)
  let totalCount ← getItem data "total_count".toList
  let queryTimeMs ← getItem data "query_time_ms".toList
  return ⟨results, totalCount, queryTimeMs⟩

/-- A key or a character, which iterating a dict or a `str` gives, is no search result. -/
theorem mapM_searchResult_str {s : PyStr} {rest : List JsonVal} {L : List (SearchResult D)} :
    (JsonVal.str s :: rest).mapM (SearchResult.fromDict w) ≠ .ok L := by
  have hhead : SearchResult.fromDict w (.str s) = .error .typeError := rfl
  rw [List.mapM_cons, hhead]
  nofun

/-- **What `results` may be.** When `QueryResult.from_dict` returns, `data['results']` was a
list whose items were all read as search results, in order; or it was an empty dict or an
empty string, which Python iterates as nothing, and there are no results. A non-empty dict or
string is iterated by key or by character and raises `TypeError`. -/
theorem QueryResult.fromDict_results {data : PyDict JsonVal} {q : QueryResult D}
    (h : QueryResult.fromDict w data = .ok q) :
    (∃ xs, getItem data "results".toList = .ok (.arr xs) ∧
        xs.mapM (SearchResult.fromDict w) = .ok q.results) ∨
      ((getItem data "results".toList = .ok (.obj []) ∨
          getItem data "results".toList = .ok (.str [])) ∧ q.results = []) := by
  simp only [QueryResult.fromDict, bind_eq_ok] at h
  obtain ⟨results, ⟨ys, ⟨v, hv, hys⟩, hmap⟩, _, -, _, -, hq⟩ := h
  cases hq
  cases v with
  | arr xs =>
    cases hys
    exact .inl ⟨_, hv, hmap⟩
  | obj items =>
    cases hys
    cases items with
    | nil =>
      cases hmap
      exact .inr ⟨.inl hv, rfl⟩
    | cons item items => exact absurd hmap (mapM_searchResult_str w)
  | str s =>
    cases hys
    cases s with
    | nil =>
      cases hmap
      exact .inr ⟨.inr hv, rfl⟩
    | cons c s => exact absurd hmap (mapM_searchResult_str w)
  | _ => cases hys

/-- A server answer whose `results` is an empty dict reads as a query result with none. -/
theorem QueryResult.fromDict_results_empty_dict :
    ∃ q, QueryResult.fromDict acceptingWorld
        [("results".toList, .obj []), ("total_count".toList, .int 0),
          ("query_time_ms".toList, .int 1)] = .ok q ∧
      ((∃ xs, getItem [("results".toList, .obj []), ("total_count".toList, .int 0),
            ("query_time_ms".toList, .int 1)] "results".toList = .ok (.arr xs) ∧
          xs.mapM (SearchResult.fromDict acceptingWorld) = .ok q.results) ∨
        ((getItem [("results".toList, .obj []), ("total_count".toList, .int 0),
              ("query_time_ms".toList, .int 1)] "results".toList = .ok (.obj []) ∨
            getItem [("results".toList, .obj []), ("total_count".toList, .int 0),
              ("query_time_ms".toList, .int 1)] "results".toList = .ok (.str [])) ∧
          q.results = [])) :=
  have h : QueryResult.fromDict acceptingWorld
      [("results".toList, .obj []), ("total_count".toList, .int 0),
        ("query_time_ms".toList, .int 1)] = .ok _ := rfl
  ⟨_, h, QueryResult.fromDict_results acceptingWorld h⟩

end Client

end KotaRag
