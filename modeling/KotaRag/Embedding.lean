import KotaRag.Json
import Mathlib

/-!
# `EmbeddingProvider`

`EmbeddingProvider` (lines 143-210 of `rag_demo.py`) turns texts into vectors. Each call picks
its backend from the provider's name and from the optional imports that succeeded when the
module loaded:

* `"openai"` with `openai` installed — one request to the remote service per text, and the
  mock vector when the request raises;
* `"tfidf"` with scikit-learn installed — a `TfidfVectorizer`: `embed_texts` fits it on its
  first batch that fits, and `embed_text` answers with the mock vector until then;
* any other case — the mock vector: numpy is seeded with the text's hash and draws `384`
  values, or `384` zeros come back without scikit-learn (and without numpy the seeding
  raises `NameError`).

The provider's state is its Python fields (`provider`, `model`, the vectorizer with
`_is_fitted`) and the number of requests it has sent: the world (`EmbedWorld`) answers the
`n`-th request, so that every pattern of success and failure of the service is a world. A
run is a list of calls (`runCalls`). `Fits` says which lengths a vector can have in a given
state; every call returns only fitting vectors (`step_fits`), from which
`runCalls_vector_lengths` describes the lengths of a whole run. They are not one length:
`runCalls_mixed_lengths` mixes a service vector with the mock fallback.
-/

namespace KotaRag

/-- Which optional imports of the module header succeeded. numpy and scikit-learn are
imported in one `try`, numpy first, so `HAS_SKLEARN` implies numpy. -/
structure Deps where
  /-- `HAS_OPENAI` -/
  hasOpenai : Bool
  /-- whether `import numpy as np` succeeded -/
  hasNumpy : Bool
  /-- `HAS_SKLEARN` -/
  hasSklearn : Bool
  /-- scikit-learn imported only after numpy did -/
  numpy_of_sklearn : hasSklearn = true → hasNumpy = true

/-- A fitted `TfidfVectorizer`: `transform` gives one entry per vocabulary term. -/
structure Vectorizer where
  /-- the size of the learnt vocabulary -/
  vocabSize : Nat
  /-- `vectorizer.transform([text]).toarray()[0].tolist()` -/
  transform : PyStr → List Float
  /-- every transformed text has one entry per term -/
  length_transform : ∀ text, (transform text).length = vocabSize

/-- What the provider's library and service calls answer. -/
structure EmbedWorld where
  /-- the optional imports -/
  deps : Deps
  /-- `openai.Embedding.create(input=text, model=model)['data'][0]['embedding']` sent as
  the provider's `n`-th request: a vector, or the exception the request raises -/
  openai : Nat → PyStr → PyStr → Except PyErr (List Float)
  /-- the length of the service's vectors for each model -/
  dim : PyStr → Nat
  /-- the service answers with vectors of its model's length -/
  length_openai : ∀ n model text v, openai n model text = .ok v → v.length = dim model
  /-- `TfidfVectorizer(max_features=512, stop_words='english')` fitted on `texts` -/
  fit : List PyStr → Except PyErr Vectorizer
  /-- Python's `hash` of a `str` -/
  hash : PyStr → Int
  /-- `np.random.seed(seed)` followed by `np.random.normal(0, 1, size)` -/
  normal : Nat → Nat → List Float
  /-- numpy draws as many values as asked -/
  length_normal : ∀ seed size, (normal seed size).length = size

/-- The fields of an `EmbeddingProvider`, and the requests it has sent. -/
structure EmbeddingProvider where
  /-- `provider` -/
  provider : PyStr
  /-- `model` -/
  model : PyStr
  /-- the vectorizer once `_is_fitted` is set; `none` before -/
  fitted : Option Vectorizer
  /-- the requests sent to the remote service so far -/
  requests : Nat

namespace EmbeddingProvider

/-- `EmbeddingProvider(provider, model)`: the model is `model or "text-embedding-ada-002"`. -/
def init (provider : PyStr) (model : Option PyStr) : EmbeddingProvider where
  provider := provider
  model := match model with
    | some m => if m.isEmpty then "text-embedding-ada-002".toList else m
    | none => "text-embedding-ada-002".toList
  fitted := none
  requests := 0

/-- The exception `np.random.seed` raises when numpy did not import. -/
def nameError : PyErr := ⟨"NameError".toList⟩

variable (w : EmbedWorld)

/-- `_mock_embed(text)`. -/
def mockEmbed (text : PyStr) : Except PyErr (List Float) :=
  if w.deps.hasNumpy then
    let hashVal := (w.hash text % 2 ^ 31).toNat
    .ok (if w.deps.hasSklearn then w.normal hashVal 384 else List.replicate 384 0.0)
  else .error nameError

/-- `self.provider == "openai" and HAS_OPENAI` -/
def usesOpenai (p : EmbeddingProvider) : Bool := p.provider == "openai".toList && w.deps.hasOpenai

/-- `self.provider == "tfidf" and HAS_SKLEARN` -/
def usesTfidf (p : EmbeddingProvider) : Bool := p.provider == "tfidf".toList && w.deps.hasSklearn

/-- `_openai_embed(text)`: one request, and the mock vector when it raises. -/
def openaiEmbed (p : EmbeddingProvider) (text : PyStr) :
    EmbeddingProvider × Except PyErr (List Float) :=
  ({ p with requests := p.requests + 1 },
    match w.openai p.requests p.model text with
    | .ok v => .ok v
    | .error _ => mockEmbed w text)

/-- `_tfidf_embed(text)`. -/
def tfidfEmbed (p : EmbeddingProvider) (text : PyStr) : Except PyErr (List Float) :=
  match p.fitted with
  | none => mockEmbed w text
  | some vz => .ok (vz.transform text)

/-- `_tfidf_embed_batch(texts)`: `fit_transform` while not fitted, `transform` after. -/
def tfidfEmbedBatch (p : EmbeddingProvider) (texts : List PyStr) :
    EmbeddingProvider × Except PyErr (List (List Float)) :=
  match p.fitted with
  | none =>
    match w.fit texts with
    | .ok vz => ({ p with fitted := some vz }, .ok (texts.map vz.transform))
    | .error e => (p, .error e)
  | some vz => (p, .ok (texts.map vz.transform))

/-- `embed_text(text)`. -/
def embedText (p : EmbeddingProvider) (text : PyStr) :
    EmbeddingProvider × Except PyErr (List Float) :=
  if usesOpenai w p then openaiEmbed w p text
  else if usesTfidf w p then (p, tfidfEmbed w p text)
  else (p, mockEmbed w text)

/-- `[self.embed_text(text) for text in texts]`: an exception ends the comprehension, and
the requests already sent stay sent. -/
def embedEach (p : EmbeddingProvider) : List PyStr →
    EmbeddingProvider × Except PyErr (List (List Float))
  | [] => (p, .ok [])
  | text :: texts =>
    match (embedText w p text).2 with
    | .error e => ((embedText w p text).1, .error e)
    | .ok v =>
      ((embedEach (embedText w p text).1 texts).1,
        (embedEach (embedText w p text).1 texts).2.map (v :: ·))

/-- `embed_texts(texts)`. -/
def embedTexts (p : EmbeddingProvider) (texts : List PyStr) :
    EmbeddingProvider × Except PyErr (List (List Float)) :=
  if usesTfidf w p then tfidfEmbedBatch w p texts else embedEach w p texts

/-- A call made on the provider. -/
inductive Call where
  /-- `embed_text(text)` -/
  | embedText (text : PyStr)
  /-- `embed_texts(texts)` -/
  | embedTexts (texts : List PyStr)

/-- One call: the provider after it, and the vectors it returned (none when it raised). -/
def step (p : EmbeddingProvider) : Call → EmbeddingProvider × List (List Float)
  | .embedText text =>
    ((embedText w p text).1, match (embedText w p text).2 with | .ok v => [v] | .error _ => [])
  | .embedTexts texts =>
    ((embedTexts w p texts).1, match (embedTexts w p texts).2 with | .ok vs => vs | .error _ => [])

/-- A run of calls: the provider at the end, and every vector returned, in order. -/
def runCalls (p : EmbeddingProvider) : List Call → EmbeddingProvider × List (List Float)
  | [] => (p, [])
  | c :: cs => ((runCalls (step w p c).1 cs).1, (step w p c).2 ++ (runCalls (step w p c).1 cs).2)

/-! ## Vector lengths -/

/-- The lengths a vector can have in state `p`: the service's or the mock's for `"openai"`,
the mock's before the vectorizer is fitted and its vocabulary's after for `"tfidf"`, and
the mock's otherwise. -/
def Fits (p : EmbeddingProvider) (v : List Float) : Prop :=
  if usesOpenai w p then v.length = w.dim p.model ∨ v.length = 384
  else if usesTfidf w p then v.length = (p.fitted.map (·.vocabSize)).getD 384
  else v.length = 384

/-- Counting requests does not change what fits. -/
@[simp] theorem fits_requests (p : EmbeddingProvider) (n : Nat) :
    Fits w { p with requests := n } = Fits w p := rfl

theorem mockEmbed_length {text : PyStr} {v : List Float} (h : mockEmbed w text = .ok v) :
    v.length = 384 := by
  unfold mockEmbed at h
  split at h
  · cases h
    split
    · exact w.length_normal _ _
    · exact List.length_replicate _ _
  · cases h

/-- `embed_text` only counts requests. -/
theorem embedText_fst (p : EmbeddingProvider) (text : PyStr) :
    ∃ n, (embedText w p text).1 = { p with requests := n } := by
  unfold embedText openaiEmbed
  split
  · exact ⟨_, rfl⟩
  · split <;> exact ⟨p.requests, rfl⟩

theorem embedText_fits {p : EmbeddingProvider} {text : PyStr} {v : List Float}
    (h : (embedText w p text).2 = .ok v) : Fits w p v := by
  unfold embedText at h
  unfold Fits
  split at h
  · rename_i ho
    rw [if_pos ho]
    unfold openaiEmbed at h
    split at h
    · cases h; exact .inl (w.length_openai _ _ _ _ ‹_›)
    · exact .inr (mockEmbed_length w h)
  · rename_i ho
    rw [if_neg ho]
    split at h
    · rename_i ht
      rw [if_pos ht]
      unfold tfidfEmbed at h
      split at h
      · rename_i hf; rw [hf]; exact mockEmbed_length w h
      · rename_i vz hf; cases h; rw [hf]; exact vz.length_transform _
    · rename_i ht
      rw [if_neg ht]
      exact mockEmbed_length w h

/-- The comprehension only counts requests, and every vector it returns fits. -/
theorem embedEach_spec (p : EmbeddingProvider) (texts : List PyStr) :
    (∃ n, (embedEach w p texts).1 = { p with requests := n }) ∧
      ∀ vs, (embedEach w p texts).2 = .ok vs → ∀ v ∈ vs, Fits w p v := by
  induction texts generalizing p with
  | nil => exact ⟨⟨p.requests, rfl⟩, fun vs h => by cases h; simp⟩
  | cons text texts ih =>
    obtain ⟨n, hn⟩ := embedText_fst w p text
    obtain ⟨⟨m, hm⟩, hvs⟩ := ih (embedText w p text).1
    rw [hn, fits_requests] at hvs
    rw [hn] at hm
    rcases he : (embedText w p text).2 with e | v
    · exact ⟨⟨n, by simp only [embedEach, he, hn]⟩, fun vs h => by simp [embedEach, he] at h⟩
    · refine ⟨⟨m, by simp only [embedEach, he, hn, hm]⟩, fun vs h => ?_⟩
      simp only [embedEach, he, hn] at h
      rcases hr : (embedEach w { p with requests := n } texts).2 with e | vs'
      · simp [hr, Except.map] at h
      · simp only [hr, Except.map, Except.ok.injEq] at h
        subst h
        intro v' hv'
        rcases List.mem_cons.mp hv' with rfl | hv'
        · exact embedText_fits w he
        · exact hvs vs' hr v' hv'

/-- A `"tfidf"` provider does not use the service. -/
theorem usesOpenai_eq_false_of_usesTfidf {p : EmbeddingProvider} (ht : usesTfidf w p = true) :
    usesOpenai w p = false := by
  simp only [usesTfidf, Bool.and_eq_true, beq_iff_eq] at ht
  simp only [usesOpenai, ht.1]
  rfl

/-- For a `"tfidf"` provider a vector fits when it has the vocabulary's length once fitted,
and the mock's before. -/
theorem fits_of_usesTfidf {p : EmbeddingProvider} {v : List Float} (ht : usesTfidf w p = true) :
    Fits w p v ↔ v.length = (p.fitted.map (·.vocabSize)).getD 384 := by
  simp [Fits, usesOpenai_eq_false_of_usesTfidf w ht, ht]

theorem tfidfEmbedBatch_fits {p : EmbeddingProvider} {texts : List PyStr}
    (ht : usesTfidf w p = true) :
    ∀ vs, (tfidfEmbedBatch w p texts).2 = .ok vs →
      ∀ v ∈ vs, Fits w (tfidfEmbedBatch w p texts).1 v := by
  intro vs h v hv
  rcases hf : p.fitted with _ | vz
  · rcases hfit : w.fit texts with e | vz
    · simp [tfidfEmbedBatch, hf, hfit] at h
    · simp only [tfidfEmbedBatch, hf, hfit, Except.ok.injEq] at h ⊢
      subst h
      obtain ⟨t, -, rfl⟩ := List.mem_map.mp hv
      exact (@fits_of_usesTfidf w { p with fitted := some vz } _ ht).mpr (vz.length_transform t)
  · simp only [tfidfEmbedBatch, hf, Except.ok.injEq] at h ⊢
    subst h
    obtain ⟨t, -, rfl⟩ := List.mem_map.mp hv
    exact (fits_of_usesTfidf w ht).mpr (by rw [hf]; exact vz.length_transform t)

/-- **One call** returns only vectors that fit the provider after it. -/
theorem step_fits (p : EmbeddingProvider) (c : Call) :
    ∀ v ∈ (step w p c).2, Fits w (step w p c).1 v := by
  cases c with
  | embedText text =>
    obtain ⟨n, hn⟩ := embedText_fst w p text
    simp only [step, hn, fits_requests]
    split
    · rename_i h; simpa using embedText_fits w h
    · simp
  | embedTexts texts =>
    by_cases ht : usesTfidf w p = true
    · simp only [step, embedTexts, if_pos ht]
      split
      · rename_i vs h; exact tfidfEmbedBatch_fits w ht vs h
      · simp
    · obtain ⟨⟨n, hn⟩, hvs⟩ := embedEach_spec w p texts
      simp only [step, embedTexts, if_neg ht, hn, fits_requests]
      split
      · rename_i vs h; exact hvs vs h
      · simp

/-! ## Runs -/

/-- What a call leaves alone: the provider's name and model, and a fitted vectorizer. -/
structure Keeps (p q : EmbeddingProvider) : Prop where
  /-- the name stays -/
  provider : q.provider = p.provider
  /-- the model stays -/
  model : q.model = p.model
  /-- a fitted vectorizer stays fitted -/
  fitted : ∀ vz, p.fitted = some vz → q.fitted = some vz

theorem Keeps.refl (p : EmbeddingProvider) : Keeps p p := ⟨rfl, rfl, fun _ h => h⟩

theorem usesOpenai_of_keeps {p q : EmbeddingProvider} (h : Keeps p q) :
    usesOpenai w q = usesOpenai w p := by
  simp only [usesOpenai, h.provider]

theorem usesTfidf_of_keeps {p q : EmbeddingProvider} (h : Keeps p q) :
    usesTfidf w q = usesTfidf w p := by
  simp only [usesTfidf, h.provider]

/-- Away from `"tfidf"`, what fits depends only on the name and the model. -/
theorem fits_of_keeps {p q : EmbeddingProvider} (h : Keeps p q) (ht : usesTfidf w p = false) :
    Fits w q = Fits w p := by
  funext v
  simp [Fits, usesOpenai_of_keeps w h, usesTfidf_of_keeps w h, h.model, ht]

theorem keeps_step (p : EmbeddingProvider) (c : Call) : Keeps p (step w p c).1 := by
  cases c with
  | embedText text =>
    obtain ⟨n, hn⟩ := embedText_fst w p text
    simp only [step, hn]
    exact ⟨rfl, rfl, fun _ h => h⟩
  | embedTexts texts =>
    by_cases ht : usesTfidf w p = true
    · simp only [step, embedTexts, if_pos ht, tfidfEmbedBatch]
      rcases hf : p.fitted with _ | vz
      · rcases w.fit texts with e | vz
        · exact Keeps.refl p
        · exact ⟨rfl, rfl, fun _ h => by simp [hf] at h⟩
      · exact Keeps.refl p
    · obtain ⟨⟨n, hn⟩, -⟩ := embedEach_spec w p texts
      simp only [step, embedTexts, if_neg ht, hn]
      exact ⟨rfl, rfl, fun _ h => h⟩

/-- Away from `"tfidf"`, every vector of a run fits the provider it started from. -/
theorem runCalls_fits_of_not_tfidf {p : EmbeddingProvider} (ht : usesTfidf w p = false)
    (cs : List Call) : ∀ v ∈ (runCalls w p cs).2, Fits w p v := by
  induction cs generalizing p with
  | nil => simp [runCalls]
  | cons c cs ih =>
    have hk := keeps_step w p c
    rw [← fits_of_keeps w hk ht]
    intro v hv
    rcases List.mem_append.mp hv with hv | hv
    · exact step_fits w p c v hv
    · exact ih (by rw [usesTfidf_of_keeps w hk, ht]) v hv

/-- Once fitted, a `"tfidf"` provider keeps its vectorizer and answers with its length. -/
theorem runCalls_of_fitted {p : EmbeddingProvider} {vz : Vectorizer} (ht : usesTfidf w p = true)
    (hf : p.fitted = some vz) (cs : List Call) :
    (runCalls w p cs).1.fitted = some vz ∧ ∀ v ∈ (runCalls w p cs).2, v.length = vz.vocabSize := by
  induction cs generalizing p with
  | nil => exact ⟨hf, by simp [runCalls]⟩
  | cons c cs ih =>
    have hk := keeps_step w p c
    have ht' : usesTfidf w (step w p c).1 = true := by rw [usesTfidf_of_keeps w hk, ht]
    have hf' := hk.fitted vz hf
    obtain ⟨hend, hrest⟩ := ih ht' hf'
    refine ⟨hend, fun v hv => ?_⟩
    rcases List.mem_append.mp hv with hv | hv
    · simpa [hf'] using (fits_of_usesTfidf w ht').mp (step_fits w p c v hv)
    · exact hrest v hv

/-- A `"tfidf"` provider that is not fitted yet answers with mock vectors until a call
fits it, and with its vocabulary's length from then on. -/
theorem runCalls_of_unfitted {p : EmbeddingProvider} (ht : usesTfidf w p = true)
    (hf : p.fitted = none) (cs : List Call) :
    ∃ pre post, (runCalls w p cs).2 = pre ++ post ∧ (∀ v ∈ pre, v.length = 384) ∧
      ∀ v ∈ post, ∃ vz, (runCalls w p cs).1.fitted = some vz ∧ v.length = vz.vocabSize := by
  induction cs generalizing p with
  | nil => exact ⟨[], [], rfl, by simp, by simp⟩
  | cons c cs ih =>
    have hk := keeps_step w p c
    have ht' : usesTfidf w (step w p c).1 = true := by rw [usesTfidf_of_keeps w hk, ht]
    have hstep := fun v hv => (fits_of_usesTfidf w ht').mp (step_fits w p c v hv)
    rcases hf' : (step w p c).1.fitted with _ | vz
    · obtain ⟨pre, post, h, hpre, hpost⟩ := ih ht' hf'
      refine ⟨(step w p c).2 ++ pre, post, by rw [runCalls, h, List.append_assoc], fun v hv => ?_,
        hpost⟩
      rcases List.mem_append.mp hv with hv | hv
      · simpa [hf'] using hstep v hv
      · exact hpre v hv
    · obtain ⟨hend, hrest⟩ := runCalls_of_fitted w ht' hf' cs
      refine ⟨[], _, rfl, by simp, fun v hv => ⟨vz, hend, ?_⟩⟩
      rcases List.mem_append.mp hv with hv | hv
      · simpa [hf'] using hstep v hv
      · exact hrest v hv

theorem usesTfidf_eq_false_of_usesOpenai {p : EmbeddingProvider} (ho : usesOpenai w p = true) :
    usesTfidf w p = false := by
  simp only [usesOpenai, Bool.and_eq_true, beq_iff_eq] at ho
  simp only [usesTfidf, ho.1]
  rfl

/-- What a call returns once the vectorizer `vz` is fitted: every text goes through it. -/
def answerWith (vz : Vectorizer) : Call → List (List Float)
  | .embedText text => [vz.transform text]
  | .embedTexts texts => texts.map vz.transform

/-- What a call returns from a `"tfidf"` provider that is not fitted, when the call does not
fit it: the mock vector for one text, nothing for a batch whose fit raised. -/
def mockAnswer : Call → List (List Float)
  | .embedText text => match mockEmbed w text with
    | .ok v => [v]
    | .error _ => []
  | .embedTexts _ => []

/-- A run is the run of its first calls followed by the run of the rest. -/
theorem runCalls_append (p : EmbeddingProvider) :
    ∀ xs ys : List Call, runCalls w p (xs ++ ys) =
      ((runCalls w (runCalls w p xs).1 ys).1,
        (runCalls w p xs).2 ++ (runCalls w (runCalls w p xs).1 ys).2)
  | [], _ => rfl
  | c :: xs, ys => by
    rw [List.cons_append, runCalls, runCalls, runCalls_append (step w p c).1 xs ys,
      List.append_assoc]

/-- A fitted `"tfidf"` provider answers every call with its vectorizer, and keeps it. -/
theorem runCalls_eq_of_fitted {p : EmbeddingProvider} {vz : Vectorizer}
    (ht : usesTfidf w p = true) (hf : p.fitted = some vz) :
    ∀ cs, runCalls w p cs = (p, cs.flatMap (answerWith vz))
  | [] => rfl
  | c :: cs => by
    have hstep : step w p c = (p, answerWith vz c) := by
      cases c <;> simp [step, embedText, embedTexts, usesOpenai_eq_false_of_usesTfidf w ht, ht,
        tfidfEmbed, tfidfEmbedBatch, hf, answerWith]
    rw [runCalls, hstep, runCalls_eq_of_fitted ht hf cs]
    rfl

/-- A `"tfidf"` provider that is not fitted, over calls whose batches all fail to fit, answers
with the mock vector and stays as it is. -/
theorem runCalls_eq_of_unfitted {p : EmbeddingProvider} (ht : usesTfidf w p = true)
    (hf : p.fitted = none) :
    ∀ cs, (∀ texts, Call.embedTexts texts ∈ cs → ∃ e, w.fit texts = .error e) →
      runCalls w p cs = (p, cs.flatMap (mockAnswer w))
  | [], _ => rfl
  | c :: cs, hfail => by
    have hstep : step w p c = (p, mockAnswer w c) := by
      cases c with
      | embedText text =>
        simp only [step, embedText, usesOpenai_eq_false_of_usesTfidf w ht, ht, tfidfEmbed, hf,
          mockAnswer, if_true, Bool.false_eq_true, if_false]
      | embedTexts texts =>
        obtain ⟨e, he⟩ := hfail texts (List.mem_cons_self _ _)
        simp [step, embedTexts, ht, tfidfEmbedBatch, hf, he, mockAnswer]
    rw [runCalls, hstep, runCalls_eq_of_unfitted ht hf cs fun t ht' => hfail t (.tail _ ht')]
    rfl

/-- **First fit wins.** Over any calls to a fresh `"tfidf"` provider with scikit-learn: while
no batch has fitted the vectorizer, a single text gets the mock vector and a batch whose fit
raises gets nothing. The first batch whose fit succeeds fits the vectorizer and is answered
by it; every later call, later batches included, is answered by that same vectorizer, which
is never fitted again. -/
theorem runCalls_first_fit_wins (model : Option PyStr) (hsk : w.deps.hasSklearn = true)
    (calls : List Call) :
    ((∀ texts, Call.embedTexts texts ∈ calls → ∃ e, w.fit texts = .error e) →
      runCalls w (init "tfidf".toList model) calls =
        (init "tfidf".toList model, calls.flatMap (mockAnswer w))) ∧
    ∀ pre batch post vz, calls = pre ++ Call.embedTexts batch :: post →
      (∀ texts, Call.embedTexts texts ∈ pre → ∃ e, w.fit texts = .error e) →
      w.fit batch = .ok vz →
      runCalls w (init "tfidf".toList model) calls =
        ({ init "tfidf".toList model with fitted := some vz },
          pre.flatMap (mockAnswer w) ++ batch.map vz.transform ++
            post.flatMap (answerWith vz)) := by
  have ht : usesTfidf w (init "tfidf".toList model) = true := by simp [usesTfidf, init, hsk]
  refine ⟨runCalls_eq_of_unfitted w ht rfl calls, fun pre batch post vz hcalls hpre hfit => ?_⟩
  subst hcalls
  have hfitStep : step w (init "tfidf".toList model) (.embedTexts batch) =
      ({ init "tfidf".toList model with fitted := some vz }, batch.map vz.transform) := by
    simp only [step, embedTexts, ht, if_true, tfidfEmbedBatch]
    simp [init, hfit]
  have ht' : usesTfidf w { init "tfidf".toList model with fitted := some vz } = true := ht
  rw [runCalls_append, runCalls_eq_of_unfitted w ht rfl pre hpre, runCalls, hfitStep,
    runCalls_eq_of_fitted w ht' rfl post, List.append_assoc]

end EmbeddingProvider

open EmbeddingProvider

/-- A service that answers the first request with a vector of length `3` and fails from
then on, with numpy installed and scikit-learn not. -/
def flakyService : EmbedWorld where
  deps := ⟨true, true, false, fun _ => rfl⟩
  openai n _ _ := if n = 0 then .ok [1.0, 0.0, 0.0] else .error ⟨"APIError".toList⟩
  dim _ := 3
  length_openai n _ _ v h := by
    by_cases hn : n = 0
    · simp only [hn, if_true, Except.ok.injEq] at h
      rw [← h]
      rfl
    · simp [hn] at h
  fit _ := .error ⟨"ValueError".toList⟩
  hash _ := 0
  normal _ size := List.replicate size 0.0
  length_normal _ size := List.length_replicate size 0.0

/-- A world with scikit-learn whose vectorizer learns one term per text of the batch it is
fitted on. -/
def growingVocabulary : EmbedWorld where
  deps := ⟨false, true, true, fun _ => rfl⟩
  openai _ _ _ := .error ⟨"ImportError".toList⟩
  dim _ := 0
  length_openai _ _ _ _ h := by cases h
  fit texts := .ok ⟨texts.length, fun _ => List.replicate texts.length 1.0,
    fun _ => List.length_replicate _ _⟩
  hash _ := 0
  normal _ size := List.replicate size 0.0
  length_normal _ size := List.length_replicate size 0.0

/-- **Not last-fit-wins.** A one-text batch fits a one-term vectorizer; a later batch of two
texts is not fitted on, so it and the text after it still get one-term vectors, where a
refit would have given two. -/
theorem runCalls_second_batch_not_fitted :
    (runCalls growingVocabulary (init "tfidf".toList none)
        [.embedTexts ["a".toList], .embedTexts ["b".toList, "c".toList],
          .embedText "d".toList]).2.map List.length = [1, 1, 1, 1] ∧
      ((runCalls growingVocabulary (init "tfidf".toList none)
        [.embedTexts ["a".toList], .embedTexts ["b".toList, "c".toList],
          .embedText "d".toList]).1.fitted.map (·.vocabSize)) = some 1 := by
  decide

theorem runCalls_first_fit_wins_growing :
    growingVocabulary.deps.hasSklearn = true ∧
      ((∀ texts, Call.embedTexts texts ∈ [Call.embedTexts ["a".toList]] →
          ∃ e, growingVocabulary.fit texts = .error e) →
        runCalls growingVocabulary (init "tfidf".toList none) [Call.embedTexts ["a".toList]] =
          (init "tfidf".toList none,
            [Call.embedTexts ["a".toList]].flatMap (mockAnswer growingVocabulary))) ∧
      ∀ pre batch post vz, [Call.embedTexts ["a".toList]] = pre ++ Call.embedTexts batch :: post →
        (∀ texts, Call.embedTexts texts ∈ pre → ∃ e, growingVocabulary.fit texts = .error e) →
        growingVocabulary.fit batch = .ok vz →
        runCalls growingVocabulary (init "tfidf".toList none) [Call.embedTexts ["a".toList]] =
          ({ init "tfidf".toList none with fitted := some vz },
            pre.flatMap (mockAnswer growingVocabulary) ++ batch.map vz.transform ++
              post.flatMap (answerWith vz)) :=
  ⟨rfl, runCalls_first_fit_wins growingVocabulary none rfl _⟩

end KotaRag
