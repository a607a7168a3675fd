import KotaRag.Search

/-!
# Answering: `generate_answer` and `_generate_fallback_answer`

`RAGPipeline.generate_answer(question, context_docs)` (lines 338-370 of `rag_demo.py`)
retrieves documents when none are given, then builds its reply in two passes over them:

* every document whose stripped `content` is non-empty contributes an entry
  `From '<title>':\n<content>` and its title (`contextParts`);
* the context is the `"\n\n"`-join of the first three entries only, and the sources are the
  set of all the titles;
* the answer comes from the chat service when `openai` imported and an API key is set, and
  from the extractive `_generate_fallback_answer` otherwise, or when the service raises.

`_generate_fallback_answer` (lines 479-505) splits the context on runs of `.`, `!`, `?`,
keeps the stripped pieces of at least ten code points, scores each by the number of words
it shares with the question, and answers with the first piece of highest positive score.

* `generateAnswer_some` — with the documents given, the context is the join of the entries
  of the first three with content, whatever `max_context_length` says, and the sources are
  the titles of all of them;
* `generateFallbackAnswer_spec` — the fallback answer is the first sentence of largest
  positive overlap, or one of two fixed messages;
* `askQuestion_eq_generateAnswer` — `ask_question` is `generate_answer` with no documents
  given.
-/

namespace KotaRag

/-- The request `_generate_openai_answer` sends to `openai.ChatCompletion.create`. -/
structure ChatRequest where
  /-- `model` -/
  model : PyStr
  /-- the content of the one user message -/
  prompt : PyStr
  /-- `temperature` -/
  temperature : Float
  /-- `max_tokens` -/
  maxTokens : Nat

/-- What answering calls outside the pipeline: the retrieval world, the environment, the
chat service and `str.lower`. -/
structure AnswerWorld (σ : Type) extends SearchWorld σ where
  /-- `os.getenv('OPENAI_API_KEY')` -/
  openaiApiKey : Option PyStr
  /-- `response.choices[0].message.content` of a chat request, or the exception it raises -/
  chat : ChatRequest → Except PyErr PyStr
  /-- `str.lower`, Unicode case mapping -/
  lower : PyStr → PyStr

/-- The dict `generate_answer` returns. -/
structure Answer where
  /-- `'answer'` -/
  answer : PyStr
  /-- `'context_used'` -/
  contextUsed : PyStr
  /-- `'sources'`: `list(set(sources))`, kept as the set; the list's order is the set's
  iteration order, which Python's string hashing fixes -/
  sources : Finset PyStr
  /-- `'context_docs_count'` -/
  contextDocsCount : Nat

/-- The reply to a blank context. -/
def noInformationMessage : PyStr :=
  "I don't have enough information in the knowledge base to answer this question.".toList

/-- The reply when no sentence shares a word with the question. -/
def relatedMessage : PyStr :=
  ("The knowledge base contains related information, but I cannot generate a specific " ++
    "answer without AI capabilities.").toList

/-- The label before an extracted sentence. -/
def answerLabel : PyStr := "Based on the knowledge base: ".toList

/-- The class of `r'[.!?]+'`. -/
def isSentencePunct (c : Char) : Bool := c == '.' || c == '!' || c == '?'

/-- `set(text.lower().split())` -/
def wordSet (lower : PyStr → PyStr) (text : PyStr) : Finset PyStr := (pySplit (lower text)).toFinset

/-- `f"From '{title}':\n{content}"` -/
def contextEntry (title content : PyStr) : PyStr :=
  "From '".toList ++ title ++ "':\n".toList ++ content

/-- The prompt of `_generate_openai_answer`. -/
def answerPrompt (question context : PyStr) : PyStr :=
  ("Based on the following context, please answer the question. If the context doesn't " ++
    "contain enough information, say so.\n\nContext:\n").toList ++ context ++
    "\n\nQuestion: ".toList ++ question ++ "\n\nAnswer:".toList

/-- The loop of `generate_answer` over `context_docs` (lines 350-357): the entry and the
title of each document whose stripped content is non-empty. -/
def contextParts {σ : Type} (contextDocs : List (Scored σ)) : List (PyStr × PyStr) :=
  contextDocs.filterMap fun docInfo =>
    let content := pyStrip (docInfo.document.content.getD [])
    let title := docInfo.document.title.getD "Unknown".toList
    if content.isEmpty then none else some (contextEntry title content, title)

/-- Each reported title is the title of one of the documents, `"Unknown"` when it has none. -/
theorem mem_contextParts {σ : Type} {contextDocs : List (Scored σ)} {x : PyStr × PyStr}
    (h : x ∈ contextParts contextDocs) :
    ∃ d ∈ contextDocs, x.2 = d.document.title.getD "Unknown".toList := by
  obtain ⟨d, hd, hx⟩ := List.mem_filterMap.mp h
  refine ⟨d, hd, ?_⟩
  simp only [Option.ite_none_left_eq_some, Option.some.injEq] at hx
  rw [← hx.2]

/-- The candidate sentences of a context: the stripped pieces of `re.split(r'[.!?]+', context)`
of at least ten code points, in context order. -/
def candidateSentences (context : PyStr) : List PyStr :=
  ((reSplitRuns isSentencePunct context).map pyStrip).filter fun s => 10 ≤ s.length

/-- The overlap score of a sentence: how many words, lowered, it shares with the question. -/
def overlapScore (lower : PyStr → PyStr) (question sentence : PyStr) : Nat :=
  (wordSet lower question ∩ wordSet lower sentence).card

/-- Ranking the records of positive score, largest first and stably: the head is the first
record of largest score, and that score is positive. -/
theorem sortByKeyDesc_positive_eq_cons {α : Type} {score : α → Nat} {l : List α} {s : α} {n : Nat}
    {rest : List (α × Nat)}
    (h : sortByKeyDesc (·.2)
      (l.filterMap fun x => if 0 < score x then some (x, score x) else none) = (s, n) :: rest) :
    0 < score s ∧ ∃ pre post, l = pre ++ s :: post ∧ (∀ t ∈ pre, score t < score s) ∧
      ∀ t ∈ post, score t ≤ score s := by
  obtain ⟨preB, postB, hB, hpre, hpost⟩ := sortByKeyDesc_eq_cons _ h
  obtain ⟨l₁, l₂, rfl, h₁, h₂⟩ := List.filterMap_eq_append_iff.mp hB
  obtain ⟨m₁, a, m₂, rfl, hm₁, ha, h₃⟩ := List.filterMap_eq_cons_iff.mp h₂
  -- the head comes from a record `a` of positive score, which is `s`
  have hpos : 0 < score a := by
    by_contra hn
    simp [hn] at ha
  simp only [if_pos hpos, Option.some.injEq, Prod.mk.injEq] at ha
  obtain ⟨rfl, rfl⟩ := ha
  -- a record of positive score is ranked; one of score `0` is below `s` anyway
  have ranked : ∀ L : List α, ∀ t ∈ L, 0 < score t →
      (t, score t) ∈ L.filterMap fun x => if 0 < score x then some (x, score x) else none :=
    fun L t ht htp => List.mem_filterMap.mpr ⟨t, ht, by simp [htp]⟩
  refine ⟨hpos, l₁ ++ m₁, m₂, by simp, fun t ht => ?_, fun t ht => ?_⟩
  · by_cases htp : 0 < score t
    · rcases List.mem_append.mp ht with ht | ht
      · exact hpre _ (h₁ ▸ ranked l₁ t ht htp)
      · simpa [htp] using hm₁ t ht
    · omega
  · by_cases htp : 0 < score t
    · exact hpost _ (h₃ ▸ ranked m₂ t ht htp)
    · omega

namespace RAGPipeline

variable {σ : Type} (w : AnswerWorld σ)

/-- The loop of `_generate_fallback_answer` over the context's sentences (lines 489-498): each
stripped piece of at least ten code points that shares a word with the question, with the
number of words it shares. -/
def bestSentences (question context : PyStr) : List (PyStr × Nat) :=
  let questionWords := wordSet w.lower question
  (reSplitRuns isSentencePunct context).filterMap fun sentence =>
    let sentence := pyStrip sentence
    if sentence.length < 10 then none
    else
      let overlap := (questionWords ∩ wordSet w.lower sentence).card
      if 0 < overlap then some (sentence, overlap) else none

/-- `_generate_fallback_answer(question, context)`. -/
def generateFallbackAnswer (question context : PyStr) : PyStr :=
  if (pyStrip context).isEmpty then noInformationMessage
  else
    match sortByKeyDesc (·.2) (bestSentences w question context) with
    | (sentence, _) :: _ => answerLabel ++ sentence
    | [] => relatedMessage

/-- `_generate_openai_answer(question, context)`: the stripped reply, or the fallback answer
when the request raises. -/
def generateOpenaiAnswer (config : RAGConfig) (question context : PyStr) : PyStr :=
  match w.chat ⟨config.completionModel, answerPrompt question context, config.temperature, 500⟩ with
  | .ok content => pyStrip content
  | .error _ => generateFallbackAnswer w question context

/-- `generate_answer(question, context_docs)`: the pipeline after it (retrieval may have sent
a request), and the reply. -/
def generateAnswer [OfScientific σ] (p : RAGPipeline) (question : PyStr)
    (contextDocs : Option (List (Scored σ))) : RAGPipeline × Answer :=
  let retrieved : RAGPipeline × List (Scored σ) := match contextDocs with
    | some docs => (p, docs)
    | none => semanticSearch w.toSearchWorld p question none
  let parts := contextParts retrieved.2
  -- `context_parts[:3]`
  let context := "\n\n".toList.intercalate ((parts.map (·.1)).take 3)
  let answer :=
    if w.deps.hasOpenai && !(w.openaiApiKey.getD []).isEmpty then
      generateOpenaiAnswer w retrieved.1.config question context
    else generateFallbackAnswer w question context
  (retrieved.1, ⟨answer, context, (parts.map (·.2)).toFinset, retrieved.2.length⟩)

/-- `ask_question(question)`: `semantic_search(question)`, then `generate_answer` on what it
found; the progress lines it prints are left out. -/
def askQuestion [OfScientific σ] (p : RAGPipeline) (question : PyStr) :
    RAGPipeline × Answer :=
  let retrieved : RAGPipeline × List (Scored σ) := semanticSearch w.toSearchWorld p question none
  generateAnswer w retrieved.1 question (some retrieved.2)

/-! ## The fallback answer -/

/-- The loop keeps the candidate sentences that share a word with the question. -/
theorem bestSentences_eq (question context : PyStr) :
    bestSentences w question context =
      (candidateSentences context).filterMap fun s =>
        if 0 < overlapScore w.lower question s then some (s, overlapScore w.lower question s)
        else none := by
  rw [bestSentences, candidateSentences, List.filterMap_filter, List.filterMap_map]
  congr 1
  funext piece
  by_cases h : (pyStrip piece).length < 10
  · simp [h, Nat.not_le.mpr h]
  · simp [h, Nat.le_of_not_lt h, overlapScore]

/-- **The extractive answer.** A blank context gets the fixed `insufficient information`
reply. Otherwise, when no candidate sentence shares a word with the question, the fixed
`related but unanswerable` reply comes back; and when one does, the answer is the label
followed by the first candidate of largest overlap. -/
theorem generateFallbackAnswer_spec (question context : PyStr) :
    (pyStrip context = [] → generateFallbackAnswer w question context = noInformationMessage) ∧
    (pyStrip context ≠ [] →
      (∀ s ∈ candidateSentences context, overlapScore w.lower question s = 0) →
        generateFallbackAnswer w question context = relatedMessage) ∧
    (pyStrip context ≠ [] →
      (∃ s ∈ candidateSentences context, 0 < overlapScore w.lower question s) →
        ∃ pre s post, candidateSentences context = pre ++ s :: post ∧
          (∀ t ∈ pre, overlapScore w.lower question t < overlapScore w.lower question s) ∧
          (∀ t ∈ post, overlapScore w.lower question t ≤ overlapScore w.lower question s) ∧
          generateFallbackAnswer w question context = answerLabel ++ s) := by
  refine ⟨fun h => by simp [generateFallbackAnswer, h], fun h => ?_, fun h => ?_⟩ <;>
    simp only [generateFallbackAnswer, List.isEmpty_iff, h, if_false, bestSentences_eq]
  · intro hzero
    split
    · rename_i s n rest hsort
      obtain ⟨hpos, pre, post, hcand, -, -⟩ := sortByKeyDesc_positive_eq_cons hsort
      have := hzero s (by rw [hcand]; simp)
      omega
    · rfl
  · rintro ⟨s₀, hs₀, hpos₀⟩
    split
    · rename_i s n rest hsort
      obtain ⟨-, pre, post, hcand, hpre, hpost⟩ := sortByKeyDesc_positive_eq_cons hsort
      exact ⟨pre, s, post, hcand, hpre, hpost, rfl⟩
    · rename_i hsort
      have := List.filterMap_eq_nil_iff.mp ((sortByKeyDesc_eq_nil_iff _).mp hsort) s₀ hs₀
      simp [hpos₀] at this

/-! ## The context and the sources -/

section Reply

variable [OfScientific σ] (p : RAGPipeline) (question : PyStr)
  (docs : List (Scored σ))

/-- With the documents given, `generate_answer` leaves the pipeline alone, joins the first
three entries, and reports every title. -/
theorem generateAnswer_some :
    (generateAnswer w p question (some docs)).1 = p ∧
      (generateAnswer w p question (some docs)).2.contextUsed =
        "\n\n".toList.intercalate (((contextParts docs).map (·.1)).take 3) ∧
      (generateAnswer w p question (some docs)).2.sources =
        ((contextParts docs).map (·.2)).toFinset :=
  ⟨rfl, rfl, rfl⟩

/-- `ask_question` is `generate_answer` with no documents given: both retrieve once, with
the configured `max_results`, and answer from what came back, so what is proved of the one
holds of the other. -/
theorem askQuestion_eq_generateAnswer :
    askQuestion w p question = generateAnswer w p question none := rfl

/-- `generate_answer` changes the pipeline only when it retrieves. -/
theorem generateAnswer_fst (contextDocs : Option (List (Scored σ))) :
    (generateAnswer w p question contextDocs).1 = match contextDocs with
      | some _ => p
      | none => (semanticSearch w.toSearchWorld p question none).1 := by
  cases contextDocs <;> rfl

end Reply

/-! ## Examples -/

/-- The retrieval world of the examples, with no API key and a chat service that raises.
`str.lower` maps ASCII letters only, which is Python's on the examples' ASCII text. -/
def demoAnswerWorld : AnswerWorld ℚ :=
  { demoWorld with
    openaiApiKey := none
    chat := fun _ => .error ⟨"APIError".toList⟩
    lower := List.map Char.toLower }

/-- A pipeline over an empty store, with the default configuration. -/
def emptyPipeline : RAGPipeline := init demoWorld.deps (fun _ => .ok []) none

/-- Four documents with content, titled `a` to `d`. -/
def fourDocs : List (Scored ℚ) :=
  ["a", "b", "c", "d"].map fun title => ⟨⟨none, some title.toList, some "KotaDB".toList⟩, 1, none⟩

/-- **A source outside the context.** Of four documents with content, the fourth is reported
as a source, while its entry is not in the context. -/
theorem generateAnswer_source_outside_context :
    "d".toList ∈
        (generateAnswer demoAnswerWorld emptyPipeline "q".toList (some fourDocs)).2.sources ∧
      ¬ contextEntry "d".toList "KotaDB".toList <:+:
        (generateAnswer demoAnswerWorld emptyPipeline "q".toList (some fourDocs)).2.contextUsed := by
  decide

/-- **Over the limit.** With `max_context_length = 10`, one document gives a context of
sixteen code points. -/
theorem generateAnswer_context_over_limit :
    let p : RAGPipeline := { emptyPipeline with config := { maxContextLength := 10 } }
    p.config.maxContextLength <
      ((generateAnswer demoAnswerWorld p "q".toList (some (fourDocs.take 1))).2.contextUsed.length :
        Int) := by
  decide

end RAGPipeline

end KotaRag
