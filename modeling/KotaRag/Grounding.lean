import KotaRag.Requests

/-!
# What an extractive answer quotes

Without the chat service (`openai` missing, or no `OPENAI_API_KEY`), `generate_answer` replies
with `_generate_fallback_answer`, which picks one sentence of the context it built from the
retrieved chunks. This module shows that such a reply only quotes the knowledge base.

* `infix_of_mem_reSplitRuns` — every piece `re.split(r'[.!?]+', s)` returns is a piece of `s`;
* `generateFallbackAnswer_cases` — the fallback reply is the fixed reply to a blank context, the
  fixed reply when no sentence shares a word with the question, or the label followed by a
  candidate sentence;
* `reachable_ask_grounded` — in every reachable knowledge base, the context of
  `ask_question` is the entries of at most three stored chunks with content. The reply says
  it lacks information exactly when there are none; otherwise it is the fixed reply or quotes
  a piece of that context. Since the context puts `From '<title>':` before each chunk, the
  quoted sentence can carry that header (`reachable_ask_grounded_header`).
-/

namespace KotaRag

open RAGPipeline

/-! ## Sentences are pieces of the context -/

section Split

variable {cls : Char → Bool}

/-- The first piece of `re.split` is a prefix of the string, and is empty when the string
starts with a member of the class. -/
theorem head_reSplitRuns : ∀ {s h : PyStr} {t : List PyStr}, reSplitRuns cls s = h :: t →
    h <+: s ∧ ((s.head?.map cls).getD false = true → h = [])
  | [], _, _, hs => by
    cases hs
    exact ⟨List.nil_prefix, fun _ => rfl⟩
  | c :: cs, h, t, hs => by
    unfold reSplitRuns at hs
    by_cases hc : cls c = true
    · rw [if_pos hc] at hs
      split at hs
      · -- a run goes on: the piece before it is the empty one that follows
        rename_i hnext
        obtain rfl := (head_reSplitRuns hs).2 hnext
        exact ⟨List.nil_prefix, fun _ => rfl⟩
      · cases hs
        exact ⟨List.nil_prefix, fun _ => rfl⟩
    · rw [if_neg hc] at hs
      have hhead : (((c :: cs).head?.map cls).getD false = true → h = []) := by
        simp [hc]
      split at hs
      · cases hs
        exact ⟨(List.prefix_cons_inj _).mpr List.nil_prefix, hhead⟩
      · rename_i piece pieces hrest
        cases hs
        exact ⟨(List.prefix_cons_inj _).mpr (head_reSplitRuns hrest).1, hhead⟩

/-- Every piece of `re.split` is a piece of the string. -/
theorem infix_of_mem_reSplitRuns : ∀ {s piece : PyStr}, piece ∈ reSplitRuns cls s → piece <:+: s
  | [], _, hp => List.mem_singleton.mp hp ▸ List.nil_infix
  | c :: cs, piece, hp => by
    have hrest : ∀ p ∈ reSplitRuns cls cs, p <:+: c :: cs := fun p hp =>
      (infix_of_mem_reSplitRuns hp).trans (List.suffix_cons c cs).isInfix
    unfold reSplitRuns at hp
    by_cases hc : cls c = true
    · rw [if_pos hc] at hp
      split at hp
      · exact hrest _ hp
      · rcases List.mem_cons.mp hp with rfl | hp
        · exact List.nil_infix
        · exact hrest _ hp
    · rw [if_neg hc] at hp
      split at hp
      · rw [List.mem_singleton.mp hp]
        exact ((List.prefix_cons_inj _).mpr List.nil_prefix).isInfix
      · rename_i p ps hsplit
        rcases List.mem_cons.mp hp with rfl | hp
        · exact ((List.prefix_cons_inj _).mpr (head_reSplitRuns hsplit).1).isInfix
        · exact hrest _ (hsplit ▸ List.mem_cons_of_mem _ hp)

end Split

/-- Every candidate sentence is a piece of the context. -/
theorem infix_of_mem_candidateSentences {context s : PyStr} (h : s ∈ candidateSentences context) :
    s <:+: context := by
  obtain ⟨piece, hpiece, rfl⟩ := List.mem_map.mp (List.mem_filter.mp h).1
  exact (pyStrip_isInfix_self piece).trans (infix_of_mem_reSplitRuns hpiece)

/-! ## The reply -/

/-- The fallback reply: the fixed reply to a blank context; otherwise the fixed reply when no
sentence shares a word with the question, or the label followed by a candidate sentence. -/
theorem RAGPipeline.generateFallbackAnswer_cases {σ : Type} (w : AnswerWorld σ)
    (question context : PyStr) :
    (pyStrip context = [] ∧ generateFallbackAnswer w question context = noInformationMessage) ∨
      (pyStrip context ≠ [] ∧ (generateFallbackAnswer w question context = relatedMessage ∨
        ∃ s ∈ candidateSentences context,
          generateFallbackAnswer w question context = answerLabel ++ s)) := by
  by_cases hblank : pyStrip context = []
  · exact .inl ⟨hblank, by simp [generateFallbackAnswer, hblank]⟩
  refine .inr ⟨hblank, ?_⟩
  simp only [generateFallbackAnswer, List.isEmpty_iff, hblank, if_false]
  split
  · rename_i s n rest hsort
    -- the head of the ranking is a scored candidate
    have hmem : (s, n) ∈ bestSentences w question context :=
      (perm_sortByKeyDesc _ _).subset (hsort ▸ List.mem_cons_self _ _)
    rw [bestSentences_eq] at hmem
    obtain ⟨t, ht, hts⟩ := List.mem_filterMap.mp hmem
    simp only [Option.ite_none_right_eq_some, Option.some.injEq, Prod.mk.injEq] at hts
    exact .inr ⟨s, hts.2.1 ▸ ht, rfl⟩
  · exact .inl rfl

/-- The context entries of the documents with content, in order. -/
theorem contextParts_fst {σ : Type} (docs : List (Scored σ)) :
    (contextParts docs).map (·.1) =
      (docs.filter fun d => !(pyStrip (d.document.content.getD [])).isEmpty).map fun d =>
        contextEntry (d.document.title.getD "Unknown".toList) (pyStrip (d.document.content.getD [])) := by
  induction docs with
  | nil => rfl
  | cons d docs ih =>
    cases hE : (pyStrip (d.document.content.getD [])).isEmpty
    · simp only [contextParts, List.filterMap_cons, List.filter_cons, hE, Bool.not_false, if_true,
        Bool.false_eq_true, if_false, List.map_cons]
      exact congrArg _ ih
    · simp only [contextParts, List.filterMap_cons, List.filter_cons, hE, Bool.not_true, if_true,
        Bool.false_eq_true, if_false]
      exact ih

/-- The first part of a join is a prefix of it. -/
theorem prefix_intercalate_cons {α : Type} (sep x : List α) (xs : List (List α)) :
    x <+: sep.intercalate (x :: xs) := by
  cases xs with
  | nil => simp [List.intercalate]
  | cons y ys =>
    simp only [List.intercalate, List.intersperse_cons_cons, List.flatten_cons]
    exact List.prefix_append _ _

/-- A join of context entries is blank exactly when there are none: each begins with
`From '`. -/
theorem pyStrip_intercalate_contextEntry_eq_nil_iff {α : Type} (title content : α → PyStr)
    (xs : List α) :
    pyStrip ("\n\n".toList.intercalate (xs.map fun x => contextEntry (title x) (content x))) = [] ↔
      xs = [] := by
  cases xs with
  | nil => simp [List.intercalate]
  | cons x rest =>
    simp only [List.map_cons, reduceCtorEq, iff_false]
    exact pyStrip_ne_nil_of_mem ((prefix_intercalate_cons _ _ _).subset
      (List.mem_append_left _ (List.mem_cons_self 'F' _))) (by decide)

namespace RAGPipeline

variable {σ : Type} [OfScientific σ] (w : AnswerWorld σ) (p : RAGPipeline)
  (question : PyStr)

/-- With the documents given, the context is the entries of the first three documents with
content, each read from the document alone. -/
theorem generateAnswer_contextUsed (docs : List (Scored σ)) :
    (generateAnswer w p question (some docs)).2.contextUsed =
      "\n\n".toList.intercalate
        ((((docs.filter fun d => !(pyStrip (d.document.content.getD [])).isEmpty).take 3).map
          (·.document)).map fun d =>
            contextEntry (d.title.getD "Unknown".toList) (pyStrip (d.content.getD []))) := by
  rw [(generateAnswer_some w p question docs).2.1, contextParts_fst, ← List.map_take, List.map_map]
  rfl

/-- Without the chat service, `generate_answer` replies with the fallback answer on its
context. -/
theorem generateAnswer_answer_of_fallback
    (hfb : w.deps.hasOpenai = false ∨ w.openaiApiKey.getD [] = [])
    (contextDocs : Option (List (Scored σ))) :
    (generateAnswer w p question contextDocs).2.answer =
      generateFallbackAnswer w question (generateAnswer w p question contextDocs).2.contextUsed := by
  have hcond : (w.deps.hasOpenai && !(w.openaiApiKey.getD []).isEmpty) = false := by
    rcases hfb with hfb | hfb <;> simp [hfb]
  simp only [generateAnswer, hcond]
  rfl

end RAGPipeline

/-- A list each of whose members is an image is the image of a list of members. -/
theorem exists_map_eq_of_forall {α β : Type} (f : α → β) {l : List α} (m : List β)
    (h : ∀ b ∈ m, ∃ a ∈ l, b = f a) : ∃ m' : List α, (∀ a ∈ m', a ∈ l) ∧ m'.map f = m := by
  induction m with
  | nil => exact ⟨[], by simp, rfl⟩
  | cons b m ih =>
    obtain ⟨a, ha, rfl⟩ := h b (List.mem_cons_self _ _)
    obtain ⟨m', hm', rfl⟩ := ih fun b hb => h b (List.mem_cons_of_mem _ hb)
    refine ⟨a :: m', fun x hx => ?_, rfl⟩
    rcases List.mem_cons.mp hx with rfl | hx
    exacts [ha, hm' x hx]

section Grounded

variable {σ : Type} [OfScientific σ] (w : PipelineWorld σ)
  (textMatch : PyStr → StoreDoc → Bool) {kb : KnowledgeBase}

/-- **The extractive reply quotes the knowledge base.** Without the chat service, in every
reachable knowledge base, the context `ask_question` builds is the `"\n\n"`-join of the
entries `From '<title> - Chunk <i+1>':\n<content>` of at most three stored chunks whose
content is not blank. The reply says the knowledge base lacks the information exactly when
there is none; otherwise it is the fixed reply for no shared word, or the label followed by a
piece of that context. -/
theorem reachable_ask_grounded (hfb : w.deps.hasOpenai = false ∨ w.openaiApiKey.getD [] = [])
    (h : KnowledgeBase.Reachable textMatch w kb) (question : PyStr) :
    ∃ entries, StoredEntries w kb entries ∧ ∃ used : List ChunkEntry, used.length ≤ 3 ∧
      (∀ e ∈ used, e ∈ entries ∧ pyStrip e.chunk.content ≠ []) ∧
      (askQuestion w.toAnswerWorld (kb.pipeline textMatch) question).2.contextUsed =
        "\n\n".toList.intercalate (used.map fun e =>
          contextEntry (chunkTitle e.title e.index) (pyStrip e.chunk.content)) ∧
      ((used = [] ∧
          (askQuestion w.toAnswerWorld (kb.pipeline textMatch) question).2.answer =
            noInformationMessage) ∨
        (used ≠ [] ∧
          ((askQuestion w.toAnswerWorld (kb.pipeline textMatch) question).2.answer =
              relatedMessage ∨
            ∃ s, (askQuestion w.toAnswerWorld (kb.pipeline textMatch) question).2.answer =
                answerLabel ++ s ∧
              s <:+: (askQuestion w.toAnswerWorld (kb.pipeline textMatch) question).2.contextUsed))) := by
  obtain ⟨entries, hs⟩ := (KBInv.of_reachable w textMatch h).docs
  refine ⟨entries, hs, ?_⟩
  have hret : ∀ r ∈ (semanticSearch w.toSearchWorld (kb.pipeline textMatch) question none).2,
      ∃ e ∈ entries, r.document = e.doc w := fun r hr => hs.retrieved w textMatch hr
  simp only [askQuestion]
  rw [generateAnswer_answer_of_fallback w.toAnswerWorld _ _ hfb]
  generalize semanticSearch w.toSearchWorld (kb.pipeline textMatch) question none = sr at hret ⊢
  -- the documents in the context, the first three retrieved with content, are stored
  have hdocs : ∀ x ∈ ((sr.2.filter fun d => !(pyStrip (d.document.content.getD [])).isEmpty).take
      3).map (·.document), ∃ e ∈ entries, x = e.doc w := fun x hx => by
    obtain ⟨r, hr, rfl⟩ := List.mem_map.mp hx
    exact hret r (List.mem_of_mem_filter (List.mem_of_mem_take hr))
  obtain ⟨used, hused, hmap⟩ := exists_map_eq_of_forall (ChunkEntry.doc w) _ hdocs
  have hctx : (generateAnswer w.toAnswerWorld sr.1 question (some sr.2)).2.contextUsed =
      "\n\n".toList.intercalate (used.map fun e =>
        contextEntry (chunkTitle e.title e.index) (pyStrip e.chunk.content)) := by
    rw [generateAnswer_contextUsed, ← hmap, List.map_map]
    rfl
  have hblank : pyStrip (generateAnswer w.toAnswerWorld sr.1 question (some sr.2)).2.contextUsed =
      [] ↔ used = [] := by
    rw [hctx]
    exact pyStrip_intercalate_contextEntry_eq_nil_iff _ _ used
  refine ⟨used, ?_, fun e he => ⟨hused e he, ?_⟩, hctx, ?_⟩
  · calc used.length = (used.map (ChunkEntry.doc w)).length := (List.length_map _ _).symm
      _ = _ := by rw [hmap, List.length_map]
      _ ≤ 3 := List.length_take_le _ _
  · -- an entry in the context has content
    obtain ⟨r, hr, hre⟩ := List.mem_map.mp (hmap ▸ List.mem_map_of_mem (ChunkEntry.doc w) he)
    have hnb := (List.mem_filter.mp (List.mem_of_mem_take hr)).2
    rw [hre, ChunkEntry.doc_content, Option.getD_some] at hnb
    simpa using hnb
  · rcases generateFallbackAnswer_cases w.toAnswerWorld question
        (generateAnswer w.toAnswerWorld sr.1 question (some sr.2)).2.contextUsed with
      ⟨hb, hno⟩ | ⟨hb, hrel | ⟨s, hmem, hlabel⟩⟩
    · exact .inl ⟨hblank.mp hb, hno⟩
    · exact .inr ⟨mt hblank.mpr hb, .inl hrel⟩
    · exact .inr ⟨mt hblank.mpr hb, .inr ⟨s, hlabel, infix_of_mem_candidateSentences hmem⟩⟩

end Grounded

/-- **The reply quotes the header.** With no API key, after one text is ingested as one chunk,
asking what it stores selects the context's first sentence, which begins with the
`From 'KotaDB - Chunk 1':` header the context put before the chunk, so the reply quotes it. -/
theorem reachable_ask_grounded_header :
    ∃ kb, KnowledgeBase.step anyText openaiWorld 45
        (KnowledgeBase.init anyText openaiWorld.deps none) ingestKotaDB = some kb ∧
      (askQuestion openaiWorld.toAnswerWorld (kb.pipeline anyText)
          "What does KotaDB store?".toList).2.answer =
        answerLabel ++ "From 'KotaDB - Chunk 1':\nKotaDB stores documents".toList ∧
      ∃ entries, StoredEntries openaiWorld kb entries ∧ ∃ used : List ChunkEntry, used.length ≤ 3 ∧
        (∀ e ∈ used, e ∈ entries ∧ pyStrip e.chunk.content ≠ []) ∧
        (askQuestion openaiWorld.toAnswerWorld (kb.pipeline anyText)
            "What does KotaDB store?".toList).2.contextUsed =
          "\n\n".toList.intercalate (used.map fun e =>
            contextEntry (chunkTitle e.title e.index) (pyStrip e.chunk.content)) ∧
        ((used = [] ∧
            (askQuestion openaiWorld.toAnswerWorld (kb.pipeline anyText)
              "What does KotaDB store?".toList).2.answer = noInformationMessage) ∨
          (used ≠ [] ∧
            ((askQuestion openaiWorld.toAnswerWorld (kb.pipeline anyText)
                "What does KotaDB store?".toList).2.answer = relatedMessage ∨
              ∃ s, (askQuestion openaiWorld.toAnswerWorld (kb.pipeline anyText)
                  "What does KotaDB store?".toList).2.answer = answerLabel ++ s ∧
                s <:+: (askQuestion openaiWorld.toAnswerWorld (kb.pipeline anyText)
                  "What does KotaDB store?".toList).2.contextUsed))) :=
  have hs : KnowledgeBase.step anyText openaiWorld 45
      (KnowledgeBase.init anyText openaiWorld.deps none) ingestKotaDB = some _ := rfl
  ⟨_, hs, by decide,
    reachable_ask_grounded openaiWorld anyText (.inr rfl) (.step 45 _ (.init none) hs) _⟩

end KotaRag
