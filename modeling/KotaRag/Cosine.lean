import KotaRag.Search

/-!
# `_cosine_similarity`

Without scikit-learn, `RAGPipeline._cosine_similarity(vec1, vec2)` (lines 427-435 of
`rag_demo.py`) computes the cosine itself: the dot product over `zip(vec1, vec2)`, which stops
at the shorter vector, each magnitude over its whole vector, and `0.0` when either magnitude
is zero. It is written here over any field, with `** 0.5` a parameter; the theorems take the
floats as real numbers and `** 0.5` as the real power.

* `dotProduct_sq_le` — Cauchy–Schwarz for the truncated dot product, by induction over the
  two lists;
* `cosineSimilarity_bounds` — the similarity lies in `[-1, 1]`, is `0` when a magnitude is
  zero, and is `1` for a non-zero vector against itself;
* `semanticSearch_similarity_mem_Icc` — so, when `_cosine_similarity` is this branch, every
  entry `semantic_search` returns has its similarity in `[-1, 1]`, the lexical tier's `0.5`
  included.
-/

namespace KotaRag

/-- `sum(xs)`: Python adds from the left, starting at `0`. -/
def pySum {α : Type} [Add α] [Zero α] (xs : List α) : α := xs.foldl (· + ·) 0

@[simp] theorem pySum_eq_sum {α : Type} [AddMonoid α] (xs : List α) : pySum xs = xs.sum :=
  List.sum_eq_foldl.symm

section Branch

variable {α : Type} [Field α] [DecidableEq α] (powHalf : α → α)

/-- `sum(a * b for a, b in zip(vec1, vec2))` -/
def dotProduct (vec1 vec2 : List α) : α := pySum ((vec1.zip vec2).map fun (a, b) => a * b)

/-- `sum(a * a for a in vec) ** 0.5`, with `** 0.5` given as `powHalf`. -/
def magnitude (vec : List α) : α := powHalf (pySum (vec.map fun a => a * a))

/-- The pure-Python branch of `_cosine_similarity(vec1, vec2)`. -/
def cosineSimilarity (vec1 vec2 : List α) : α :=
  if magnitude powHalf vec1 = 0 ∨ magnitude powHalf vec2 = 0 then 0
  else dotProduct vec1 vec2 / (magnitude powHalf vec1 * magnitude powHalf vec2)

/-- A vector of zeros has magnitude `0` once `** 0.5` sends `0` to `0`, so its similarity
with any vector is `0`. -/
theorem cosineSimilarity_replicate_zero (hp : powHalf 0 = 0) (vec1 : List α) (n : Nat) :
    cosineSimilarity powHalf vec1 (List.replicate n 0) = 0 :=
  if_pos (.inr (by simp [magnitude, hp]))

end Branch

/-! ## Over the reals -/

section Real

/-- `x ** 0.5` on a non-negative real is its square root. -/
theorem magnitude_real (v : List ℝ) :
    magnitude (· ^ (0.5 : ℝ)) v = √((v.map fun a => a * a).sum) := by
  rw [magnitude, pySum_eq_sum, Real.sqrt_eq_rpow]
  norm_num

theorem nonneg_of_mem_map_mul_self {v : List ℝ} {y : ℝ} (hy : y ∈ v.map fun a => a * a) :
    0 ≤ y := by
  obtain ⟨a, -, rfl⟩ := List.mem_map.mp hy
  exact mul_self_nonneg a

theorem sum_mul_self_nonneg (v : List ℝ) : 0 ≤ (v.map fun a => a * a).sum :=
  List.sum_nonneg fun _ => nonneg_of_mem_map_mul_self

theorem magnitude_nonneg (v : List ℝ) : 0 ≤ magnitude (· ^ (0.5 : ℝ)) v := by
  rw [magnitude_real]
  exact Real.sqrt_nonneg _

/-- One more coordinate on both sides keeps the Cauchy–Schwarz inequality: the cross term
`2xyD` is bounded by `x²B + y²A`, since its square is at most `4x²y²AB`. -/
theorem cauchySchwarz_step {x y D A B : ℝ} (hA : 0 ≤ A) (hB : 0 ≤ B) (h : D ^ 2 ≤ A * B) :
    (x * y + D) ^ 2 ≤ (x * x + A) * (y * y + B) := by
  have hsq : (2 * (x * y) * D) ^ 2 ≤ (x * x * B + y * y * A) ^ 2 :=
    calc (2 * (x * y) * D) ^ 2 = 4 * (x * y) ^ 2 * D ^ 2 := by ring
      _ ≤ 4 * (x * y) ^ 2 * (A * B) := by gcongr
      _ = (x * x * B + y * y * A) ^ 2 - (x * x * B - y * y * A) ^ 2 := by ring
      _ ≤ (x * x * B + y * y * A) ^ 2 := sub_le_self _ (sq_nonneg _)
  have hcross : 2 * (x * y) * D ≤ x * x * B + y * y * A :=
    (abs_le_of_sq_le_sq' hsq (add_nonneg (mul_nonneg (mul_self_nonneg x) hB)
      (mul_nonneg (mul_self_nonneg y) hA))).2
  calc (x * y + D) ^ 2 = x * x * (y * y) + 2 * (x * y) * D + D ^ 2 := by ring
    _ ≤ x * x * (y * y) + (x * x * B + y * y * A) + A * B := by gcongr
    _ = (x * x + A) * (y * y + B) := by ring

/-- **Cauchy–Schwarz over `zip`.** The dot product over the shorter length is bounded by the
sums of squares over the whole vectors. -/
theorem dotProduct_sq_le :
    ∀ a b : List ℝ, dotProduct a b ^ 2 ≤ (a.map fun x => x * x).sum * (b.map fun x => x * x).sum
  | [], _ => by simp [dotProduct]
  | _ :: _, [] => by simp [dotProduct]
  | x :: a, y :: b => by
    have ih := dotProduct_sq_le a b
    simp only [dotProduct, pySum_eq_sum] at ih ⊢
    simpa using cauchySchwarz_step (sum_mul_self_nonneg a) (sum_mul_self_nonneg b) ih

/-- The dot product is bounded by the product of the magnitudes. -/
theorem abs_dotProduct_le (a b : List ℝ) :
    |dotProduct a b| ≤ magnitude (· ^ (0.5 : ℝ)) a * magnitude (· ^ (0.5 : ℝ)) b := by
  rw [magnitude_real, magnitude_real, ← Real.sqrt_mul (sum_mul_self_nonneg a)]
  exact Real.abs_le_sqrt (dotProduct_sq_le a b)

/-- A vector against itself: the dot product is the sum of squares. -/
theorem dotProduct_self (v : List ℝ) : dotProduct v v = (v.map fun a => a * a).sum := by
  induction v with
  | nil => rfl
  | cons x v ih => simp_all [dotProduct]

/-- A vector with a non-zero entry has a positive sum of squares. -/
theorem sum_mul_self_pos {v : List ℝ} (h : ∃ x ∈ v, x ≠ 0) : 0 < (v.map fun a => a * a).sum := by
  obtain ⟨x, hx, hx0⟩ := h
  calc 0 < x * x := mul_self_pos.mpr hx0
    _ ≤ (v.map fun a => a * a).sum :=
      List.single_le_sum (fun _ => nonneg_of_mem_map_mul_self) _ (List.mem_map_of_mem _ hx)

/-- The similarity of two real vectors lies in `[-1, 1]`: by Cauchy–Schwarz when both
magnitudes are non-zero, and it is `0` otherwise. -/
theorem cosineSimilarity_mem_Icc (a b : List ℝ) :
    cosineSimilarity (· ^ (0.5 : ℝ)) a b ∈ Set.Icc (-1) 1 := by
  unfold cosineSimilarity
  split_ifs with h0
  · norm_num
  · push_neg at h0
    have hpos : 0 < magnitude (· ^ (0.5 : ℝ)) a * magnitude (· ^ (0.5 : ℝ)) b :=
      mul_pos ((magnitude_nonneg a).lt_of_ne' h0.1) ((magnitude_nonneg b).lt_of_ne' h0.2)
    rw [Set.mem_Icc, ← abs_le, abs_div, abs_of_pos hpos, div_le_one hpos]
    exact abs_dotProduct_le a b

/-- **The pure-Python cosine is a cosine.** Over the reals, for vectors of any lengths, the
similarity lies in `[-1, 1]`; it is `0` when either magnitude is zero; and a vector with a
non-zero entry has similarity `1` with itself. -/
theorem cosineSimilarity_bounds (a b : List ℝ) :
    cosineSimilarity (· ^ (0.5 : ℝ)) a b ∈ Set.Icc (-1) 1 ∧
      (magnitude (· ^ (0.5 : ℝ)) a = 0 ∨ magnitude (· ^ (0.5 : ℝ)) b = 0 →
        cosineSimilarity (· ^ (0.5 : ℝ)) a b = 0) ∧
      (a = b ∧ (∃ x ∈ a, x ≠ 0) → cosineSimilarity (· ^ (0.5 : ℝ)) a b = 1) := by
  refine ⟨cosineSimilarity_mem_Icc a b, fun h => if_pos h, ?_⟩
  rintro ⟨rfl, hnz⟩
  have hpos := sum_mul_self_pos hnz
  have hm : magnitude (· ^ (0.5 : ℝ)) a ≠ 0 := by
    rw [magnitude_real]
    exact (Real.sqrt_pos.mpr hpos).ne'
  rw [cosineSimilarity, if_neg (by simp [hm]), dotProduct_self, magnitude_real,
    Real.mul_self_sqrt hpos.le, div_self hpos.ne']

end Real

/-! ## The similarities `semantic_search` returns -/

namespace RAGPipeline

/-- **Similarities are cosines.** When the world's `_cosine_similarity` is the pure-Python
branch on real vectors, every entry `semantic_search` returns has its similarity in
`[-1, 1]`: a cosine from the semantic tier, or `0.5` from the lexical one. -/
theorem semanticSearch_similarity_mem_Icc (w : SearchWorld ℝ)
    (hcos : ∀ q v s, w.cosine q v = .ok s → ∃ a b : List ℝ,
      s = cosineSimilarity (· ^ (0.5 : ℝ)) a b)
    (p : RAGPipeline) (query : PyStr) (maxResults : Option Int) :
    ∀ r ∈ (semanticSearch w p query maxResults).2, r.similarity ∈ Set.Icc (-1) 1 := by
  intro r hr
  rcases similarity_of_mem_semanticSearch w hr with ⟨q, v, hqv⟩ | h05
  · obtain ⟨a, b, hab⟩ := hcos q v _ hqv
    rw [hab]
    exact cosineSimilarity_mem_Icc a b
  · rw [h05]
    norm_num

theorem semanticSearch_similarity_mem_Icc_ranked :
    (semanticSearch
        ({ demoWorld.toEmbedWorld with
            jsonLoads := demoWorld.jsonLoads
            cosine := fun _ _ => .ok (cosineSimilarity (· ^ (0.5 : ℝ)) [1] [1])
            sortDesc := sortByKeyDesc (·.similarity)
            perm_sortDesc := perm_sortByKeyDesc _ } : SearchWorld ℝ)
        (init demoWorld.deps (fun _ => .ok rankedChunks) none) "KotaDB".toList (some 5)).2.Forall
      fun r => r.similarity ∈ Set.Icc (-1) 1 :=
  List.forall_iff_forall_mem.mpr <| semanticSearch_similarity_mem_Icc _
    (fun _ _ _ h => ⟨[1], [1], (Except.ok.inj h).symm⟩) _ _ _

end RAGPipeline

end KotaRag
