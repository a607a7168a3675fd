import KotaRag.Chunker.Defs
import Mathlib.Data.List.Chain

/-!
# `_clean_content`

`_clean_content` runs two regular-expression passes and a `strip`: every run of whitespace
becomes one space (`subWhitespaceRuns`), then every code point of `[\x00-\x1f\x7f]` is
deleted. The order matters. The first pass turns every whitespace code point into a single
space, the control code points among them included; a control code point that is not
whitespace survives it, and deleting it afterwards can bring two spaces together:

* `cleanContent_double_space` — `'a \x00 b'` cleans to `'a  b'`, which cleans again to
  `'a b'`;
* `cleanContent_normal_form` — what does hold for every string: no control code point is
  left, nor whitespace at either end; and when every control code point of the input is
  whitespace, no two whitespace code points are neighbours and cleaning again changes
  nothing.
-/

namespace KotaRag

/-- No two neighbouring code points are both whitespace. -/
def NoDoubleSpace (s : PyStr) : Prop :=
  s.Chain' fun a b => isPySpace a = false ∨ isPySpace b = false

/-! ## The whitespace pass -/

/-- A code point of the first pass's output is a space it wrote, or a non-whitespace code
point of the input. -/
theorem mem_subWhitespaceRuns {c : Char} :
    ∀ {inRun : Bool} {s : PyStr}, c ∈ subWhitespaceRuns inRun s →
      c = ' ' ∨ (c ∈ s ∧ isPySpace c = false)
  | _, [], h => by simp [subWhitespaceRuns] at h
  | inRun, d :: s, h => by
    unfold subWhitespaceRuns at h
    by_cases hd : isPySpace d = true
    · rw [if_pos hd] at h
      have key : c ∈ subWhitespaceRuns true s → c = ' ' ∨ (c ∈ d :: s ∧ isPySpace c = false) :=
        fun h' => (mem_subWhitespaceRuns h').imp_right fun ⟨hc, hsp⟩ => ⟨.tail _ hc, hsp⟩
      cases inRun
      · rcases List.mem_cons.mp h with rfl | h
        · exact .inl rfl
        · exact key h
      · exact key h
    · rw [if_neg hd] at h
      rcases List.mem_cons.mp h with rfl | h
      · exact .inr ⟨List.mem_cons_self _ _, by simpa using hd⟩
      · exact (mem_subWhitespaceRuns h).imp_right fun ⟨hc, hsp⟩ => ⟨.tail _ hc, hsp⟩

/-- The first pass leaves no two whitespace code points side by side, and after a
whitespace code point (`inRun`) it does not start with one. -/
theorem subWhitespaceRuns_noDoubleSpace :
    ∀ (inRun : Bool) (s : PyStr), NoDoubleSpace (subWhitespaceRuns inRun s) ∧
      (inRun = true → ∀ c ∈ (subWhitespaceRuns inRun s).head?, isPySpace c = false)
  | _, [] => ⟨List.chain'_nil, by simp [subWhitespaceRuns]⟩
  | inRun, d :: s => by
    obtain ⟨ihT, ihT'⟩ := subWhitespaceRuns_noDoubleSpace true s
    obtain ⟨ihF, -⟩ := subWhitespaceRuns_noDoubleSpace false s
    unfold subWhitespaceRuns
    by_cases hd : isPySpace d = true
    · rw [if_pos hd]
      cases inRun
      · -- the run's one space, followed by what comes after the run
        refine ⟨List.chain'_cons'.mpr ⟨fun c hc => .inr (ihT' rfl c hc), ihT⟩, by simp⟩
      · exact ⟨ihT, ihT'⟩
    · rw [if_neg hd]
      have hd' : isPySpace d = false := by simpa using hd
      exact ⟨List.chain'_cons'.mpr ⟨fun _ _ => .inl hd', ihF⟩, fun _ c hc => by
        simp only [List.head?_cons, Option.mem_def, Option.some.injEq] at hc
        exact hc ▸ hd'⟩

/-- **The first pass fixes normal text.** A text whose whitespace code points are single
spaces, none next to another, comes out of the first pass unchanged; after a whitespace code
point, it must also not start with one. -/
theorem subWhitespaceRuns_of_normal :
    ∀ {t : PyStr}, NoDoubleSpace t → (∀ c ∈ t, isPySpace c = true → c = ' ') →
      ∀ inRun : Bool, (inRun = true → ∀ c ∈ t.head?, isPySpace c = false) →
        subWhitespaceRuns inRun t = t
  | [], _, _, _, _ => rfl
  | c :: t, hnd, hsp, inRun, hhead => by
    obtain ⟨hc, ht⟩ := List.chain'_cons'.mp hnd
    have hsp' : ∀ d ∈ t, isPySpace d = true → d = ' ' := fun d hd => hsp d (.tail _ hd)
    unfold subWhitespaceRuns
    by_cases hcs : isPySpace c = true
    · -- a single space: the next code point is not whitespace, and the space stays
      have hin : inRun = false := by
        cases inRun
        · rfl
        · simp [hhead rfl c rfl] at hcs
      have hnext : ∀ d ∈ t.head?, isPySpace d = false := fun d hd =>
        (hc d hd).resolve_left (by simp [hcs])
      rw [if_pos hcs, hin, if_neg Bool.false_ne_true,
        subWhitespaceRuns_of_normal ht hsp' true fun _ => hnext,
        hsp c (List.mem_cons_self _ _) hcs]
    · rw [if_neg hcs, subWhitespaceRuns_of_normal ht hsp' false (by simp)]

/-! ## `_clean_content` -/

/-- The code points `cleanContent` keeps are those of the first pass, minus the control
ones. -/
theorem mem_cleanContent {s : PyStr} {c : Char} (h : c ∈ cleanContent s) :
    c ∈ subWhitespaceRuns false s ∧ isControl c = false := by
  simpa using (pyStrip_isInfix_self _).subset h

/-- The whitespace code points of a cleaned text are spaces. -/
theorem isPySpace_of_mem_cleanContent {s : PyStr} {c : Char} (h : c ∈ cleanContent s)
    (hsp : isPySpace c = true) : c = ' ' := by
  rcases mem_subWhitespaceRuns (mem_cleanContent h).1 with hc | ⟨-, hc⟩
  · exact hc
  · simp [hc] at hsp

/-- When every control code point of the input is whitespace, the second pass deletes
nothing. -/
theorem filter_subWhitespaceRuns {s : PyStr}
    (hctl : ∀ c ∈ s, isControl c = true → isPySpace c = true) :
    (subWhitespaceRuns false s).filter (fun c => !isControl c) = subWhitespaceRuns false s := by
  refine List.filter_eq_self.mpr fun c hc => ?_
  rcases mem_subWhitespaceRuns hc with rfl | ⟨hcs, hsp⟩
  · rfl
  · cases hct : isControl c
    · rfl
    · simp [hctl c hcs hct] at hsp

/-- **What `_clean_content` guarantees.** No control code point is left and no whitespace at
either end. When every control code point of the input is whitespace, no two whitespace code
points are neighbours, and cleaning again changes nothing. -/
theorem cleanContent_normal_form (s : PyStr) :
    (∀ c ∈ cleanContent s, isControl c = false) ∧ pyStrip (cleanContent s) = cleanContent s ∧
      ((∀ c ∈ s, isControl c = true → isPySpace c = true) →
        NoDoubleSpace (cleanContent s) ∧ cleanContent (cleanContent s) = cleanContent s) := by
  refine ⟨fun c hc => (mem_cleanContent hc).2, pyStrip_pyStrip _, fun hctl => ?_⟩
  have hnd : NoDoubleSpace (cleanContent s) := by
    have := (subWhitespaceRuns_noDoubleSpace false s).1
    rw [← filter_subWhitespaceRuns hctl] at this
    exact this.infix (pyStrip_isInfix_self _)
  refine ⟨hnd, ?_⟩
  have hfix := subWhitespaceRuns_of_normal hnd (fun c hc => isPySpace_of_mem_cleanContent hc)
    false (by simp)
  rw [cleanContent, hfix, List.filter_eq_self.mpr fun c hc => by
    simp [(mem_cleanContent hc).2]]
  exact pyStrip_pyStrip _

/-- **A double space survives.** In `'a \x00 b'` the whitespace runs are single spaces, so
the first pass keeps it; deleting `\x00` then joins the two spaces. Cleaning the result
again joins them into one. -/
theorem cleanContent_double_space :
    cleanContent ['a', ' ', Char.ofNat 0, ' ', 'b'] = "a  b".toList ∧
      ¬ NoDoubleSpace (cleanContent ['a', ' ', Char.ofNat 0, ' ', 'b']) ∧
      cleanContent (cleanContent ['a', ' ', Char.ofNat 0, ' ', 'b']) = "a b".toList := by
  have h1 : cleanContent ['a', ' ', Char.ofNat 0, ' ', 'b'] = "a  b".toList := by decide
  have hsp : isPySpace ' ' = true := by decide
  refine ⟨h1, ?_, by rw [h1]; decide⟩
  rw [h1]
  simp [NoDoubleSpace, hsp]

end KotaRag
