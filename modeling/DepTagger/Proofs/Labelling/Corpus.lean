import DepTagger.Proofs.Labelling.Search

namespace DepTagger

namespace Tree

variable {t : Tree} {g : Tagging}

theorem run_labelFrom_of_applied (h : g.applied = true) (k : Nat) (ps : List Pattern) :
    (t.labelFrom k ps).run g = .ok none g := by
  cases ps with
  | nil => rfl
  | cons p ps => simp [labelFrom, h]

end Tree

namespace Labelled

-- Trying one pattern on a tree, as the corpus loop does, is the first step of the tree's own loop:
-- the rest of its loop ends where the whole did, and their successes add up.
theorem tryPattern_of_labelFrom {x : Labelled} {p : Pattern} {ps : List Pattern} {k : Nat}
    {m : Option Nat} {g : Tagging} (h : (x.tree.labelFrom k (p :: ps)).run x.tagging = .ok m g) :
    ∃ y ok m', x.tryPattern p = .ok (y, ok) ∧ y.tree = x.tree ∧
      (y.tree.labelFrom (k + 1) ps).run y.tagging = .ok m' g ∧
      (if m.isSome then 1 else 0) = (if ok then 1 else 0) + (if m'.isSome then 1 else 0) := by
  by_cases happ : x.tagging.applied
  · -- a tree already done is passed over, by the loop and by its own labelling alike
    rw [Tree.run_labelFrom_of_applied happ] at h
    obtain ⟨rfl, rfl⟩ := (EStateM.Result.ok.injEq _ _ _ _).mp h
    exact ⟨x, false, none, by simp [tryPattern, happ], rfl,
      Tree.run_labelFrom_of_applied happ _ _, rfl⟩
  · simp only [Tree.labelFrom, EStateM.run_bind, EStateM.run_get, happ, Bool.false_eq_true,
      if_false] at h
    cases hrun : (x.tree.apply p).run x.tagging with
    | error f g₁ => simp [hrun] at h
    | ok r g₁ =>
      obtain ⟨ok, out⟩ := r
      have happ₁ := (Tree.apply_ok hrun).2
      have htry : x.tryPattern p = .ok (⟨x.tree, g₁⟩, ok) := by simp [tryPattern, happ, hrun]
      cases ok with
      | true =>
        -- the success sets the flag, so nothing of the loop is left to do
        simp only [hrun, if_true] at h
        obtain ⟨rfl, rfl⟩ := (EStateM.Result.ok.injEq _ _ _ _).mp h
        refine ⟨_, true, none, htry, rfl, Tree.run_labelFrom_of_applied ?_ _ _, rfl⟩
        simp [happ₁]
      | false =>
        simp only [hrun, Bool.false_eq_true, if_false] at h
        exact ⟨⟨x.tree, g₁⟩, false, m, htry, rfl, h, by simp⟩

end Labelled

namespace Corpus

-- A tree with the end of its own loop through the patterns: the position and the tagging.
abbrev Ending := Labelled × Option Nat × Tagging

-- One pattern tried on every tree takes each one step along its own loop.
theorem tryOnAll_of_labelFrom {p : Pattern} {ps : List Pattern} {k : Nat} :
    ∀ (items : List Ending) (count : Nat),
      (∀ i ∈ items, (i.1.tree.labelFrom k (p :: ps)).run i.1.tagging = .ok i.2.1 i.2.2) →
      ∃ (items' : List Ending) (n : Nat),
        tryOnAll p (items.map Prod.fst) count = .ok (items'.map Prod.fst, count + n) ∧
        (∀ i ∈ items', (i.1.tree.labelFrom (k + 1) ps).run i.1.tagging = .ok i.2.1 i.2.2) ∧
        items'.map (fun i => (⟨i.1.tree, i.2.2⟩ : Labelled)) =
          items.map (fun i => ⟨i.1.tree, i.2.2⟩) ∧
        items.countP (·.2.1.isSome) = n + items'.countP (·.2.1.isSome)
  | [], count, _ => ⟨[], 0, rfl, by simp, rfl, rfl⟩
  | i :: items, count, h => by
    obtain ⟨y, ok, m', hy, htree, hrest, hcount⟩ :=
      Labelled.tryPattern_of_labelFrom (h i (by simp))
    obtain ⟨items', n, hall, hrun, hmap, hn⟩ :=
      tryOnAll_of_labelFrom items (if ok then count + 1 else count) fun j hj => h j (by simp [hj])
    refine ⟨(y, m', i.2.2) :: items', n + (if ok then 1 else 0), ?_, ?_, ?_, ?_⟩
    · simp only [List.map_cons, tryOnAll, hy, hall, bind, Except.bind, pure, Except.pure]
      cases ok <;> simp [Nat.add_assoc, Nat.add_comm 1]
    · intro j hj
      rcases List.mem_cons.mp hj with rfl | hj
      · exact hrest
      · exact hrun j hj
    · simp [htree, hmap]
    · simp only [List.countP_cons, hn, hcount]
      omega

-- Trying the patterns tree by tree in the corpus loop ends, for every tree, where the tree's own
-- loop ends, and counts the trees at which it ended at a pattern.
theorem tryEach_of_labelFrom :
    ∀ (ps : List Pattern) (k : Nat) (items : List Ending) (count : Nat),
      (∀ i ∈ items, (i.1.tree.labelFrom k ps).run i.1.tagging = .ok i.2.1 i.2.2) →
      tryEach ps (items.map Prod.fst) count =
        .ok (items.map fun i => ⟨i.1.tree, i.2.2⟩, count + items.countP (·.2.1.isSome))
  | [], k, items, count, h => by
    -- with no pattern left, each tree's loop ends at once, where it is
    have hend : ∀ i ∈ items, i.2 = (none, i.1.tagging) := by
      intro i hi
      have := h i hi
      simp only [Tree.labelFrom, EStateM.run_pure, EStateM.Result.ok.injEq] at this
      exact Prod.ext this.1.symm this.2.symm
    have hmap : items.map (fun i => (⟨i.1.tree, i.2.2⟩ : Labelled)) = items.map Prod.fst :=
      List.map_congr_left fun i hi => by rw [hend i hi]
    have hcount : items.countP (·.2.1.isSome) = 0 :=
      List.countP_eq_zero.mpr fun i hi => by simp [hend i hi]
    rw [hmap, hcount]
    rfl
  | p :: ps, k, items, count, h => by
    obtain ⟨items', n, hall, hrun, hmap, hn⟩ := tryOnAll_of_labelFrom items count h
    simp only [tryEach, hall, bind, Except.bind]
    rw [tryEach_of_labelFrom ps (k + 1) items' (count + n) hrun, hmap, hn, Nat.add_assoc]

end Corpus

namespace Tree

-- Labelling a tree from a fresh tagging is its loop through the built-in patterns from there.
theorem run_label_fresh (t : Tree) :
    t.label.run (Tagging.fresh t.size) =
      (t.labelFrom 0 Pattern.builtin).run (Tagging.fresh t.size) := by
  have hclean : (Tagging.fresh t.size).clean = Tagging.fresh t.size := by
    simp [Tagging.clean, Tagging.fresh]
  simp only [label, EStateM.run_bind, EStateM.run_modify, hclean]

end Tree

namespace Corpus

-- On built trees, labelling the corpus leaves each tree with the tagging labelling it alone gives,
-- and counts the trees whose labelling ends at a pattern.
theorem label_eq_label_each {trees : List Tree}
    (hb : ∀ t ∈ trees, ∃ untokenize heads relations words,
      Tree.build untokenize heads relations words = .ok t) :
    ∃ runs : List (Option Nat × Tagging),
      List.Forall₂ (fun t r => t.label.run (Tagging.fresh t.size) = .ok r.1 r.2) trees runs ∧
      label trees =
        .ok (List.zipWith (fun t r => ⟨t, r.2⟩) trees runs, runs.countP (·.1.isSome)) ∧
      runs.countP (·.1.isSome) ≤ trees.length := by
  -- every built tree's own labelling ends without fault
  have hrun : ∀ t ∈ trees,
      t.label.run (Tagging.fresh t.size) = .ok t.firstFit ⟨t.labelTags, t.firstFit.isSome⟩ := by
    intro t ht
    obtain ⟨untokenize, heads, relations, words, h⟩ := hb t ht
    exact Tree.run_label (Tree.parent_root_of_build h) (by simp [Tagging.fresh, Tree.size])
  let ending : Tree → Option Nat × Tagging :=
    fun t => (t.firstFit, ⟨t.labelTags, t.firstFit.isSome⟩)
  let items : List Ending := trees.map fun t => (⟨t, Tagging.fresh t.size⟩, ending t)
  have hloop := tryEach_of_labelFrom Pattern.builtin 0 items 0 (by
    simp only [items, List.mem_map]
    rintro _ ⟨t, ht, rfl⟩
    rw [← Tree.run_label_fresh]
    exact hrun t ht)
  refine ⟨trees.map ending, ?_, ?_, ?_⟩
  · rw [List.forall₂_map_right_iff, List.forall₂_same]
    exact hrun
  · have hstart :
        trees.map (fun t => (⟨t, Tagging.fresh t.size⟩ : Labelled)) = items.map Prod.fst := by
      simp [items]
    rw [label, hstart, hloop]
    simp [items, List.zipWith_map_right, List.zipWith_self, List.countP_map, Function.comp_def]
  · exact List.countP_le_length.trans (by simp)

-- A sentence that a pattern labels and one that none does.
theorem label_two_sentences :
    ∃ t₁ t₂, Tree.build (String.intercalate " ") [3, 3, 0, 3]
        [some "nsubj", some "dobj", some "root", some "advcl"]
        ["place", "UAV", "can", "approve"] = .ok t₁ ∧
      Tree.build (String.intercalate " ") [2, 0, 2, 2, 4]
        [some "nsubjpass", some "root", some "advcl", some "prep", some "advmod"]
        ["data", "stored", "fails", "in", "there"] = .ok t₂ ∧
      ∃ runs : List (Option Nat × Tagging),
        List.Forall₂ (fun t r => t.label.run (Tagging.fresh t.size) = .ok r.1 r.2)
          [t₁, t₂] runs ∧
        label [t₁, t₂] =
          .ok (List.zipWith (fun t r => ⟨t, r.2⟩) [t₁, t₂] runs,
            runs.countP (·.1.isSome)) ∧
        runs.countP (·.1.isSome) ≤ [t₁, t₂].length := by
  obtain ⟨t₁, hb₁⟩ : ∃ t, Tree.build (String.intercalate " ") [3, 3, 0, 3]
      [some "nsubj", some "dobj", some "root", some "advcl"]
      ["place", "UAV", "can", "approve"] = .ok t := Tree.exists_build_of_isOk (by decide)
  obtain ⟨t₂, hb₂⟩ : ∃ t, Tree.build (String.intercalate " ") [2, 0, 2, 2, 4]
      [some "nsubjpass", some "root", some "advcl", some "prep", some "advmod"]
      ["data", "stored", "fails", "in", "there"] = .ok t := Tree.exists_build_of_isOk (by decide)
  refine ⟨t₁, t₂, hb₁, hb₂, label_eq_label_each fun t ht => ?_⟩
  rcases List.mem_pair.mp ht with rfl | rfl
  · exact ⟨_, _, _, _, hb₁⟩
  · exact ⟨_, _, _, _, hb₂⟩

end Corpus

end DepTagger
