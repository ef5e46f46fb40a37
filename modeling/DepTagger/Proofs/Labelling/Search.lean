import DepTagger.Labelling
import DepTagger.Proofs.Pattern.Application

noncomputable section
open Classical

namespace DepTagger

namespace Pattern

theorem builtin_onTree : ∀ p ∈ builtin, ∀ c ∈ p.clauses, c.onTree = true := by
  have h : builtin.all (fun p => p.clauses.all Clause.onTree) = true := by decide
  simpa using h

-- The first two built-in patterns are not final, and every later one is.
theorem builtin_finals :
    ∃ p₀ p₁ rest, builtin = p₀ :: p₁ :: rest ∧ p₀.final = false ∧ p₁.final = false ∧
      ∀ p ∈ rest, p.final = true :=
  ⟨_, _, _, rfl, rfl, rfl, by decide⟩

end Pattern

namespace Tree

variable (t : Tree)

-- Trying patterns in order, the first at position `k`: each that fits is written, and the first
-- final one that fits ends the search with its position.
def search (k : Nat) (tags : List String) : List Pattern → Option Nat × List String
  | [] => (none, tags)
  | p :: ps =>
    if t.fits p ∧ p.final then (some k, t.writePattern tags p)
    else search (k + 1) (t.writePattern tags p) ps

-- The position of the first final built-in pattern that fits: the first from the third on.
def firstFit : Option Nat := ((Pattern.builtin.drop 2).findIdx? t.fits).map (· + 2)

-- The tags labelling calls for: the writes of the first two patterns where they fit, on tags all
-- outside, then those of the first final pattern that fits.
def labelTags : List String :=
  let pre := (Pattern.builtin.take 2).foldl t.writePattern (List.replicate t.size Tagging.outside)
  match t.firstFit.bind (Pattern.builtin[·]?) with
  | some p => t.writePattern pre p
  | none => pre

variable {t}

theorem writePattern_of_not_fits {tags : List String} {p : Pattern} (h : t.fits p = false) :
    t.writePattern tags p = tags := by
  simp [writePattern, h]

theorem length_foldl_writePattern (ps : List Pattern) (tags : List String) :
    (ps.foldl t.writePattern tags).length = tags.length := by
  induction ps generalizing tags with
  | nil => rfl
  | cons p ps ih => rw [List.foldl_cons, ih, length_writePattern]

-- Labelling leaves one tag per node.
theorem length_labelTags : t.labelTags.length = t.size := by
  unfold labelTags
  split <;> simp [length_foldl_writePattern]

-- The loop, run from a tagging not yet done, is the search: the induction follows the patterns.
theorem run_labelFrom (hr : t.parent t.root = none) :
    ∀ (ps : List Pattern) (k : Nat), (∀ p ∈ ps, ∀ c ∈ p.clauses, c.onTree = true) →
      ∀ g : Tagging, g.applied = false →
        (t.labelFrom k ps).run g =
          .ok (t.search k g.tags ps).1
            ⟨(t.search k g.tags ps).2, (t.search k g.tags ps).1.isSome⟩
  | [], k, _, g, hg => by
    cases g
    simp_all [labelFrom, search]
  | p :: ps, k, hps, g, hg => by
    have hp := hps p (by simp)
    have hrest : ∀ p ∈ ps, ∀ c ∈ p.clauses, c.onTree = true :=
      fun p' hp' => hps p' (by simp [hp'])
    simp only [labelFrom, EStateM.run_bind, EStateM.run_get, hg, Bool.false_eq_true, if_false,
      run_apply hr hp g]
    by_cases hf : t.fits p
    · cases hfin : p.final
      · simp only [hf, if_true, Bool.false_eq_true, if_false]
        have := run_labelFrom hr ps (k + 1) hrest ⟨t.writePattern g.tags p, g.applied || false⟩
          (by simp [hg])
        simpa [search, hf, hfin, hg] using this
      · simp [hf, hfin, search]
    · have hf' : t.fits p = false := by simpa using hf
      simp only [hf', Bool.false_eq_true, if_false]
      have := run_labelFrom hr ps (k + 1) hrest g hg
      simpa [search, hf', writePattern_of_not_fits hf'] using this

theorem search_nonfinal {k : Nat} {tags : List String} {p : Pattern} {ps : List Pattern}
    (h : p.final = false) :
    t.search k tags (p :: ps) = t.search (k + 1) (t.writePattern tags p) ps := by
  simp [search, h]

-- Among final patterns the search stops at the first that fits, and only it writes.
theorem search_finals :
    ∀ (ps : List Pattern) (k : Nat) (tags : List String), (∀ p ∈ ps, p.final = true) →
      t.search k tags ps =
        ((ps.findIdx? t.fits).map (· + k),
          match (ps.findIdx? t.fits).bind (ps[·]?) with
          | some p => t.writePattern tags p
          | none => tags)
  | [], _, _, _ => rfl
  | p :: ps, k, tags, h => by
    have hfin := h p (by simp)
    by_cases hf : t.fits p
    · simp [search, hf, hfin, List.findIdx?_cons]
    · have hf' : t.fits p = false := by simpa using hf
      have ih := search_finals ps (k + 1) tags fun p' hp' => h p' (by simp [hp'])
      rw [search, if_neg (by simp [hf']), writePattern_of_not_fits hf', ih]
      cases hi : ps.findIdx? t.fits <;>
        simp [List.findIdx?_cons, hf', hi, Nat.add_assoc, Nat.add_comm 1]

theorem search_builtin :
    t.search 0 (List.replicate t.size Tagging.outside) Pattern.builtin =
      (t.firstFit, t.labelTags) := by
  obtain ⟨p₀, p₁, rest, hb, h₀, h₁, hrest⟩ := Pattern.builtin_finals
  simp only [firstFit, labelTags, hb, search_nonfinal h₀, search_nonfinal h₁,
    search_finals rest 2 _ hrest]
  cases hi : rest.findIdx? t.fits <;> simp [hi]

-- The first final pattern that fits is the least position from the third on whose pattern fits.
theorem firstFit_eq_some_iff {k : Nat} :
    t.firstFit = some k ↔
      2 ≤ k ∧ (∃ p, Pattern.builtin[k]? = some p ∧ t.fits p = true) ∧
        ∀ j p, 2 ≤ j → j < k → Pattern.builtin[j]? = some p → t.fits p = false := by
  obtain ⟨p₀, p₁, rest, hb, -⟩ := Pattern.builtin_finals
  simp only [firstFit, hb, List.drop_succ_cons, List.drop_zero, Option.map_eq_some_iff]
  constructor
  · rintro ⟨i, hi, rfl⟩
    obtain ⟨hlt, hfit, hbefore⟩ := List.findIdx?_eq_some_iff_getElem.mp hi
    refine ⟨by omega, ⟨rest[i], by simp [hlt], hfit⟩, fun j p hj hjk hp => ?_⟩
    obtain ⟨j, rfl⟩ := Nat.exists_eq_add_of_le' hj
    simp only [List.getElem?_cons_succ] at hp
    obtain ⟨hj', rfl⟩ := List.getElem?_eq_some_iff.mp hp
    simpa using hbefore j (by omega)
  · rintro ⟨hk, ⟨p, hp, hfit⟩, hbefore⟩
    obtain ⟨i, rfl⟩ := Nat.exists_eq_add_of_le' hk
    simp only [List.getElem?_cons_succ] at hp
    obtain ⟨hi, rfl⟩ := List.getElem?_eq_some_iff.mp hp
    refine ⟨i, List.findIdx?_eq_some_iff_getElem.mpr ⟨hi, hfit, fun j hj => ?_⟩, rfl⟩
    have := hbefore (j + 2) rest[j] (by omega) (by omega) (by simp)
    simp [this]

theorem clean_eq_fresh {g : Tagging} (h : g.tags.length = t.size) :
    g.clean = Tagging.fresh t.size := by
  simp [Tagging.clean, h]

-- From any tagging with one tag per node, labelling a tree whose root has no parent ends without
-- fault at the first final pattern that fits, with the tags that call for.
theorem run_label (hr : t.parent t.root = none) {g : Tagging} (hg : g.tags.length = t.size) :
    t.label.run g = .ok t.firstFit ⟨t.labelTags, t.firstFit.isSome⟩ := by
  have hrun := run_labelFrom hr Pattern.builtin 0 Pattern.builtin_onTree (Tagging.fresh t.size) rfl
  simp only [label, EStateM.run_bind, EStateM.run_modify, clean_eq_fresh hg, hrun]
  simp only [Tagging.fresh, search_builtin]

theorem label_run_eq_firstFit {untokenize : List String → String} {heads : List Int}
    {relations : List (Option String)} {words : List String}
    (h : build untokenize heads relations words = .ok t) :
    t.label.run (Tagging.fresh t.size) = .ok t.firstFit ⟨t.labelTags, t.firstFit.isSome⟩ :=
  run_label (parent_root_of_build h) (by simp [Tagging.fresh, size])

theorem label_four_word_sentence :
    ∃ t, build (String.intercalate " ") [3, 3, 0, 3]
        [some "nsubj", some "dobj", some "root", some "advcl"]
        ["place", "UAV", "can", "approve"] = .ok t ∧
      t.label.run (Tagging.fresh t.size) = .ok t.firstFit ⟨t.labelTags, t.firstFit.isSome⟩ := by
  obtain ⟨t, hb⟩ : ∃ t, build (String.intercalate " ") [3, 3, 0, 3]
      [some "nsubj", some "dobj", some "root", some "advcl"]
      ["place", "UAV", "can", "approve"] = .ok t := exists_build_of_isOk (by decide)
  exact ⟨t, hb, label_run_eq_firstFit hb⟩

-- The sentence above is labelled by the pattern at position 6, as recorded.
example : (build (String.intercalate " ") [3, 3, 0, 3]
    [some "nsubj", some "dobj", some "root", some "advcl"]
    ["place", "UAV", "can", "approve"]).toOption.map (fun t => t.firstFit) = some (some 6) := by
  decide

end Tree

end DepTagger

end
