import DepTagger.Proofs.Labelling.Search
import DepTagger.Proofs.Tree.Faults

namespace DepTagger

namespace Node

def shape (n : Node) : Option String × Option Nat := (n.relation, n.parent)

end Node

namespace Tree

-- `t'` is `t` with other words at nodes without a parent.
structure Reworded (t t' : Tree) : Prop where
  root_eq : t'.root = t.root
  shape_eq : t'.nodes.map Node.shape = t.nodes.map Node.shape
  word_eq : ∀ i, t.parent i ≠ none → t'.word i = t.word i

theorem parent_eq_shape (t : Tree) (i : Nat) :
    t.parent i = (t.nodes.map Node.shape)[i]?.bind Prod.snd := by
  simp only [parent, List.getElem?_map]
  cases t.nodes[i]? <;> rfl

-- The children of a node are read off the shapes of the nodes.
theorem kids_eq_shape (t : Tree) (i : Nat) :
    t.kids i = (t.nodes.map Node.shape).zipIdx.filterMap fun e =>
      if e.1.2 = some i then some (e.1.1, e.2) else none := by
  rw [kids, List.zipIdx_map, List.filterMap_map]
  congr 1

namespace Reworded

variable {t t' : Tree} (h : Reworded t t')
include h

theorem size_eq : t'.size = t.size := by
  simpa [size] using congrArg List.length h.shape_eq

theorem parent_eq (i : Nat) : t'.parent i = t.parent i := by
  rw [parent_eq_shape, parent_eq_shape, h.shape_eq]

theorem kids_eq (i : Nat) : t'.kids i = t.kids i := by
  rw [kids_eq_shape, kids_eq_shape, h.shape_eq]

theorem children_eq : t'.children = t.children := by
  funext i
  simp only [children, groups, h.kids_eq]

theorem group_eq (i : Nat) (rel : String) : t'.group i rel = t.group i rel := by
  simp only [group, groups, h.kids_eq]

theorem hasGroup_eq (i : Nat) (rel : String) : t'.hasGroup i rel = t.hasGroup i rel := by
  simp only [hasGroup, h.kids_eq]

-- A step compares only the words of the children it goes down to, and children have a parent.
theorem stepFrom_eq : t'.stepFrom = t.stepFrom := by
  funext s p
  cases p with
  | none => cases s <;> rfl
  | some i =>
    cases s with
    | down rel => simp only [stepFrom, h.group_eq]
    | downTo rel w =>
      simp only [stepFrom, h.group_eq]
      congr 2
      refine List.filter_congr fun j hj => ?_
      rw [h.word_eq j (by simp [t.parent_of_mem_group hj])]
    | lacking rel => simp only [stepFrom, h.hasGroup_eq]
    | up => simp only [stepFrom, h.parent_eq]

theorem reach_eq (steps : List Step) (ps : List Place) : t'.reach steps ps = t.reach steps ps := by
  induction steps generalizing ps with
  | nil => rfl
  | cons s ss ih => simp only [reach, advance, h.stepFrom_eq, ih]

theorem select_eq : t'.select = t.select := by
  funext steps
  simp only [select, h.root_eq, h.reach_eq]

theorem spreadWith_eq (label : String) (fuel : Nat) :
    t'.spreadWith label fuel = t.spreadWith label fuel := by
  induction fuel with
  | zero => rfl
  | succ fuel ih =>
    funext i
    simp only [spreadWith, h.children_eq, ih]

theorem tagPlace_eq (c : Clause) : t'.tagPlace c = t.tagPlace c := by
  funext p
  cases p with
  | none => rfl
  | some i => simp only [tagPlace, tag, h.size_eq, h.spreadWith_eq]

theorem applyClauses_eq (saved : List String) (cs : List Clause) :
    t'.applyClauses saved cs = t.applyClauses saved cs := by
  induction cs with
  | nil => rfl
  | cons c cs ih => simp only [applyClauses, h.select_eq, h.tagPlace_eq, ih]

theorem apply_eq : t'.apply = t.apply := by
  funext p
  simp only [apply, h.applyClauses_eq]

theorem labelFrom_eq (k : Nat) (ps : List Pattern) : t'.labelFrom k ps = t.labelFrom k ps := by
  induction ps generalizing k with
  | nil => rfl
  | cons p ps ih => simp only [labelFrom, h.apply_eq, ih]

theorem label_eq : t'.label = t.label := by
  simp only [label, h.labelFrom_eq]

end Reworded

variable {t t' : Tree} {untokenize : List String → String} {heads : List Int}
  {relations : List (Option String)} {words words' : List String}

-- Whether a build succeeds depends on the words only through their number.
theorem exists_build_of_length (hb : build untokenize heads relations words = .ok t)
    (hlen : words'.length = words.length) :
    ∃ t', build untokenize heads relations words' = .ok t' := by
  cases hb' : build untokenize heads relations words' with
  | ok t' => exact ⟨t', rfl⟩
  | error f =>
    have hf := build_eq_error_iff.mp hb'
    rw [hlen, ← build_eq_error_iff, hb] at hf
    cases hf

theorem size_of_build
    (hb : build untokenize heads relations words = .ok t) : t.size = words.length := by
  obtain ⟨_, _, -, -, hnodes⟩ := build_eq_ok hb
  rw [size, hnodes, length_nodesOf]

-- Words that change only where the head is 0 build the same tree but for those words.
theorem reworded_of_build (hb : build untokenize heads relations words = .ok t)
    (hb' : build untokenize heads relations words' = .ok t') (hlen : words'.length = words.length)
    (hw : ∀ i : Nat, heads[i]? ≠ some 0 → words'[i]? = words[i]?) : Reworded t t' where
  root_eq := by
    obtain ⟨-, -, hr, -⟩ := build_eq_ok hb
    obtain ⟨-, -, hr', -⟩ := build_eq_ok hb'
    exact Option.some.inj (hr'.symm.trans hr)
  shape_eq := by
    refine List.ext_getElem? fun i => ?_
    by_cases hi : i < words.length
    · obtain ⟨hd, hhd, -, hrel, hpar⟩ := nodes_of_build hb hi
      obtain ⟨hd', hhd', -, hrel', hpar'⟩ := nodes_of_build hb' (hlen ▸ hi)
      obtain rfl : hd' = hd := Option.some.inj (hhd'.symm.trans hhd)
      rw [hlen, ← hpar] at hpar'
      have hi₁ : i < t.size := size_of_build hb ▸ hi
      have hi₂ : i < t'.size := size_of_build hb' ▸ hlen ▸ hi
      have hn := List.getElem?_eq_getElem hi₁
      have hn' := List.getElem?_eq_getElem hi₂
      simp only [hn, hn', Option.map_some] at hrel hrel'
      simp only [parent, hn, hn'] at hpar'
      have hp : t'.nodes[i].parent = t.nodes[i].parent := hpar'
      simp only [List.getElem?_map, hn, hn', Option.map_some, Node.shape, hp,
        Option.some.inj (hrel'.trans hrel.symm)]
    · have hs : t.size ≤ i := by rw [size_of_build hb]; omega
      have hs' : t'.size ≤ i := by rw [size_of_build hb', hlen]; omega
      simp [List.getElem?_eq_none hs, List.getElem?_eq_none hs']
  word_eq i hp := by
    have hi : i < words.length := by
      rw [← size_of_build hb]
      cases hn : t.nodes[i]? with
      | none => simp [parent, hn] at hp
      | some n => exact (List.getElem?_eq_some_iff.mp hn).1
    obtain ⟨hd, hhd, hword, -, hpar⟩ := nodes_of_build hb hi
    obtain ⟨-, -, hword', -, -⟩ := nodes_of_build hb' (hlen ▸ hi)
    have hd0 : hd ≠ 0 := by
      rintro rfl
      simp [hpar] at hp
    have hwi := hw i (by simpa [hhd] using hd0)
    rw [List.getElem?_eq_getElem hi, List.getElem?_eq_getElem (hlen ▸ hi)] at hwi
    simp only [word, hword, hword']
    simpa using hwi

-- However the root of a sentence is worded, every pattern applies, and the labelling runs, as
-- with its own word.
theorem root_word_unread (hb : build untokenize heads relations words = .ok t) (w : String) :
    ∃ t', build untokenize heads relations (words.set t.root w) = .ok t' ∧ t'.word t'.root = w ∧
      (∀ p, t'.apply p = t.apply p) ∧ t'.label = t.label := by
  have hlen : (words.set t.root w).length = words.length := List.length_set ..
  obtain ⟨t', hb'⟩ := exists_build_of_length hb hlen
  have hlt : t.root < words.length := size_of_build hb ▸ t.root_lt
  -- the root is the first word with head 0, so only a word with head 0 changes
  have hroot : heads[t.root]? = some 0 := by
    obtain ⟨-, -, hr, -⟩ := build_eq_ok hb
    obtain ⟨hlt', h0, -⟩ := List.idxOf?_eq_some_iff.mp hr
    simp [List.getElem?_eq_getElem hlt', h0]
  have hre := reworded_of_build hb hb' hlen fun i hi => by
    rw [List.getElem?_set_ne]
    rintro rfl
    exact hi hroot
  refine ⟨t', hb', ?_, fun p => by rw [hre.apply_eq], hre.label_eq⟩
  obtain ⟨-, -, hword, -, -⟩ := nodes_of_build hb' (hlen ▸ hlt)
  simp [word, hre.root_eq, hword]

-- A sentence whose labelling ends at the first pattern that starts at `root=capable`, its root
-- renamed.
theorem root_word_unread_capable :
    ∃ t, build (String.intercalate " ") [8, 1, 2, 5, 6, 2, 1, 0, 8]
        [some "prep", some "pcomp", some "cop", some "det", some "pobj", some "prep", some "prep",
          some "root", some "nsubj"]
        ["OF", "require", "initiates", "each", "card", "with", "ACROSS", "CAPABLE", "view"] = .ok t ∧
      ∃ t', build (String.intercalate " ") [8, 1, 2, 5, 6, 2, 1, 0, 8]
          [some "prep", some "pcomp", some "cop", some "det", some "pobj", some "prep",
            some "prep", some "root", some "nsubj"]
          (["OF", "require", "initiates", "each", "card", "with", "ACROSS", "CAPABLE",
            "view"].set t.root "able") = .ok t' ∧ t'.word t'.root = "able" ∧
        (∀ p, t'.apply p = t.apply p) ∧ t'.label = t.label := by
  obtain ⟨t, hb⟩ : ∃ t, build (String.intercalate " ") [8, 1, 2, 5, 6, 2, 1, 0, 8]
      [some "prep", some "pcomp", some "cop", some "det", some "pobj", some "prep", some "prep",
        some "root", some "nsubj"]
      ["OF", "require", "initiates", "each", "card", "with", "ACROSS", "CAPABLE", "view"] = .ok t :=
    exists_build_of_isOk (by decide)
  exact ⟨t, hb, root_word_unread hb "able"⟩

-- The pattern at position 65 has a path that starts at `root=capable`; the root of this sentence
-- is `able`, and its labelling ends at that pattern all the same.
theorem label_ends_at_capable_pattern_under_able :
    (Pattern.builtin[65]?.map fun p => p.clauses.any (·.path.head? == some "root=capable")) =
        some true ∧
      ∃ t g, build (String.intercalate " ") [8, 1, 2, 5, 6, 2, 1, 0, 8]
          [some "prep", some "pcomp", some "cop", some "det", some "pobj", some "prep",
            some "prep", some "root", some "nsubj"]
          ["OF", "require", "initiates", "each", "card", "with", "ACROSS", "able", "view"] = .ok t ∧
        Text.lower (t.word t.root) ≠ Text.lower "capable" ∧
        t.label.run (Tagging.fresh t.size) = .ok (some 65) g := by
  have h : (build (String.intercalate " ") [8, 1, 2, 5, 6, 2, 1, 0, 8]
      [some "prep", some "pcomp", some "cop", some "det", some "pobj", some "prep", some "prep",
        some "root", some "nsubj"]
      ["OF", "require", "initiates", "each", "card", "with", "ACROSS", "able", "view"]).toOption.map
      (fun t => (t.firstFit, Text.lower (t.word t.root))) = some (some 65, "able") := by
    decide +kernel
  refine ⟨by decide, ?_⟩
  cases hb : build (String.intercalate " ") [8, 1, 2, 5, 6, 2, 1, 0, 8]
      [some "prep", some "pcomp", some "cop", some "det", some "pobj", some "prep", some "prep",
        some "root", some "nsubj"]
      ["OF", "require", "initiates", "each", "card", "with", "ACROSS", "able", "view"] with
  | ok t =>
    simp only [hb, Except.toOption, Option.map_some, Option.some.injEq, Prod.mk.injEq] at h
    refine ⟨t, ⟨t.labelTags, t.firstFit.isSome⟩, rfl, by rw [h.2]; decide, ?_⟩
    rw [run_label (parent_root_of_build hb) (by simp [Tagging.fresh, size]), h.1]
  | error e => simp [hb, Except.toOption] at h

end Tree

end DepTagger
