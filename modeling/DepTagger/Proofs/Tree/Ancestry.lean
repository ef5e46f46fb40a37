import Mathlib.Data.Finset.Card
import DepTagger.Tree.Build
import DepTagger.Proofs.Tree.Children

noncomputable section
open Classical

namespace DepTagger.Tree

variable (t : Tree)

-- The place `k` steps up the chain of parents from `j`, if the chain is that long.
def up : Nat → Nat → Option Nat
  | 0, j => some j
  | k + 1, j => (t.parent j).bind (up k)

-- `j` lies below `i`, or is `i`.
def Below (i j : Nat) : Prop := ∃ k, t.up k j = some i

def OnCycle (i : Nat) : Prop := ∃ k, t.up (k + 1) i = some i

-- How many nodes lie below `i`, `i` included.
def weight (i : Nat) : Nat := ((Finset.range t.size).filter (t.Below i)).card

variable {t} {i j c r : Nat}

@[simp] theorem up_zero : t.up 0 j = some j := rfl

theorem up_succ (k : Nat) : t.up (k + 1) j = (t.parent j).bind (t.up k) := rfl

theorem up_add (a b : Nat) (j : Nat) : t.up (a + b) j = (t.up b j).bind (t.up a) := by
  induction b generalizing j with
  | zero => simp
  | succ b ih =>
    rw [← Nat.add_assoc, up_succ, up_succ]
    cases t.parent j <;> simp [ih]

theorem up_one : t.up 1 j = t.parent j := by simp [up]

theorem up_succ' (k : Nat) : t.up (k + 1) j = (t.up k j).bind t.parent := by
  rw [Nat.add_comm, up_add]
  simp [up_one]

theorem up_eq_none_of_le {a b : Nat} (h : t.up a j = none) (hab : a ≤ b) : t.up b j = none := by
  have : t.up (b - a + a) j = (t.up a j).bind (t.up (b - a)) := up_add _ _ _
  rw [Nat.sub_add_cancel hab, h] at this
  simpa using this

-- Going round a cycle any number of times comes back to its start.
theorem up_mul_of_cycle {m : Nat} (h : t.up m j = some j) (n : Nat) : t.up (n * m) j = some j := by
  induction n with
  | zero => simp
  | succ n ih => rw [Nat.succ_mul, up_add, h, Option.bind_some, ih]

theorem lt_size_of_parent (h : t.parent j = some i) : j < t.size ∧ i < t.size := by
  obtain ⟨n, hn, hp⟩ := Option.bind_eq_some_iff.mp h
  have hj : j < t.size := (List.getElem?_eq_some_iff.mp hn).1
  exact ⟨hj, t.parent_lt n (List.mem_of_getElem? hn) i hp⟩

namespace Below

theorem refl (t : Tree) (i : Nat) : t.Below i i := ⟨0, rfl⟩

theorem of_parent (h : t.parent j = some i) : t.Below i j := ⟨1, by simp [up_succ, h]⟩

theorem trans {l : Nat} (hij : t.Below i j) (hjl : t.Below j l) : t.Below i l :=
  have ⟨a, ha⟩ := hij
  have ⟨b, hb⟩ := hjl
  ⟨a + b, by rw [up_add, hb, Option.bind_some, ha]⟩

end Below

-- The nodes below `i` are `i` and the nodes below its children.
theorem below_iff : t.Below i j ↔ j = i ∨ ∃ c, t.parent c = some i ∧ t.Below c j := by
  constructor
  · rintro ⟨_ | k, hk⟩
    · exact .inl (Option.some.inj hk)
    · rw [up_succ'] at hk
      obtain ⟨c, hc, hp⟩ := Option.bind_eq_some_iff.mp hk
      exact .inr ⟨c, hp, k, hc⟩
  · rintro (rfl | ⟨c, hc, hb⟩)
    · exact .refl t j
    · exact (Below.of_parent hc).trans hb

theorem onCycle_of_parent (h : t.parent c = some i) (hc : t.OnCycle c) : t.OnCycle i := by
  obtain ⟨k, hk⟩ := hc
  have h₁ : t.up (k + 1 + 1) c = some i := by rw [up_succ', hk, Option.bind_some, h]
  rw [up_succ, h, Option.bind_some] at h₁
  exact ⟨k, h₁⟩

theorem not_below_of_parent (h : t.parent c = some i) (hi : ¬ t.OnCycle i) : ¬ t.Below c i := by
  rintro ⟨k, hk⟩
  exact hi ⟨k, by rw [up_succ', hk, Option.bind_some, h]⟩

-- A chain that ends at a node without parent never comes back to where it started.
theorem not_onCycle_of_below (hr : t.parent r = none) (h : t.Below r j) : ¬ t.OnCycle j := by
  obtain ⟨d, hd⟩ := h
  rintro ⟨k, hk⟩
  have hnone : t.up (d + 1) j = none := by rw [up_succ', hd, Option.bind_some, hr]
  have hround := up_mul_of_cycle hk (d + 1)
  rw [up_eq_none_of_le hnone (Nat.le_mul_of_pos_right _ (Nat.succ_pos k))] at hround
  cases hround

theorem weight_le : t.weight i ≤ t.size :=
  (Finset.card_filter_le _ _).trans (Finset.card_range _).le

-- A child of a node on no cycle has fewer nodes below it: the node itself is not among them.
theorem weight_lt_of_parent (h : t.parent c = some i) (hi : ¬ t.OnCycle i) :
    t.weight c < t.weight i := by
  apply Finset.card_lt_card
  have hsub : (Finset.range t.size).filter (t.Below c) ⊆ (Finset.range t.size).filter (t.Below i) :=
    Finset.monotone_filter_right _ fun _ _ hb => (Below.of_parent h).trans hb
  rw [Finset.ssubset_iff_of_subset hsub]
  refine ⟨i, ?_, ?_⟩
  · simpa using ⟨(lt_size_of_parent h).2, Below.refl t i⟩
  · simpa using fun _ => not_below_of_parent h hi

theorem mapM_getElem? {α β ε : Type} {f : α → Except ε β} :
    ∀ {l : List α} {bs : List β}, l.mapM f = .ok bs →
      ∀ {i : Nat} {a : α}, l[i]? = some a → ∃ b, bs[i]? = some b ∧ f a = .ok b
  | [], _, _, _, _, ha => by simp at ha
  | a :: l, bs, h, i, a', ha => by
    rw [List.mapM_cons] at h
    cases hfa : f a with
    | error e => simp [hfa] at h; cases h
    | ok b =>
      cases hl : l.mapM f with
      | error e => simp [hfa, hl] at h; cases h
      | ok bs' =>
        simp only [hfa, hl] at h
        cases h
        cases i with
        | zero => cases ha; exact ⟨b, rfl, hfa⟩
        | succ i => exact mapM_getElem? hl ha

-- The first word with head 0 becomes the root, and it gets no parent.
theorem parent_root_of_build {untokenize : List String → String} {heads : List Int}
    {relations : List (Option String)} {words : List String}
    (h : build untokenize heads relations words = .ok t) : t.parent t.root = none := by
  unfold build at h
  split at h
  · cases h
  · next r hr =>
    split at h
    · cases h
    · split at h
      · split at h
        · cases h
        · next parents hps =>
          cases h
          obtain ⟨hlt, h0, -⟩ := List.idxOf?_eq_some_iff.mp hr
          have hrange : (List.range words.length)[r]? = some r := by simp [*]
          obtain ⟨p, hp, hpa⟩ := mapM_getElem? hps hrange
          have hnone : p = none := by
            simp only [parentAt, List.getElem?_eq_getElem hlt, h0] at hpa
            simpa using hpa.symm
          simp [parent, nodesOf, *]
      · cases h

-- A build that succeeds gives its tree; with the success decided, this names the tree.
theorem exists_build_of_isOk {untokenize : List String → String} {heads : List Int}
    {relations : List (Option String)} {words : List String}
    (h : (build untokenize heads relations words).isOk = true) :
    ∃ t, build untokenize heads relations words = .ok t := by
  cases hb : build untokenize heads relations words with
  | ok t => exact ⟨t, rfl⟩
  | error e => simp [hb, Except.isOk, Except.toBool] at h

-- The detokenizer gives the sentence and nothing else of a built tree.
theorem build_eq_map_sentence {untokenize : List String → String} {heads : List Int}
    {relations : List (Option String)} {words : List String} (u : List String → String) :
    build untokenize heads relations words =
      (fun t => { t with sentence := untokenize words }) <$> build u heads relations words := by
  unfold build
  split
  · rfl
  · split
    · rfl
    · split
      · split <;> rfl
      · rfl

end DepTagger.Tree

end
