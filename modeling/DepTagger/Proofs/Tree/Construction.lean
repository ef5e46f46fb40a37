import DepTagger.Proofs.Tree.Ancestry

noncomputable section
open Classical

namespace DepTagger

namespace gather

variable {κ α : Type} [DecidableEq κ]

theorem keys_put (k : κ) (a : α) :
    ∀ gs : List (κ × List α), (put k a gs).map Prod.fst =
      if k ∈ gs.map Prod.fst then gs.map Prod.fst else gs.map Prod.fst ++ [k]
  | [] => by simp [put]
  | (k', as) :: gs => by
    unfold put
    split
    case isTrue h =>
      subst h
      simp
    case isFalse h =>
      rw [List.map_cons, keys_put k a gs]
      by_cases hk : k ∈ gs.map Prod.fst <;> simp [hk, Ne.symm h]

theorem ne_nil_of_mem_put (k : κ) (a : α) :
    ∀ gs : List (κ × List α), (∀ e ∈ gs, e.2 ≠ []) → ∀ e ∈ put k a gs, e.2 ≠ []
  | [], _ => by simp [put]
  | (k', as) :: gs, hgs => by
    unfold put
    split
    · intro e he
      rcases List.mem_cons.mp he with rfl | he
      · simp
      · exact hgs e (by simp [he])
    · intro e he
      rcases List.mem_cons.mp he with rfl | he
      · exact hgs (k', as) (by simp)
      · exact ne_nil_of_mem_put k a gs (fun e' he' => hgs e' (by simp [he'])) e he

-- Putting a value into a group that has members keeps that group's first member.
theorem heads_put (k : κ) (a : α) :
    ∀ gs : List (κ × List α), (∀ e ∈ gs, e.2 ≠ []) →
      (put k a gs).map (·.2.head?) =
        if k ∈ gs.map Prod.fst then gs.map (·.2.head?) else gs.map (·.2.head?) ++ [some a]
  | [], _ => by simp [put]
  | (k', as) :: gs, hgs => by
    unfold put
    have has : as ≠ [] := hgs (k', as) (by simp)
    split
    case isTrue h =>
      subst h
      obtain ⟨b, bs, rfl⟩ := List.exists_cons_of_ne_nil has
      simp
    case isFalse h =>
      rw [List.map_cons, heads_put k a gs fun e he => hgs e (by simp [he])]
      by_cases hk : k ∈ gs.map Prod.fst <;> simp [hk, Ne.symm h]

-- Groups listed by their first members: the first member of each group comes before the first
-- member of every later group.
def HeadsInOrder (gs : List (κ × List Nat)) : Prop :=
  gs.Pairwise fun e e' => ∀ i ∈ e.2.head?, ∀ j ∈ e'.2.head?, i < j

omit [DecidableEq κ] in
theorem headsInOrder_iff {gs : List (κ × List Nat)} :
    HeadsInOrder gs ↔
      (gs.map (·.2.head?)).Pairwise fun x y => ∀ i ∈ x, ∀ j ∈ y, i < j := by
  rw [HeadsInOrder, List.pairwise_map]

theorem nodup_keys_put (k : κ) (a : α) {gs : List (κ × List α)}
    (h : (gs.map Prod.fst).Nodup) : ((put k a gs).map Prod.fst).Nodup := by
  rw [keys_put]
  split
  · exact h
  · next hk =>
    rw [← List.concat_eq_append]
    exact (List.nodup_concat _ _).mpr ⟨hk, h⟩

-- A new group starts with the new value, above the first member of every group before it.
theorem headsInOrder_put (k : κ) (v : Nat) {gs : List (κ × List Nat)}
    (hne : ∀ e ∈ gs, e.2 ≠ []) (hheads : HeadsInOrder gs)
    (hlt : ∀ e ∈ gs, ∀ x ∈ e.2, x < v) : HeadsInOrder (put k v gs) := by
  rw [headsInOrder_iff, heads_put k v gs hne]
  rw [headsInOrder_iff] at hheads
  split
  · exact hheads
  · refine List.pairwise_append.mpr ⟨hheads, by simp, fun x hx y hy i hi j hj => ?_⟩
    obtain ⟨e, he, rfl⟩ := List.mem_map.mp hx
    simp only [List.mem_singleton] at hy
    subst hy
    cases hj
    exact hlt e he i (List.mem_of_mem_head? hi)

-- The values gathered after putting `a` are those gathered before, and `a`.
theorem mem_of_mem_put (k : κ) (a : α) {gs : List (κ × List α)} {e : κ × List α}
    (he : e ∈ put k a gs) {x : α} (hx : x ∈ e.2) : (∃ e' ∈ gs, x ∈ e'.2) ∨ x = a := by
  have hmem : x ∈ (put k a gs).flatMap Prod.snd := List.mem_flatMap.mpr ⟨e, he, hx⟩
  rcases List.mem_append.mp ((flatMap_put k a gs).mem_iff.mp hmem) with hx' | hx'
  · obtain ⟨e', he', hxe'⟩ := List.mem_flatMap.mp hx'
    exact .inl ⟨e', he', hxe'⟩
  · exact .inr (List.mem_singleton.mp hx')

-- Pairs whose values increase gather into groups with distinct keys, none empty, listed by
-- their first members. The fold goes pair by pair; every value met so far is below the next.
theorem shape_foldl :
    ∀ (ps : List (κ × Nat)) (gs : List (κ × List Nat)),
      (ps.map Prod.snd).Pairwise (· < ·) → (gs.map Prod.fst).Nodup →
      (∀ e ∈ gs, e.2 ≠ []) →
      HeadsInOrder gs → (∀ e ∈ gs, ∀ x ∈ e.2, ∀ p ∈ ps, x < p.2) →
      let gs' := ps.foldl (fun gs p => put p.1 p.2 gs) gs
      (gs'.map Prod.fst).Nodup ∧ (∀ e ∈ gs', e.2 ≠ []) ∧ HeadsInOrder gs'
  | [], gs, _, hkeys, hne, hheads, _ => ⟨hkeys, hne, hheads⟩
  | p :: ps, gs, hps, hkeys, hne, hheads, hlt => by
    rw [List.map_cons, List.pairwise_cons] at hps
    refine shape_foldl ps (put p.1 p.2 gs) hps.2 (nodup_keys_put p.1 p.2 hkeys)
      (ne_nil_of_mem_put p.1 p.2 gs hne)
      (headsInOrder_put p.1 p.2 hne hheads fun e he x hx => hlt e he x hx p (by simp)) ?_
    -- the values gathered so far are those of `gs` and `p`, all below what follows `p`
    intro e he x hx q hq
    rcases mem_of_mem_put p.1 p.2 he hx with ⟨e', he', hxe'⟩ | rfl
    · exact hlt e' he' x hxe' q (by simp [hq])
    · exact hps.1 q.2 (List.mem_map_of_mem hq)

end gather

theorem shape_gather {κ : Type} [DecidableEq κ] {ps : List (κ × Nat)}
    (hps : (ps.map Prod.snd).Pairwise (· < ·)) :
    ((gather ps).map Prod.fst).Nodup ∧ (∀ e ∈ gather ps, e.2 ≠ []) ∧
      gather.HeadsInOrder (gather ps) :=
  gather.shape_foldl ps [] hps List.nodup_nil (by simp) List.Pairwise.nil (by simp)

theorem pairwise_zipIdx {α : Type} :
    ∀ (l : List α) (k : Nat), (l.zipIdx k).Pairwise fun a b => a.2 < b.2
  | [], _ => List.Pairwise.nil
  | a :: l, k => by
    rw [List.zipIdx_cons, List.pairwise_cons]
    exact ⟨fun b hb => Nat.lt_of_lt_of_le (Nat.lt_succ_self k) (List.le_snd_of_mem_zipIdx hb),
      pairwise_zipIdx l (k + 1)⟩

namespace Tree

variable {t : Tree}

-- The children of a node come in position order.
theorem pairwise_kids (t : Tree) (q : Nat) : ((t.kids q).map Prod.snd).Pairwise (· < ·) := by
  rw [List.pairwise_map, kids]
  refine (pairwise_zipIdx t.nodes 0).filterMap _ ?_
  rintro ⟨n, j⟩ ⟨n', j'⟩ h b hb b' hb'
  by_cases hn : n.parent = some q <;> by_cases hn' : n'.parent = some q <;> simp [hn, hn'] at hb hb'
  subst hb hb'
  exact h

-- The group of a relation lists, in position order, the children with that relation.
theorem lookup_groups (t : Tree) (q : Nat) (l : Option String) :
    (((t.groups q).lookup l).getD []).Pairwise (· < ·) ∧
      ∀ j, j ∈ ((t.groups q).lookup l).getD [] ↔
        ∃ n, t.nodes[j]? = some n ∧ n.parent = some q ∧ n.relation = l := by
  rw [groups, lookup_gather]
  refine ⟨?_, fun j => ?_⟩
  · have hsub : (((t.kids q).filter (·.1 = l)).map Prod.snd).Sublist ((t.kids q).map Prod.snd) :=
      List.filter_sublist.map Prod.snd
    exact (t.pairwise_kids q).sublist hsub
  · simp only [List.mem_map, List.mem_filter, decide_eq_true_eq, Prod.exists]
    constructor
    · rintro ⟨r, j', ⟨hk, rfl⟩, rfl⟩
      exact (t.mem_kids).mp hk
    · intro h
      obtain ⟨n, hn, hp, rfl⟩ := h
      exact ⟨n.relation, j, ⟨(t.mem_kids).mpr ⟨n, hn, hp, rfl⟩, rfl⟩, rfl⟩

theorem shape_groups (t : Tree) (q : Nat) :
    ((t.groups q).map Prod.fst).Nodup ∧ (∀ e ∈ t.groups q, e.2 ≠ []) ∧
      gather.HeadsInOrder (t.groups q) :=
  shape_gather (t.pairwise_kids q)

-- The nodes reached from the root by going down to children, any number of times.
inductive Reachable (t : Tree) : Nat → Prop
  | root : Reachable t t.root
  | child {q c : Nat} : Reachable t q → c ∈ t.children q → Reachable t c

theorem Reachable.below_root {v : Nat} (h : t.Reachable v) : t.Below t.root v := by
  induction h with
  | root => exact .refl t _
  | child _ hc ih => exact ih.trans (Below.of_parent ((t.mem_children).mp hc))

-- Going down from the root retraces, in reverse, the chain of parents: the induction is on the
-- length of the chain.
theorem reachable_of_up : ∀ (k v : Nat), t.up k v = some t.root → t.Reachable v
  | 0, v, h => by
    have hv : v = t.root := by simpa using h
    exact hv ▸ .root
  | k + 1, v, h => by
    rw [up_succ] at h
    obtain ⟨q, hq, hup⟩ := Option.bind_eq_some_iff.mp h
    exact .child (reachable_of_up k q hup) ((t.mem_children).mpr hq)

theorem reachable_iff_below {v : Nat} : t.Reachable v ↔ t.Below t.root v :=
  ⟨Reachable.below_root, fun ⟨k, hk⟩ => reachable_of_up k v hk⟩

theorem Reachable.lt_size {v : Nat} (h : t.Reachable v) : v < t.size := by
  cases h with
  | root => exact t.root_lt
  | child _ hc => exact (lt_size_of_parent ((t.mem_children).mp hc)).1

-- A reached node other than the root is a child of its parent and of no other node.
theorem Reachable.childOf {v : Nat} (h : t.Reachable v) (hv : v ≠ t.root) :
    ∃ q, t.parent v = some q ∧ ∀ q', v ∈ t.children q' ↔ q' = q := by
  cases h with
  | root => exact absurd rfl hv
  | @child q _ _ hc =>
    have hq := (t.mem_children).mp hc
    exact ⟨q, hq, fun q' => by rw [t.mem_children, hq, Option.some.injEq, eq_comm]⟩

-- A node without a parent other than the root is out of reach.
theorem not_reachable_of_parent_none {v : Nat} (hv : t.parent v = none) (hne : v ≠ t.root) :
    ¬ t.Reachable v := by
  intro h
  cases h with
  | root => exact hne rfl
  | child _ hc =>
    rw [t.mem_children, hv] at hc
    cases hc

section RootWithoutParent

variable (hr : t.parent t.root = none)
include hr

theorem root_not_mem_children (q : Nat) : t.root ∉ t.children q := by
  rw [t.mem_children, hr]
  simp

theorem Reachable.not_onCycle {v : Nat} (h : t.Reachable v) : ¬ t.OnCycle v :=
  not_onCycle_of_below hr h.below_root

-- So is every node below a node on a cycle: its chain of parents goes round the cycle and never
-- reaches the root, which has no parent.
theorem not_reachable_of_below_cycle {c v : Nat} (hc : t.OnCycle c) (hv : t.Below c v) :
    ¬ t.Reachable v := by
  intro h
  obtain ⟨k, hk⟩ := h.below_root
  obtain ⟨m, hm⟩ := hv
  by_cases hmk : m ≤ k
  · have hup : t.up (k - m + m) v = (t.up m v).bind (t.up (k - m)) := up_add _ _ _
    rw [Nat.sub_add_cancel hmk, hk, hm, Option.bind_some] at hup
    exact not_onCycle_of_below hr ⟨k - m, hup.symm⟩ hc
  · have hup : t.up (m - k - 1 + 1 + k) v = (t.up k v).bind (t.up (m - k - 1 + 1)) := up_add _ _ _
    rw [show m - k - 1 + 1 + k = m by omega, hk, hm, Option.bind_some, up_succ, hr] at hup
    cases hup

end RootWithoutParent

theorem val_of_resolve {n : Nat} {k : Int} {x : Fin n} (h : Address.resolve n k = .ok x) :
    (x.val : Int) = if k < 0 then k + n else k := by
  unfold Address.resolve at h
  split at h
  · cases h
  · dsimp only at h
    by_cases hj : 0 ≤ (if k < 0 then k + n else k) ∧ (if k < 0 then k + n else k) < n
    · rw [dif_pos hj] at h
      cases h
      exact Int.toNat_of_nonneg hj.1
    · rw [dif_neg hj] at h
      cases h

-- What a build that succeeds did: it found the first head 0, had a relation for every word,
-- resolved every word's parent, and made the nodes from them.
theorem build_eq_ok {untokenize : List String → String} {heads : List Int}
    {relations : List (Option String)} {words : List String}
    (h : build untokenize heads relations words = .ok t) :
    ∃ (hlen : words.length ≤ relations.length) (parents : List (Option (Fin words.length))),
      heads.idxOf? 0 = some t.root ∧
      (List.range words.length).mapM (parentAt words.length heads) = .ok parents ∧
      t.nodes = nodesOf words relations hlen parents := by
  unfold build at h
  split at h
  · cases h
  · next r hr =>
    split at h
    · cases h
    · next hlen =>
      split at h
      · split at h
        · cases h
        · next parents hps =>
          cases h
          exact ⟨by omega, parents, hr, hps, rfl⟩
      · cases h

-- The parent a head gives: none for head 0, else the word the head minus one addresses, counting
-- from the back for a head below 1.
theorem parent_of_parentAt {n : Nat} {heads : List Int} {i : Nat} {p : Option (Fin n)}
    (h : parentAt n heads i = .ok p) :
    ∃ hd, heads[i]? = some hd ∧
      p.map Fin.val =
        if hd = 0 then none else some (if 1 ≤ hd then hd - 1 else n + hd - 1).toNat := by
  unfold parentAt at h
  cases hh : heads[i]? with
  | none => simp [hh] at h
  | some hd =>
    refine ⟨hd, rfl, ?_⟩
    simp only [hh] at h
    by_cases h0 : hd = 0
    · simp only [h0, if_true, Except.ok.injEq] at h
      simp [← h, h0]
    · simp only [h0, if_false] at h ⊢
      cases hx : Address.resolve n (hd - 1) with
      | error e => simp [hx, Functor.map, Except.map] at h
      | ok x =>
        simp only [hx, Functor.map, Except.map, Except.ok.injEq] at h
        subst h
        have hv := val_of_resolve hx
        simp only [Option.map_some, Option.some.injEq]
        split at hv <;> split <;> omega

theorem nodes_of_build {untokenize : List String → String} {heads : List Int}
    {relations : List (Option String)} {words : List String}
    (hb : build untokenize heads relations words = .ok t) {i : Nat} (hi : i < words.length) :
    ∃ hd, heads[i]? = some hd ∧
      t.nodes[i]?.map Node.word = some words[i] ∧
      t.nodes[i]?.map Node.relation = relations[i]? ∧
      t.parent i =
        if hd = 0 then none
        else some (if 1 ≤ hd then hd - 1 else words.length + hd - 1).toNat := by
  obtain ⟨hlen, parents, -, hps, hnodes⟩ := build_eq_ok hb
  have hrange : (List.range words.length)[i]? = some i := by simp [hi]
  obtain ⟨p, hp, hpa⟩ := mapM_getElem? hps hrange
  obtain ⟨hd, hhd, hval⟩ := parent_of_parentAt hpa
  have hnode :
      t.nodes[i]? = some ⟨words[i], relations.get ⟨i, by omega⟩, p.map Fin.val⟩ := by
    simp [hnodes, nodesOf, hi, hp]
  have hrel : relations[i]? = some (relations.get ⟨i, by omega⟩) :=
    List.getElem?_eq_getElem (Nat.lt_of_lt_of_le hi hlen)
  refine ⟨hd, hhd, by simp [hnode], by simp [hnode, hrel], ?_⟩
  rw [← hval]
  simp [parent, hnode]

-- What a tree built from these heads, relations and words is.
structure BuiltFrom (t : Tree) (heads : List Int) (relations : List (Option String))
    (words : List String) : Prop where
  root_first : heads.idxOf? 0 = some t.root
  root_parent : t.parent t.root = none
  size_eq : t.size = words.length
  node : ∀ i (hi : i < words.length), ∃ hd, heads[i]? = some hd ∧
    t.nodes[i]?.map Node.word = some words[i] ∧ t.nodes[i]?.map Node.relation = relations[i]? ∧
    t.parent i = if hd = 0 then none else some (if 1 ≤ hd then hd - 1 else words.length + hd - 1).toNat
  group_sorted : ∀ q l, (((t.groups q).lookup l).getD []).Pairwise (· < ·)
  mem_group : ∀ q l j, j ∈ ((t.groups q).lookup l).getD [] ↔
    ∃ n, t.nodes[j]? = some n ∧ n.parent = some q ∧ n.relation = l
  keys_nodup : ∀ q, ((t.groups q).map Prod.fst).Nodup
  group_ne_nil : ∀ q, ∀ e ∈ t.groups q, e.2 ≠ []
  heads_in_order : ∀ q, gather.HeadsInOrder (t.groups q)
  reachable_iff : ∀ v, t.Reachable v ↔ t.Below t.root v
  root_not_child : ∀ q, t.root ∉ t.children q
  reachable_lt : ∀ v, t.Reachable v → v < t.size
  reachable_not_onCycle : ∀ v, t.Reachable v → ¬ t.OnCycle v
  reachable_childOf : ∀ v, t.Reachable v → v ≠ t.root →
    ∃ q, t.parent v = some q ∧ ∀ q', v ∈ t.children q' ↔ q' = q
  unreachable_orphan : ∀ v, t.parent v = none → v ≠ t.root → ¬ t.Reachable v
  unreachable_below_cycle : ∀ c v, t.OnCycle c → t.Below c v → ¬ t.Reachable v

theorem builtFrom_of_build {untokenize : List String → String} {heads : List Int}
    {relations : List (Option String)} {words : List String}
    (hb : build untokenize heads relations words = .ok t) :
    t.BuiltFrom heads relations words := by
  obtain ⟨hlen, parents, hroot, -, hnodes⟩ := build_eq_ok hb
  have hr := parent_root_of_build hb
  exact {
    root_first := hroot
    root_parent := hr
    size_eq := by rw [size, hnodes, length_nodesOf]
    node := fun i hi => nodes_of_build hb hi
    group_sorted := fun q l => (t.lookup_groups q l).1
    mem_group := fun q l => (t.lookup_groups q l).2
    keys_nodup := fun q => (t.shape_groups q).1
    group_ne_nil := fun q => (t.shape_groups q).2.1
    heads_in_order := fun q => (t.shape_groups q).2.2
    reachable_iff := fun _ => reachable_iff_below
    root_not_child := root_not_mem_children hr
    reachable_lt := fun _ h => h.lt_size
    reachable_not_onCycle := fun _ h => h.not_onCycle hr
    reachable_childOf := fun _ h hv => h.childOf hv
    unreachable_orphan := fun _ hv hne => not_reachable_of_parent_none hv hne
    unreachable_below_cycle := fun _ _ hc hv => not_reachable_of_below_cycle hr hc hv }

-- Six words: a head counting from the back, a second head 0, a word that is its own head and a
-- word hanging from it.
theorem builtFrom_six_words :
    ∃ t, build (String.intercalate " ") [2, 0, -4, 4, 0, 4]
        [some "nsubj", some "root", some "dobj", some "dep", some "dep", some "amod"]
        ["they", "use", "it", "here", "now", "well"] = .ok t ∧
      t.BuiltFrom [2, 0, -4, 4, 0, 4]
        [some "nsubj", some "root", some "dobj", some "dep", some "dep", some "amod"]
        ["they", "use", "it", "here", "now", "well"] := by
  obtain ⟨t, hb⟩ : ∃ t, build (String.intercalate " ") [2, 0, -4, 4, 0, 4]
      [some "nsubj", some "root", some "dobj", some "dep", some "dep", some "amod"]
      ["they", "use", "it", "here", "now", "well"] = .ok t := exists_build_of_isOk (by decide)
  exact ⟨t, hb, builtFrom_of_build hb⟩

end Tree

end DepTagger

end
