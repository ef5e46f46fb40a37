import DepTagger.Tree.Basic

namespace DepTagger

namespace gather

variable {κ α : Type} [DecidableEq κ]

theorem flatMap_put (k : κ) (a : α) :
    ∀ gs : List (κ × List α), ((put k a gs).flatMap Prod.snd).Perm (gs.flatMap Prod.snd ++ [a])
  | [] => by simp [put]
  | (k', as) :: gs => by
    unfold put
    split
    · simp only [List.flatMap_cons, List.append_assoc]
      exact .append_left as List.perm_append_comm
    · simpa using (flatMap_put k a gs).append_left as

-- The laws of `put`, carried through the fold that gathers the pairs.
theorem flatMap_foldl (ps : List (κ × α)) (gs : List (κ × List α)) :
    ((ps.foldl (fun gs p => put p.1 p.2 gs) gs).flatMap Prod.snd).Perm
      (gs.flatMap Prod.snd ++ ps.map Prod.snd) := by
  induction ps generalizing gs with
  | nil => simp
  | cons p ps ih =>
    refine (ih _).trans ?_
    simpa using (flatMap_put p.1 p.2 gs).append_right (ps.map Prod.snd)

variable [BEq κ] [LawfulBEq κ]

omit [DecidableEq κ] in
theorem lookup_cons_ne {k k' : κ} {as : List α} {gs : List (κ × List α)} (h : k' ≠ k) :
    ((k, as) :: gs).lookup k' = gs.lookup k' := by
  have hb : (k' == k) = false := by simpa using h
  simp [List.lookup_cons, hb]

theorem lookup_put (k k' : κ) (a : α) :
    ∀ gs : List (κ × List α),
      ((put k a gs).lookup k').getD [] = (gs.lookup k').getD [] ++ if k = k' then [a] else []
  | [] => by
    by_cases h : k = k'
    · simp [put, h]
    · simp [put, lookup_cons_ne (Ne.symm h), h]
  | (k'', as) :: gs => by
    unfold put
    split
    case isTrue h =>
      subst h
      by_cases h' : k' = k''
      · subst h'
        simp
      · simp [lookup_cons_ne h', Ne.symm h']
    case isFalse h =>
      by_cases h' : k' = k''
      · subst h'
        simp [Ne.symm h]
      · simp [lookup_cons_ne h', lookup_put k k' a gs]

theorem lookup_foldl (ps : List (κ × α)) (gs : List (κ × List α)) (k : κ) :
    ((ps.foldl (fun gs p => put p.1 p.2 gs) gs).lookup k).getD [] =
      (gs.lookup k).getD [] ++ (ps.filter (·.1 = k)).map Prod.snd := by
  induction ps generalizing gs with
  | nil => simp
  | cons p ps ih =>
    rw [List.foldl_cons, ih, lookup_put]
    by_cases h : p.1 = k <;> simp [h]

end gather

theorem flatMap_gather {κ α : Type} [DecidableEq κ] (ps : List (κ × α)) :
    ((gather ps).flatMap Prod.snd).Perm (ps.map Prod.snd) := by
  simpa [gather] using gather.flatMap_foldl ps []

theorem lookup_gather {κ α : Type} [DecidableEq κ] [BEq κ] [LawfulBEq κ] (ps : List (κ × α))
    (k : κ) :
    ((gather ps).lookup k).getD [] = (ps.filter (·.1 = k)).map Prod.snd := by
  simpa [gather] using gather.lookup_foldl ps [] k

namespace Tree

variable (t : Tree) {i j : Nat} {rel : String}

theorem mem_children : j ∈ t.children i ↔ t.parent j = some i := by
  rw [children, groups, (flatMap_gather _).mem_iff, List.mem_map]
  constructor
  · rintro ⟨⟨r, j⟩, hk, rfl⟩
    obtain ⟨n, hn, hp, -⟩ := (t.mem_kids).mp hk
    simp [parent, hn, hp]
  · intro h
    obtain ⟨n, hn, hp⟩ := Option.bind_eq_some_iff.mp h
    exact ⟨(n.relation, j), (t.mem_kids).mpr ⟨n, hn, hp, rfl⟩, rfl⟩

theorem group_eq : t.group i rel = ((t.kids i).filter (·.1 = some rel)).map Prod.snd :=
  lookup_gather (t.kids i) (some rel)

theorem mem_group :
    j ∈ t.group i rel ↔
      ∃ n, t.nodes[j]? = some n ∧ n.parent = some i ∧ n.relation = some rel := by
  simp only [group_eq, List.mem_map, List.mem_filter, decide_eq_true_eq, Prod.exists]
  constructor
  · rintro ⟨r, j', ⟨hk, rfl⟩, rfl⟩
    exact (t.mem_kids).mp hk
  · intro h
    exact ⟨some rel, j, ⟨(t.mem_kids).mpr h, rfl⟩, rfl⟩

theorem parent_of_mem_group (h : j ∈ t.group i rel) : t.parent j = some i := by
  obtain ⟨n, hn, hp, -⟩ := (t.mem_group).mp h
  simp [parent, hn, hp]

def relation (i : Nat) : Option String := t.nodes[i]?.bind Node.relation

theorem relation_of_mem_kids {r : Option String} (h : (r, j) ∈ t.kids i) : t.relation j = r := by
  obtain ⟨n, hn, -, rfl⟩ := (t.mem_kids).mp h
  simp [relation, hn]

-- A node has a group for a relation exactly when that group is not empty.
theorem hasGroup_iff : t.hasGroup i rel = true ↔ t.group i rel ≠ [] := by
  simp [hasGroup, group_eq, List.filter_eq_nil_iff]

end Tree

end DepTagger
