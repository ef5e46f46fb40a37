import DepTagger.Proofs.Tagging.Spread
import DepTagger.Proofs.Tree.Printing

namespace DepTagger

namespace Edit

def AlwaysFaults {α : Type} (e : Edit α) : Prop := ∀ g, ∃ f g', e.run g = .error f g'

namespace AlwaysFaults

variable {α β : Type}

theorem throw (f : Fault) : AlwaysFaults (MonadExcept.throw f : Edit α) := fun g => ⟨f, g, rfl⟩

theorem bind_left {x : Edit α} {k : α → Edit β} (hx : AlwaysFaults x) : AlwaysFaults (x >>= k) := by
  intro g
  obtain ⟨f, g', h⟩ := hx g
  exact ⟨f, g', by rw [EStateM.run_bind, h]⟩

theorem bind_right {x : Edit α} {k : α → Edit β} (hk : ∀ a, AlwaysFaults (k a)) :
    AlwaysFaults (x >>= k) := by
  intro g
  rw [EStateM.run_bind]
  cases hx : x.run g with
  | ok a g₁ => exact hk a g₁
  | error f g₁ => exact ⟨f, g₁, rfl⟩

-- The items before the one that always faults either fault themselves or hand it a tagging.
theorem forM {xs : List α} {k : α → Edit PUnit} {x : α} (hx : x ∈ xs) (h : AlwaysFaults (k x)) :
    AlwaysFaults (xs.forM k) := by
  induction xs with
  | nil => cases hx
  | cons y ys ih =>
    simp only [List.forM]
    rcases List.mem_cons.mp hx with rfl | hx
    · exact h.bind_left
    · exact bind_right fun _ => ih hx

end AlwaysFaults

end Edit

-- A fold that fails at one of its items, whatever it has gathered by then, fails.
theorem foldlM_error_of_mem {α β ε : Type} {f : β → α → Except ε β} {x : α} {xs : List α}
    (hx : x ∈ xs) (h : ∀ acc, ∃ e, f acc x = .error e) :
    ∀ init, ∃ e, xs.foldlM f init = .error e := by
  induction xs with
  | nil => cases hx
  | cons y ys ih =>
    intro init
    rw [List.foldlM_cons]
    rcases List.mem_cons.mp hx with rfl | hx
    · obtain ⟨e, he⟩ := h init
      exact ⟨e, by rw [he]; rfl⟩
    · cases hy : f init y with
      | error e => exact ⟨e, rfl⟩
      | ok acc => exact ih hx acc

namespace Tree

variable {t : Tree} {i : Nat}

-- The child that leads back round the cycle: going up from it first reaches its parent.
theorem exists_child_onCycle (h : t.OnCycle i) : ∃ c ∈ t.children i, t.OnCycle c := by
  obtain ⟨k, hk⟩ := h
  rw [up_succ'] at hk
  obtain ⟨c, hc, hp⟩ := Option.bind_eq_some_iff.mp hk
  exact ⟨c, (t.mem_children).mpr hp, k, by rw [up_succ, hp, Option.bind_some, hc]⟩

-- From a node on a cycle every fuel runs out: the induction on the fuel steps down to the child
-- on the cycle, which is on the cycle again.
theorem alwaysFaults_spreadWith (label : String) :
    ∀ fuel {i}, t.OnCycle i → Edit.AlwaysFaults (t.spreadWith label fuel i)
  | 0, _, _ => .throw _
  | fuel + 1, _, h => by
    obtain ⟨c, hc, hcyc⟩ := exists_child_onCycle h
    exact .bind_right fun _ => .forM hc (alwaysFaults_spreadWith label fuel hcyc)

theorem run_spreadWith_of_onCycle {label : String} (h : t.OnCycle i) (fuel : Nat) (g : Tagging) :
    ∃ g', (t.spreadWith label fuel i).run g = .error (.endless .spread) g' := by
  obtain ⟨f, g', hrun⟩ := alwaysFaults_spreadWith label fuel h g
  exact ⟨g', faultsWith_spreadWith label fuel i g f g' hrun ▸ hrun⟩

theorem run_tag_only (label : String) (i : Nat) (g : Tagging) :
    (t.tag label true i).run g = .ok () { g with tags := retag g.tags {i} label } := by
  simp [tag, Tagging.setTag, set_eq_retag]

-- The outline below a node on a cycle never comes out: the walk either comes back round, or stops
-- at a line it cannot print.
theorem outlineWith_error_of_onCycle :
    ∀ (fuel : Nat) (d : Int) {i : Nat}, t.OnCycle i → ∃ f, t.outlineWith fuel d i = .error f
  | 0, _, _, _ => ⟨_, rfl⟩
  | fuel + 1, d, _, h => by
    obtain ⟨c, hc, hcyc⟩ := exists_child_onCycle h
    rw [outlineWith]
    refine foldlM_error_of_mem hc (fun acc => ?_) ""
    cases hl : t.line c with
    | error e => exact ⟨e, rfl⟩
    | ok l =>
      obtain ⟨e, he⟩ := outlineWith_error_of_onCycle fuel (d + 1) hcyc
      exact ⟨e, by simp [he, bind, Except.bind]⟩

theorem relation_of_line_error {u : Nat} {f : Fault} (hu : u < t.size) (h : t.line u = .error f) :
    t.relation u = none := by
  cases hr : t.relation u with
  | none => rfl
  | some r => rw [line_of_relation hu hr] at h; cases h

-- An outline that stops for a line it cannot print met a node without a relation below `i`.
theorem outlineWith_unlabelled :
    ∀ {fuel : Nat} {d : Int} {i : Nat}, t.outlineWith fuel d i = .error .unlabelled →
      ∃ u, t.Below i u ∧ t.relation u = none
  | 0, _, _, h => by cases h
  | fuel + 1, d, i, h => by
    rw [outlineWith] at h
    refine foldlM_fault (P := fun e => e = .unlabelled → ∃ u, t.Below i u ∧ t.relation u = none)
      (fun acc c hc e he => ?_) h rfl
    have hp := (t.mem_children).mp hc
    cases hl : t.line c with
    | error e' =>
      intro _
      exact ⟨c, .of_parent hp, relation_of_line_error (lt_size_of_parent hp).1 hl⟩
    | ok l =>
      cases ho : t.outlineWith fuel (d + 1) c with
      | error e' =>
        simp only [hl, ho, bind, Except.bind, Except.error.injEq] at he
        rintro rfl
        obtain ⟨u, hu, hr⟩ := outlineWith_unlabelled (he ▸ ho)
        exact ⟨u, (Below.of_parent hp).trans hu, hr⟩
      | ok o => simp [hl, ho, bind, Except.bind, pure, Except.pure] at he

theorem outline_ne_endless (hi : ¬ t.OnCycle i) (k : Int) :
    t.outline k i ≠ .error (.endless .outline) := by
  rw [outline_eq hi]
  split <;> simp

theorem outline_of_onCycle (h : t.OnCycle i) (k : Int) :
    ∃ f, t.outline k i = .error f ∧
      (f = .endless .outline ∨ f = .unlabelled ∧ ∃ u, t.Below i u ∧ t.relation u = none) := by
  obtain ⟨f, hf⟩ := outlineWith_error_of_onCycle (t.size + 1) k h
  refine ⟨f, hf, ?_⟩
  rcases outlineWith_fault hf with rfl | rfl
  · exact .inr ⟨rfl, outlineWith_unlabelled hf⟩
  · exact .inl rfl

-- How the walks below the node at `i` end, on and off the cycles of the parent map.
structure WalksEnd (t : Tree) (i : Nat) : Prop where
  spread : ¬ t.OnCycle i → ∀ label g,
    (t.tag label false i).run g = .ok () { g with tags := retag g.tags {j | t.Below i j} label }
  spread_endless : t.OnCycle i → ∀ label g,
    ∃ g', (t.tag label false i).run g = .error (.endless .spread) g'
  alone : ∀ label g, (t.tag label true i).run g = .ok () { g with tags := retag g.tags {i} label }
  outline_ends : ¬ t.OnCycle i → ∀ k, t.outline k i ≠ .error (.endless .outline)
  outline_endless : t.OnCycle i → ∀ k, ∃ f, t.outline k i = .error f ∧
    (f = .endless .outline ∨ f = .unlabelled ∧ ∃ u, t.Below i u ∧ t.relation u = none)

theorem walksEnd (t : Tree) (i : Nat) : t.WalksEnd i where
  spread hi _ g := run_tag hi g
  spread_endless h _ g := run_spreadWith_of_onCycle h _ g
  alone label g := run_tag_only label i g
  outline_ends hi k := outline_ne_endless hi k
  outline_endless h k := outline_of_onCycle h k

-- In a built tree the walks below every node end as above; from the root and every node reached
-- from it, both end.
theorem walks_end_off_cycles {untokenize : List String → String} {heads : List Int}
    {relations : List (Option String)} {words : List String}
    (hb : build untokenize heads relations words = .ok t) :
    (∀ i, t.WalksEnd i) ∧
      ∀ v, t.Reachable v → ∀ label g k,
        (∃ g', (t.tag label false v).run g = .ok () g') ∧
          t.outline k v ≠ .error (.endless .outline) := by
  refine ⟨walksEnd t, fun v hv label g k => ?_⟩
  have hcyc : ¬ t.OnCycle v := Reachable.not_onCycle (parent_root_of_build hb) hv
  exact ⟨⟨_, (walksEnd t v).spread hcyc label g⟩, (walksEnd t v).outline_ends hcyc k⟩

-- Four words, the middle two each other's head and the last hanging below them.
theorem walks_end_beside_a_cycle :
    ∃ t, build (String.intercalate " ") [0, 3, 2, 2]
        [some "root", some "dep", some "dep", some "amod"]
        ["it", "goes", "round", "again"] = .ok t ∧
      (∀ i, t.WalksEnd i) ∧
        ∀ v, t.Reachable v → ∀ label g k,
          (∃ g', (t.tag label false v).run g = .ok () g') ∧
            t.outline k v ≠ .error (.endless .outline) := by
  obtain ⟨t, hb⟩ : ∃ t, build (String.intercalate " ") [0, 3, 2, 2]
      [some "root", some "dep", some "dep", some "amod"]
      ["it", "goes", "round", "again"] = .ok t := exists_build_of_isOk (by decide)
  exact ⟨t, hb, walks_end_off_cycles hb⟩

-- Three words, the last two each other's head, the middle one without a relation: the outline
-- below the last stops at the middle one's line instead of going round for ever.
theorem outline_on_cycle_stops_unlabelled :
    ∃ t, build (String.intercalate " ") [0, 3, 2]
        [some "root", none, some "x"] ["a", "b", "c"] = .ok t ∧
      t.OnCycle 2 ∧ t.outline 0 2 = .error .unlabelled := by
  have h : (build (String.intercalate " ") [0, 3, 2]
      [some "root", none, some "x"] ["a", "b", "c"]).toOption.map
      (fun t => (t.up 2 2, t.outline 0 2)) = some (some 2, .error .unlabelled) := by
    decide +kernel
  cases hb : build (String.intercalate " ") [0, 3, 2]
      [some "root", none, some "x"] ["a", "b", "c"] with
  | ok t =>
    simp only [hb, Except.toOption, Option.map_some, Option.some.injEq, Prod.mk.injEq] at h
    exact ⟨t, rfl, ⟨1, h.1⟩, h.2⟩
  | error e => simp [hb, Except.toOption] at h

end Tree

end DepTagger
