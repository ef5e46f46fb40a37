import DepTagger.Proofs.Pattern.Application

noncomputable section
open Classical

namespace DepTagger

theorem forall_mem_of_mapM_ok {α β ε : Type} {f : α → Except ε β} (P : α → Prop)
    {Q : β → Prop} (hf : ∀ a b, P a → f a = .ok b → Q b) :
    ∀ {l : List α} {bs : List β}, l.mapM f = .ok bs → (∀ a ∈ l, P a) → ∀ b ∈ bs, Q b
  | [], bs, h, _, b, hb => by
    cases h
    simp at hb
  | a :: l, bs, h, hl, b, hb => by
    rw [List.mapM_cons] at h
    cases hfa : f a with
    | error e => simp [hfa] at h; cases h
    | ok b₀ =>
      cases hrest : l.mapM f with
      | error e => simp [hfa, hrest] at h; cases h
      | ok bs' =>
        simp only [hfa, hrest] at h
        cases h
        rcases List.mem_cons.mp hb with rfl | hb
        · exact hf a b (hl a (by simp)) hfa
        · exact forall_mem_of_mapM_ok P hf hrest (fun a' ha' => hl a' (by simp [ha'])) b hb

namespace Edit

-- The value an edit answers from `g`, or none when it faults.
def answer {α : Type} (e : Edit α) (g : Tagging) : Option α :=
  match e.run g with
  | .ok a _ => some a
  | .error _ _ => none

-- An edit that answers ends with the tagging it leaves.
theorem run_eq_of_answer {α : Type} {e : Edit α} {g : Tagging} {a : α}
    (h : e.answer g = some a) : e.run g = .ok a (e.after g) := by
  unfold answer at h
  unfold after
  split at h
  case _ a' g' hrun =>
    cases h
    rw [hrun]
  case _ => cases h

end Edit

namespace Tree

variable {t : Tree}

-- Every node among the places lies below the root; the hole may be among them.
def Rooted (t : Tree) (ps : List Place) : Prop := ∀ j, some j ∈ ps → t.Below t.root j

-- The clause that covers `v` last, if any.
def lastCover (t : Tree) (cs : List Clause) (v : Nat) : Option Clause :=
  cs.reverse.find? fun c => v ∈ t.covered c

section Rooted

variable (hr : t.parent t.root = none)
include hr

-- Above a node below the root, other than the root itself, is again a node below the root.
theorem below_root_of_parent {i j : Nat} (hj : t.Below t.root j) (hp : t.parent j = some i) :
    t.Below t.root i := by
  obtain ⟨k, hk⟩ := hj
  cases k with
  | zero =>
    have hjr : j = t.root := by simpa using hk
    rw [hjr, hr] at hp
    cases hp
  | succ k =>
    rw [up_succ, hp, Option.bind_some] at hk
    exact ⟨k, hk⟩

theorem stepFrom_rooted {s : Step} {j : Nat} {qs : List Place} (hj : t.Below t.root j)
    (h : t.stepFrom s (some j) = .ok qs) : t.Rooted qs := by
  intro c hc
  cases s with
  | down rel =>
    cases h
    obtain ⟨c', hc', hcc⟩ := List.mem_map.mp hc
    cases hcc
    exact hj.trans (Below.of_parent (t.parent_of_mem_group hc'))
  | downTo rel w =>
    cases h
    obtain ⟨c', hc', hcc⟩ := List.mem_map.mp hc
    cases hcc
    exact hj.trans (Below.of_parent (t.parent_of_mem_group (List.mem_filter.mp hc').1))
  | lacking rel =>
    cases h
    split at hc
    · simp at hc
    · have hcj : c = j := by simpa using hc
      exact hcj ▸ hj
  | up =>
    cases h
    have hpc : t.parent j = some c := by simpa [eq_comm] using hc
    exact below_root_of_parent hr hj hpc

theorem advance_rooted {s : Step} {ps qs : List Place} (hps : t.Rooted ps)
    (h : t.advance s ps = .ok qs) : t.Rooted qs := by
  unfold advance at h
  cases hm : ps.mapM (t.stepFrom s) with
  | error e => simp [hm, bind, Except.bind] at h
  | ok qss =>
    simp only [hm, bind, Except.bind, pure, Except.pure, Except.ok.injEq] at h
    subst h
    -- each list of places comes from a place of `ps`, which is not the hole: from it no step leads
    have hstep : ∀ q ∈ qss, t.Rooted q := by
      refine forall_mem_of_mapM_ok (fun p => ∀ j, p = some j → t.Below t.root j) ?_ hm
        fun p hp j hpj => hps j (hpj ▸ hp)
      intro p q hp hq
      cases p with
      | none => cases s <;> cases hq
      | some j => exact stepFrom_rooted hr (hp j rfl) hq
    intro j hj
    obtain ⟨q, hq, hjq⟩ := List.mem_flatten.mp hj
    exact hstep q hq j hjq

theorem reach_rooted :
    ∀ {ss : List Step} {ps qs : List Place}, t.Rooted ps → t.reach ss ps = .ok qs →
      t.Rooted qs
  | [], _, _, hps, h => by
    cases h
    exact hps
  | s :: ss, ps, qs, hps, h => by
    cases ha : t.advance s ps with
    | error e => simp [reach, ha, bind, Except.bind] at h
    | ok qs₁ =>
      by_cases he : qs₁ = []
      · subst he
        simp only [reach, ha, bind, Except.bind, List.isEmpty_nil, if_true, Except.ok.injEq] at h
        subst h
        simp [Rooted]
      · rw [reach_cons_of_advance ha he] at h
        exact reach_rooted (advance_rooted hr hps ha) h

-- Whatever its steps, a path from the root selects the hole or nodes below the root.
theorem select_rooted {ss : List Step} {qs : List Place} (h : t.select ss = .ok qs) :
    t.Rooted qs :=
  reach_rooted hr (fun j hj => by
    rw [List.mem_singleton, Option.some.injEq] at hj
    exact hj ▸ .refl t _) h

end Rooted

theorem lastCover_cons (c : Clause) (cs : List Clause) (v : Nat) :
    t.lastCover (c :: cs) v =
      (t.lastCover cs v).or (if v ∈ t.covered c then some c else none) := by
  by_cases hv : v ∈ t.covered c <;> simp [lastCover, hv]

theorem lastCover_eq_none_iff {cs : List Clause} {v : Nat} :
    t.lastCover cs v = none ↔ ∀ c ∈ cs, v ∉ t.covered c := by
  simp [lastCover]

-- The clause that covers `v` last is the one at the greatest position among those that cover it.
theorem lastCover_eq_some_iff {cs : List Clause} {v : Nat} {c : Clause} :
    t.lastCover cs v = some c ↔
      ∃ j, ∃ hj : j < cs.length, cs[j] = c ∧ v ∈ t.covered c ∧
        ∀ k (hk : k < cs.length), j < k → v ∉ t.covered cs[k] := by
  rw [lastCover, List.find?_eq_some_iff_getElem]
  simp only [decide_eq_true_eq, List.length_reverse, List.getElem_reverse, Bool.not_eq_true',
    decide_eq_false_iff_not]
  constructor
  · rintro ⟨hv, i, hi, rfl, hbefore⟩
    refine ⟨cs.length - 1 - i, by omega, rfl, hv, fun k hk hik => ?_⟩
    have hback : cs.length - 1 - (cs.length - 1 - k) = k := by omega
    have := hbefore (cs.length - 1 - k) (by omega)
    simpa only [hback] using this
  · rintro ⟨j, hj, rfl, hv, hafter⟩
    have hback : cs.length - 1 - (cs.length - 1 - j) = j := by omega
    refine ⟨hv, cs.length - 1 - j, by omega, by simp only [hback], fun i hi => ?_⟩
    exact hafter (cs.length - 1 - i) (by omega) (by omega)

theorem writeClauses_cons (tags : List String) (c : Clause) (cs : List Clause) :
    t.writeClauses tags (c :: cs) = t.writeClauses (retag tags (t.covered c) c.entity) cs := rfl

-- Written clause after clause, a node ends with the entity of the last clause covering it.
theorem getElem?_writeClauses :
    ∀ (cs : List Clause) (tags : List String) (v : Nat),
      (t.writeClauses tags cs)[v]? =
        tags[v]?.map fun x => ((t.lastCover cs v).map Clause.entity).getD x
  | [], tags, v => by simp [writeClauses, lastCover]
  | c :: cs, tags, v => by
    rw [writeClauses_cons, getElem?_writeClauses cs, getElem?_retag, Option.map_map,
      lastCover_cons]
    congr 1
    funext x
    cases t.lastCover cs v <;> by_cases hv : v ∈ t.covered c <;> simp [hv]

-- Tagging the places answers only when the hole is not among them.
theorem not_mem_of_run_forM_tagPlace {c : Clause} :
    ∀ {qs : List Place} {g g' : Tagging} {u : PUnit},
      (qs.forM (t.tagPlace c)).run g = .ok u g' → none ∉ qs
  | [], _, _, _, _ => List.not_mem_nil
  | q :: qs, g, g', u, h => by
    simp only [List.forM, EStateM.run_bind] at h
    cases q with
    | none => simp [tagPlace] at h
    | some i =>
      split at h
      case _ _ g₁ _ =>
        have := not_mem_of_run_forM_tagPlace h
        simpa using this
      case _ => cases h

-- On a built tree, a clause whose path selected places other than the hole tags what it covers.
theorem run_forM_tagPlace_covered (hr : t.parent t.root = none) {c : Clause} {ss : List Step}
    {qs : List Place} (hs : c.steps = .ok ss) (hq : t.select ss = .ok qs) (hnone : none ∉ qs)
    (g : Tagging) :
    (qs.forM (t.tagPlace c)).run g =
      .ok () { g with tags := retag g.tags (t.covered c) c.entity } := by
  have hnodes : ∀ q ∈ qs, ∃ j, q = some j ∧ ¬ t.OnCycle j := by
    intro q hq'
    cases q with
    | none => exact absurd hq' hnone
    | some j => exact ⟨j, rfl, not_onCycle_of_below hr (select_rooted hr hq j hq')⟩
  rw [run_forM_tagPlace hnodes]
  simp [covered, selection_eq hs hq]

-- What one clause does when the application goes on: its path is well formed and selected
-- places, and then either none, putting the saved tags back, or some, which are all tagged.
theorem applyClauses_cons_ok {saved : List String} {c : Clause} {cs : List Clause}
    {g g' : Tagging} {b : Bool} (h : (t.applyClauses saved (c :: cs)).run g = .ok b g') :
    ∃ ss qs, c.steps = .ok ss ∧ t.select ss = .ok qs ∧
      ((qs = [] ∧ b = false ∧ g' = { g with tags := saved }) ∨
        (qs ≠ [] ∧ ∃ g₁, (qs.forM (t.tagPlace c)).run g = .ok () g₁ ∧
          (t.applyClauses saved cs).run g₁ = .ok b g')) := by
  simp only [applyClauses, EStateM.run_bind] at h
  cases hs : c.steps with
  | error e => simp [hs] at h
  | ok ss =>
    cases hq : t.select ss with
    | error e => simp [hs, hq] at h
    | ok qs =>
      refine ⟨ss, qs, rfl, hq, ?_⟩
      simp only [hs, hq, Edit.run_lift_ok] at h
      by_cases he : qs = []
      · subst he
        simp only [List.isEmpty_nil, if_true, EStateM.run_bind, EStateM.run_modify,
          EStateM.run_pure, EStateM.Result.ok.injEq] at h
        exact .inl ⟨rfl, h.1.symm, h.2.symm⟩
      · have hne : qs.isEmpty = false := by simpa using he
        simp only [hne, Bool.false_eq_true, if_false, EStateM.run_bind] at h
        split at h
        case _ u g₁ hrun => exact .inr ⟨he, g₁, hrun, h⟩
        case _ => cases h

-- Tagging places keeps the flag, whatever the places.
theorem applied_of_run_forM_tagPlace {c : Clause} {qs : List Place} {g g₁ : Tagging}
    (h : (qs.forM (t.tagPlace c)).run g = .ok () g₁) : g₁.applied = g.applied := by
  have hkeep : ((qs.forM (t.tagPlace c)).after g).HasShape g.tags.length g.applied :=
    Edit.Preserves.forM (fun q _ => preserves_tagPlace c q) g ⟨rfl, rfl⟩
  unfold Edit.after at hkeep
  rw [h] at hkeep
  exact hkeep.2

-- Clauses that answer failure put back the saved tags and leave the flag: the induction is on
-- the clauses, each one before the failing one keeping the flag.
theorem applyClauses_false (saved : List String) :
    ∀ (cs : List Clause) (g g' : Tagging),
      (t.applyClauses saved cs).run g = .ok false g' → g' = { g with tags := saved }
  | [], g, g', h => by simp [applyClauses] at h
  | c :: cs, g, g', h => by
    obtain ⟨-, qs, -, -, ⟨-, -, rfl⟩ | ⟨-, g₁, h₁, h₂⟩⟩ := applyClauses_cons_ok h
    · rfl
    · rw [applyClauses_false saved cs g₁ g' h₂, applied_of_run_forM_tagPlace h₁]

-- On a built tree, clauses that answer success each selected places, none the hole, and wrote
-- their entities in order.
theorem applyClauses_true (hr : t.parent t.root = none) (saved : List String) :
    ∀ (cs : List Clause) (g g' : Tagging), (t.applyClauses saved cs).run g = .ok true g' →
      (∀ c ∈ cs, ∃ ss qs,
        c.steps = .ok ss ∧ t.select ss = .ok qs ∧ qs ≠ [] ∧ none ∉ qs) ∧
        g' = { g with tags := t.writeClauses g.tags cs }
  | [], g, g', h => by
    simp only [applyClauses, EStateM.run_pure, EStateM.Result.ok.injEq] at h
    obtain ⟨-, rfl⟩ := h
    simp [writeClauses]
  | c :: cs, g, g', h => by
    obtain ⟨ss, qs, hs, hq, ⟨-, hb, -⟩ | ⟨hne, g₁, h₁, h₂⟩⟩ :=
      applyClauses_cons_ok h
    · cases hb
    · have hnone : none ∉ qs := not_mem_of_run_forM_tagPlace h₁
      rw [run_forM_tagPlace_covered hr hs hq hnone, EStateM.Result.ok.injEq] at h₁
      obtain ⟨-, rfl⟩ := h₁
      obtain ⟨hall, rfl⟩ := applyClauses_true hr saved cs _ g' h₂
      refine ⟨fun c' hc' => ?_, by rw [writeClauses_cons]⟩
      rcases List.mem_cons.mp hc' with rfl | hc'
      · exact ⟨ss, qs, hs, hq, hne, hnone⟩
      · exact hall c' hc'

-- An application that answers failure changes neither a tag nor the flag, on any tree: the
-- clauses before the one that selected nothing may have tagged whole subtrees, and the saved
-- tags are put back over them.
theorem apply_failure_restores {t : Tree} {p : Pattern} {g g' : Tagging}
    (h : (t.apply p).run g = .ok (false, []) g') : g' = g := by
  simp only [apply, EStateM.run_bind, EStateM.run_get] at h
  have hkeep := t.after_applyClauses p g
  unfold Edit.after at hkeep
  split at h
  case _ ok g₁ hrun =>
    rw [hrun] at hkeep
    cases ok with
    | false =>
      simp only [Bool.false_eq_true, if_false, EStateM.run_pure, EStateM.Result.ok.injEq] at h
      rw [← h.2, applyClauses_false g.tags p.clauses g g₁ hrun]
    | true =>
      -- a success answers failure only for a pattern that is not final, on a tree without tags
      cases hfin : p.final
      · simp only [hfin, Bool.false_eq_true, if_false, if_true, EStateM.run_bind, EStateM.run_get,
          EStateM.run_pure, EStateM.Result.ok.injEq, Prod.mk.injEq, true_and] at h
        obtain ⟨hnil, rfl⟩ := h
        obtain ⟨hlen, happ⟩ := hkeep
        have hg : g.tags = [] := List.eq_nil_of_length_eq_zero (by simpa [hnil] using hlen.symm)
        cases g₁
        cases g
        simp_all
      · simp [hfin] at h
  case _ => cases h

-- A sentence whose root has no `prep` child: the first clause tags the whole tree, the second
-- selects nothing, and the tagging the application leaves is the one it started from.
theorem apply_failure_after_spread :
    let p : Pattern := ⟨[⟨"ent1", ["root"], false⟩, ⟨"rel", ["root", "prep"], false⟩], true⟩
    let g : Tagging := ⟨["ent2", "O", "cond"], true⟩
    ∃ t, build (String.intercalate " ") [2, 0, 2]
        [some "nsubj", some "root", some "dobj"] ["system", "shows", "data"] =
        .ok t ∧
      (t.apply p).run g = .ok (false, []) ((t.apply p).after g) ∧ (t.apply p).after g = g := by
  intro p g
  obtain ⟨t, hb⟩ : ∃ t, build (String.intercalate " ") [2, 0, 2]
      [some "nsubj", some "root", some "dobj"]
      ["system", "shows", "data"] = .ok t := exists_build_of_isOk (by decide)
  have hans : (t.apply p).answer g = some (false, []) := by
    have h : ((build (String.intercalate " ") [2, 0, 2] [some "nsubj", some "root", some "dobj"]
        ["system", "shows", "data"]).toOption.map fun t => (t.apply p).answer g) =
          some (some (false, [])) := by decide
    rw [hb] at h
    simpa [Except.toOption] using h
  have hrun := Edit.run_eq_of_answer hans
  exact ⟨t, hb, hrun, apply_failure_restores hrun⟩

-- On a built tree, an application that answers with tags fitted every clause, answers whether the
-- pattern is final, raises the flag for a final one, and answers the tags it leaves; each node
-- has the entity of the last clause covering it, or its tag from before when no clause covers it.
theorem apply_success_writes_last_cover {untokenize : List String → String} {heads : List Int}
    {relations : List (Option String)} {words : List String} {t : Tree}
    (hb : build untokenize heads relations words = .ok t) {p : Pattern}
    {g g' : Tagging} {success : Bool} {out : List String}
    (h : (t.apply p).run g = .ok (success, out) g') (hout : out ≠ []) :
    (∀ c ∈ p.clauses, ∃ ss qs, c.steps = .ok ss ∧ t.select ss = .ok qs ∧ qs ≠ [] ∧ none ∉ qs) ∧
      success = p.final ∧ g'.applied = (g.applied || p.final) ∧ out = g'.tags ∧
      ∀ v, out[v]? = g.tags[v]?.map fun x => ((t.lastCover p.clauses v).map Clause.entity).getD x := by
  have hr := parent_root_of_build hb
  simp only [apply, EStateM.run_bind, EStateM.run_get] at h
  split at h
  case _ ok g₁ hrun =>
    cases ok with
    | false =>
      simp only [Bool.false_eq_true, if_false, EStateM.run_pure, EStateM.Result.ok.injEq,
        Prod.mk.injEq] at h
      exact absurd h.1.2.symm hout
    | true =>
      obtain ⟨hsel, rfl⟩ := applyClauses_true hr g.tags p.clauses g g₁ hrun
      have hwrite := getElem?_writeClauses (t := t) p.clauses g.tags
      cases hfin : p.final
      · simp only [hfin, Bool.false_eq_true, if_false, if_true, EStateM.run_bind,
          EStateM.run_get, EStateM.run_pure, EStateM.Result.ok.injEq, Prod.mk.injEq] at h
        obtain ⟨⟨rfl, rfl⟩, rfl⟩ := h
        exact ⟨hsel, rfl, by simp, rfl, hwrite⟩
      · simp only [hfin, if_true, EStateM.run_bind, EStateM.run_modify, EStateM.run_get,
          EStateM.run_pure, EStateM.Result.ok.injEq, Prod.mk.injEq] at h
        obtain ⟨⟨rfl, rfl⟩, rfl⟩ := h
        exact ⟨hsel, rfl, by simp, rfl, hwrite⟩
  case _ => cases h

-- Three clauses over a three-word sentence: the first tags the whole tree, the second the root
-- alone, and the third, by way of a step back up, the subject.
theorem apply_success_overwrites :
    let p : Pattern := ⟨[⟨"ent1", ["root"], false⟩, ⟨"rel", ["root"], true⟩,
      ⟨"cond", ["root", "dobj", "..", "nsubj"], false⟩], true⟩
    let g : Tagging := Tagging.fresh 3
    let out := ["cond", "rel", "ent1"]
    ∃ t, build (String.intercalate " ") [2, 0, 2]
        [some "nsubj", some "root", some "dobj"] ["system", "shows", "data"] =
        .ok t ∧
      (t.apply p).run g = .ok (true, out) ⟨out, true⟩ ∧ out ≠ [] ∧
      ((∀ c ∈ p.clauses, ∃ ss qs, c.steps = .ok ss ∧ t.select ss = .ok qs ∧ qs ≠ [] ∧ none ∉ qs) ∧
        true = p.final ∧ (⟨out, true⟩ : Tagging).applied = (g.applied || p.final) ∧
        out = (⟨out, true⟩ : Tagging).tags ∧
        ∀ v, out[v]? = g.tags[v]?.map fun x =>
          ((t.lastCover p.clauses v).map Clause.entity).getD x) := by
  intro p g out
  obtain ⟨t, hb⟩ : ∃ t, build (String.intercalate " ") [2, 0, 2]
      [some "nsubj", some "root", some "dobj"]
      ["system", "shows", "data"] = .ok t := exists_build_of_isOk (by decide)
  have hans : (t.apply p).answer g = some (true, out) ∧ (t.apply p).after g = ⟨out, true⟩ := by
    have h : ((build (String.intercalate " ") [2, 0, 2] [some "nsubj", some "root", some "dobj"]
        ["system", "shows", "data"]).toOption.map fun t => ((t.apply p).answer g, (t.apply p).after g)) =
          some (some (true, out), ⟨out, true⟩) := by decide
    rw [hb] at h
    simpa [Except.toOption] using h
  have hrun := Edit.run_eq_of_answer hans.1
  rw [hans.2] at hrun
  exact ⟨t, hb, hrun, by decide, apply_success_writes_last_cover hb hrun (by decide)⟩

end Tree

end DepTagger

end
