import DepTagger.Pattern.Select
import DepTagger.Proofs.Tree.Ancestry

namespace DepTagger

namespace Step

-- The level a step leads to from level `d` below the root.
def level : Step → Nat → Nat
  | .down _, d | .downTo _ _, d => d + 1
  | .lacking _, d => d
  | .up, d => d - 1

-- The steps, taken `d` levels below the root, never go up from the root.
def staysOn : Nat → List Step → Bool
  | _, [] => true
  | d, s :: ss => (s != .up || d != 0) && staysOn (s.level d) ss

-- A step down to the children of a relation keeps every child a step with a word test keeps.
def loosens : Step → Step → Bool
  | .down r, .downTo r' _ => r == r'
  | _, _ => false

-- `a` selects something whenever `b` does: it is a prefix of `b`, except that its last step may
-- go down without the word test of `b`'s step.
def looserPrefix : List Step → List Step → Bool
  | [], _ => true
  | _ :: _, [] => false
  | s :: a, s' :: b => (s == s' && looserPrefix a b) || (a.isEmpty && s.loosens s')

end Step

namespace Clause

-- The path is well formed and stays on the tree.
def onTree (c : Clause) : Bool :=
  match c.steps with
  | .ok ss => Step.staysOn 0 ss
  | .error _ => false

end Clause

theorem exists_mapM_ok {α β ε : Type} {f : α → Except ε β} {Q : β → Prop} :
    ∀ (l : List α), (∀ a ∈ l, ∃ b, f a = .ok b ∧ Q b) →
      ∃ bs, l.mapM f = .ok bs ∧ ∀ b ∈ bs, Q b
  | [], _ => ⟨[], rfl, by simp⟩
  | a :: l, h => by
    obtain ⟨b, hb, hq⟩ := h a (by simp)
    obtain ⟨bs, hbs, hqs⟩ := exists_mapM_ok l fun a' ha' => h a' (by simp [ha'])
    rw [List.mapM_cons, hb, hbs]
    exact ⟨b :: bs, rfl, by simpa [hq] using hqs⟩

namespace Tree

variable (t : Tree)

-- Every place is a node `d` levels below the root.
def AtDepth (d : Nat) (ps : List Place) : Prop :=
  ∀ p ∈ ps, ∃ j, p = some j ∧ t.up d j = some t.root

variable {t}

theorem atDepth_root : t.AtDepth 0 [some t.root] := by simp [AtDepth]

theorem AtDepth.nil (d : Nat) : t.AtDepth d [] := by simp [AtDepth]

theorem AtDepth.flatten {d : Nat} {qss : List (List Place)} (h : ∀ qs ∈ qss, t.AtDepth d qs) :
    t.AtDepth d qss.flatten := by
  intro p hp
  obtain ⟨qs, hqs, hp⟩ := List.mem_flatten.mp hp
  exact h qs hqs p hp

theorem AtDepth.children {d j : Nat} {qs : List Nat} (hj : t.up d j = some t.root)
    (hqs : ∀ c ∈ qs, t.parent c = some j) : t.AtDepth (d + 1) (qs.map some) := by
  intro p hp
  obtain ⟨c, hc, rfl⟩ := List.mem_map.mp hp
  exact ⟨c, rfl, by rw [up_succ, hqs c hc, Option.bind_some, hj]⟩

-- One step from a node `d` levels down leads to nodes one level lower for a step down, at the
-- same level for a test, and one level higher for a step up, which is only taken below the root.
theorem stepFrom_atDepth {d j : Nat} (hj : t.up d j = some t.root) (s : Step)
    (hs : s = .up → d ≠ 0) :
    ∃ qs, t.stepFrom s (some j) = .ok qs ∧ t.AtDepth (s.level d) qs := by
  cases s with
  | down rel => exact ⟨_, rfl, .children hj fun c hc => t.parent_of_mem_group hc⟩
  | downTo rel w =>
    refine ⟨_, rfl, .children hj fun c hc => ?_⟩
    exact t.parent_of_mem_group (List.mem_filter.mp hc).1
  | lacking rel =>
    refine ⟨_, rfl, ?_⟩
    split
    · exact .nil d
    · simpa [AtDepth, Step.level] using hj
  | up =>
    cases d with
    | zero => exact absurd rfl (hs rfl)
    | succ d =>
      rw [up_succ] at hj
      obtain ⟨p, hp, hpr⟩ := Option.bind_eq_some_iff.mp hj
      exact ⟨_, rfl, by simpa [AtDepth, Step.level, hp] using hpr⟩

theorem advance_atDepth {s : Step} {d : Nat} {ps : List Place}
    (h : ∀ p ∈ ps, ∃ qs, t.stepFrom s p = .ok qs ∧ t.AtDepth d qs) :
    ∃ qs, t.advance s ps = .ok qs ∧ t.AtDepth d qs := by
  obtain ⟨qss, hqss, hd⟩ := exists_mapM_ok ps h
  exact ⟨qss.flatten, by simp only [advance, hqss]; rfl, .flatten hd⟩

-- Following steps that stay on the tree from nodes `d` levels down never faults, and ends on
-- nodes that lie at some level below the root. The induction is on the steps.
theorem reach_atDepth :
    ∀ {ss : List Step} {d : Nat} {ps : List Place}, Step.staysOn d ss = true → t.AtDepth d ps →
      ∃ qs d', t.reach ss ps = .ok qs ∧ t.AtDepth d' qs
  | [], d, ps, _, hps => ⟨ps, d, rfl, hps⟩
  | s :: ss, d, ps, hs, hps => by
    simp only [Step.staysOn, Bool.and_eq_true, Bool.or_eq_true, bne_iff_ne, ne_eq] at hs
    obtain ⟨hup, hss⟩ := hs
    have hstep : ∀ p ∈ ps, ∃ qs, t.stepFrom s p = .ok qs ∧ t.AtDepth (s.level d) qs := by
      intro p hp
      obtain ⟨j, rfl, hj⟩ := hps p hp
      exact stepFrom_atDepth hj s fun h => hup.resolve_left (not_not.mpr h)
    obtain ⟨qs, hqs, hd⟩ := advance_atDepth hstep
    simp only [reach, hqs, bind, Except.bind]
    split
    · exact ⟨[], 0, rfl, .nil 0⟩
    · exact reach_atDepth hss hd

-- A clause whose path stays on the tree selects, without fault, only nodes below the root.
theorem select_of_onTree {c : Clause} (hc : c.onTree = true) :
    ∃ ss qs, c.steps = .ok ss ∧ t.select ss = .ok qs ∧
      ∀ q ∈ qs, ∃ j, q = some j ∧ t.Below t.root j := by
  unfold Clause.onTree at hc
  split at hc
  case _ ss hss =>
    obtain ⟨qs, d, hqs, hd⟩ := reach_atDepth hc atDepth_root
    refine ⟨ss, qs, hss, hqs, fun q hq => ?_⟩
    obtain ⟨j, rfl, hj⟩ := hd q hq
    exact ⟨j, rfl, d, hj⟩
  case _ => cases hc

theorem advance_cons (s : Step) (p : Place) (ps : List Place) :
    t.advance s (p :: ps) =
      t.stepFrom s p >>= fun q => t.advance s ps >>= fun qs => pure (q ++ qs) := by
  simp only [advance, List.mapM_cons, bind_assoc, pure_bind, List.flatten_cons]

theorem reach_nil_places (ss : List Step) : t.reach ss [] = .ok [] := by
  cases ss <;> rfl

-- Nothing is reached from no place.
theorem ne_nil_of_reach {ss : List Step} {ps qs : List Place} (h : t.reach ss ps = .ok qs)
    (hq : qs ≠ []) : ps ≠ [] := by
  rintro rfl
  rw [reach_nil_places] at h
  exact hq (Except.ok.inj h).symm

theorem reach_cons_of_advance {s : Step} {ss : List Step} {ps qs₁ : List Place}
    (h : t.advance s ps = .ok qs₁) (hq : qs₁ ≠ []) :
    t.reach (s :: ss) ps = t.reach ss qs₁ := by
  simp [reach, h, bind, Except.bind, hq]

-- A path that selects something took each of its steps to some places.
theorem reach_cons_of_ne_nil {s : Step} {ss : List Step} {ps qs : List Place}
    (h : t.reach (s :: ss) ps = .ok qs) (hq : qs ≠ []) :
    ∃ qs₁, t.advance s ps = .ok qs₁ ∧ qs₁ ≠ [] ∧ t.reach ss qs₁ = .ok qs := by
  cases ha : t.advance s ps with
  | error e => simp [reach, ha, bind, Except.bind] at h
  | ok qs₁ =>
    by_cases he : qs₁ = []
    · subst he
      simp [reach, ha, bind, Except.bind] at h
      exact absurd h hq
    · exact ⟨qs₁, rfl, he, by rwa [reach_cons_of_advance ha he] at h⟩

-- Every prefix of a path that selects something selects something.
theorem reach_append_ne_nil :
    ∀ {ss ss' : List Step} {ps qs : List Place}, t.reach (ss ++ ss') ps = .ok qs → qs ≠ [] →
      ∃ qs', t.reach ss ps = .ok qs' ∧ qs' ≠ []
  | [], ss', ps, qs, h, hq => ⟨ps, rfl, ne_nil_of_reach h hq⟩
  | s :: ss, ss', ps, qs, h, hq => by
    obtain ⟨qs₁, ha, hne, hr⟩ := reach_cons_of_ne_nil h hq
    obtain ⟨qs', hr', hne'⟩ := reach_append_ne_nil hr hq
    exact ⟨qs', by rw [reach_cons_of_advance ha hne, hr'], hne'⟩

-- Dropping the word test of a step keeps every place it led to.
theorem advance_downTo_sublist {rel w : String} :
    ∀ {ps qs : List Place}, t.advance (.downTo rel w) ps = .ok qs →
      ∃ qs', t.advance (.down rel) ps = .ok qs' ∧ qs.Sublist qs'
  | [], qs, h => ⟨[], rfl, by cases h; exact .refl _⟩
  | p :: ps, qs, h => by
    cases p with
    | none => simp [advance_cons, stepFrom, bind, Except.bind] at h
    | some i =>
      cases hr : t.advance (.downTo rel w) ps with
      | error e => simp [advance_cons, stepFrom, hr, bind, Except.bind] at h
      | ok rs =>
        obtain ⟨rs', hrs', hsub⟩ := advance_downTo_sublist hr
        simp only [advance_cons, stepFrom, hr, bind, Except.bind, pure, Except.pure,
          Except.ok.injEq] at h
        subst h
        refine ⟨(t.group i rel).map some ++ rs',
          by simp [advance_cons, stepFrom, hrs', bind, Except.bind, pure, Except.pure], ?_⟩
        exact (List.filter_sublist.map some).append hsub

theorem reach_append_downTo {rel w : String} :
    ∀ {ss : List Step} {ps qs : List Place},
      t.reach (ss ++ [.downTo rel w]) ps = .ok qs → qs ≠ [] →
      ∃ qs', t.reach (ss ++ [.down rel]) ps = .ok qs' ∧ qs' ≠ []
  | [], ps, qs, h, hq => by
    obtain ⟨qs₁, ha, hne, hr⟩ := reach_cons_of_ne_nil h hq
    obtain ⟨qs', ha', hsub⟩ := advance_downTo_sublist ha
    have hne' : qs' ≠ [] := fun h' => hne (List.eq_nil_of_sublist_nil (h' ▸ hsub))
    exact ⟨qs', by rw [List.nil_append, reach_cons_of_advance ha' hne']; rfl, hne'⟩
  | s :: ss, ps, qs, h, hq => by
    obtain ⟨qs₁, ha, hne, hr⟩ := reach_cons_of_ne_nil h hq
    obtain ⟨qs', hr', hne'⟩ := reach_append_downTo hr hq
    exact ⟨qs', by rw [List.cons_append, reach_cons_of_advance ha hne, hr'], hne'⟩

theorem reach_of_looserPrefix :
    ∀ {a b : List Step} {ps qs : List Place},
      Step.looserPrefix a b = true → t.reach b ps = .ok qs →
      qs ≠ [] → ∃ qs', t.reach a ps = .ok qs' ∧ qs' ≠ []
  | [], _, ps, _, _, h, hq => ⟨ps, rfl, ne_nil_of_reach h hq⟩
  | _ :: _, [], _, _, hab, _, _ => by simp [Step.looserPrefix] at hab
  | s :: a, s' :: b, ps, qs, hab, h, hq => by
    simp only [Step.looserPrefix, Bool.or_eq_true, Bool.and_eq_true, beq_iff_eq,
      List.isEmpty_iff] at hab
    rcases hab with ⟨rfl, hab⟩ | ⟨rfl, hlo⟩
    · -- the same first step: it leads to the same places, and the rest follows
      obtain ⟨qs₁, h₁, hne₁, hr⟩ := reach_cons_of_ne_nil h hq
      obtain ⟨qs', hr', hne'⟩ := reach_of_looserPrefix hab hr hq
      exact ⟨qs', by rw [reach_cons_of_advance h₁ hne₁, hr'], hne'⟩
    · -- a last step down without the word test of a step that leads somewhere
      cases s <;> cases s' <;> simp [Step.loosens] at hlo
      case down.downTo r r' w =>
        subst hlo
        obtain ⟨qs₁, h₁, hne₁⟩ :=
          reach_append_ne_nil (show t.reach ([.downTo r w] ++ b) ps = .ok qs from h) hq
        exact reach_append_downTo (show t.reach ([] ++ [.downTo r w]) ps = .ok qs₁ from h₁) hne₁

-- A step that keeps a node only if it lacks a group, and that leads somewhere, says it lacks it.
theorem reach_lacking_of_ne_nil {i : Nat} {rel : String} {ss : List Step} {qs : List Place}
    (h : t.reach (.lacking rel :: ss) [some i] = .ok qs) (hq : qs ≠ []) :
    t.hasGroup i rel = false ∧ t.reach ss [some i] = .ok qs := by
  obtain ⟨qs₁, h₁, hne₁, hr⟩ := reach_cons_of_ne_nil h hq
  by_cases hg : t.hasGroup i rel
  · simp [stepFrom, hg, advance, bind, Except.bind, pure, Except.pure] at h₁
    exact absurd h₁ hne₁
  · simp [stepFrom, hg, advance, bind, Except.bind, pure, Except.pure] at h₁
    subst h₁
    exact ⟨by simpa using hg, hr⟩

-- A step down a group that leads somewhere says the group is there.
theorem hasGroup_of_reach_down {i : Nat} {rel : String} {ss : List Step} {qs : List Place}
    (h : t.reach (.down rel :: ss) [some i] = .ok qs) (hq : qs ≠ []) : t.hasGroup i rel = true := by
  obtain ⟨qs₁, h₁, hne₁, -⟩ := reach_cons_of_ne_nil h hq
  simp [stepFrom, advance, bind, Except.bind, pure, Except.pure] at h₁
  subst h₁
  exact (t.hasGroup_iff).mpr fun hnil => hne₁ (by simp [hnil])

variable (t) in
def next : Step → Nat → List Nat
  | .down rel, v => t.group v rel
  | .downTo rel w, v => (t.group v rel).filter fun j => Text.lower (t.word j) == Text.lower w
  | .lacking rel, v => if t.hasGroup v rel then [] else [v]
  | .up, v => (t.parent v).toList

-- From a node, a step leads to the nodes `next` gives, unless it goes up from a node without a
-- parent: that leads to the hole.
theorem stepFrom_some {s : Step} {v : Nat} (h : s = .up → t.parent v ≠ none) :
    t.stepFrom s (some v) = .ok ((t.next s v).map some) := by
  cases s with
  | down rel => rfl
  | downTo rel w => rfl
  | lacking rel =>
    simp only [stepFrom, next]
    split <;> rfl
  | up =>
    obtain ⟨p, hp⟩ := Option.ne_none_iff_exists'.mp (h rfl)
    simp [stepFrom, next, hp]

theorem advance_map_some {s : Step} :
    ∀ {vs : List Nat}, (s = .up → ∀ v ∈ vs, t.parent v ≠ none) →
      t.advance s (vs.map some) = .ok ((vs.flatMap (t.next s)).map some)
  | [], _ => rfl
  | v :: vs, h => by
    rw [List.map_cons, advance_cons, stepFrom_some fun hs => h hs v (by simp),
      advance_map_some fun hs w hw => h hs w (by simp [hw])]
    simp [bind, Except.bind, pure, Except.pure]

-- A step up leads from each node to its parent, the hole for a node without one.
theorem advance_up_map_some : ∀ vs : List Nat, t.advance .up (vs.map some) = .ok (vs.map t.parent)
  | [] => rfl
  | v :: vs => by
    rw [List.map_cons, advance_cons, advance_up_map_some vs]
    rfl

end Tree

end DepTagger
