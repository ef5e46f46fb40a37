import DepTagger.Pattern.Apply
import DepTagger.Proofs.Pattern.Selection
import DepTagger.Proofs.Tagging.Spread

noncomputable section
open Classical

namespace DepTagger

namespace Clause

-- `c` selects something on every tree on which `c'` does.
def impliedBy (c c' : Clause) : Bool :=
  match c.steps, c'.steps with
  | .ok a, .ok b => Step.looserPrefix a b
  | _, _ => false

end Clause

namespace Pattern

-- `q` fits every tree `p` fits: each path of `q` is implied by a path of `p`.
def impliedBy (q p : Pattern) : Bool := q.clauses.all fun c => p.clauses.any c.impliedBy

end Pattern

namespace Tree

variable (t : Tree)

-- The places a clause's path selects; none when its path is refused or faults.
def selection (c : Clause) : List Place :=
  match c.steps.bind t.select with
  | .ok ps => ps
  | .error _ => []

-- Every path of the pattern selects some place.
def fits (p : Pattern) : Bool := p.clauses.all fun c => !(t.selection c).isEmpty

-- The nodes a clause writes its entity on.
def covered (c : Clause) : Set Nat := {j | ∃ i, some i ∈ t.selection c ∧ j ∈ t.span c.only i}

def writeClauses (tags : List String) (cs : List Clause) : List String :=
  cs.foldl (fun tags c => retag tags (t.covered c) c.entity) tags

def writePattern (tags : List String) (p : Pattern) : List String :=
  if t.fits p then t.writeClauses tags p.clauses else tags

variable {t}

@[simp] theorem length_writeClauses (cs : List Clause) (tags : List String) :
    (t.writeClauses tags cs).length = tags.length := by
  induction cs generalizing tags with
  | nil => rfl
  | cons c cs ih => exact (ih _).trans length_retag

@[simp] theorem length_writePattern (tags : List String) (p : Pattern) :
    (t.writePattern tags p).length = tags.length := by
  unfold writePattern
  split <;> simp

theorem fits_iff {p : Pattern} : t.fits p = true ↔ ∀ c ∈ p.clauses, t.selection c ≠ [] := by
  simp [fits]

theorem select_of_selection_ne_nil {c : Clause} (h : t.selection c ≠ []) :
    ∃ ss qs, c.steps = .ok ss ∧ t.select ss = .ok qs ∧ qs ≠ [] := by
  unfold selection at h
  cases hs : c.steps with
  | error e => simp [hs, Except.bind] at h
  | ok ss =>
    cases hq : t.select ss with
    | error e => simp [hs, hq, Except.bind] at h
    | ok qs => exact ⟨ss, qs, rfl, hq, by simpa [hs, hq, Except.bind] using h⟩

theorem selection_eq {c : Clause} {ss : List Step} {qs : List Place} (hs : c.steps = .ok ss)
    (hq : t.select ss = .ok qs) : t.selection c = qs := by
  simp [selection, hs, Except.bind, hq]

theorem selection_ne_nil_of_impliedBy {c c' : Clause} (h : c.impliedBy c' = true)
    (hc' : t.selection c' ≠ []) : t.selection c ≠ [] := by
  obtain ⟨b, qs, hb, hqs, hne⟩ := select_of_selection_ne_nil hc'
  unfold Clause.impliedBy at h
  split at h
  case _ a b' ha hb' =>
    rw [hb] at hb'
    cases hb'
    obtain ⟨qs', hqs', hne'⟩ := reach_of_looserPrefix h hqs hne
    rw [selection_eq ha hqs']
    exact hne'
  case _ => cases h

theorem fits_of_impliedBy {p q : Pattern} (h : q.impliedBy p = true) (hp : t.fits p = true) :
    t.fits q = true := by
  rw [fits_iff] at hp ⊢
  intro c hc
  obtain ⟨c', hc', himp⟩ := List.any_eq_true.mp (List.all_eq_true.mp h c hc)
  exact selection_ne_nil_of_impliedBy himp (hp c' hc')

-- Tagging every place a clause selects, all of them nodes on no cycle, writes what `covered` says.
theorem run_forM_tagPlace {c : Clause} {qs : List Place}
    (hqs : ∀ q ∈ qs, ∃ j, q = some j ∧ ¬ t.OnCycle j) (g : Tagging) :
    (qs.forM (t.tagPlace c)).run g =
      .ok () { g with
        tags := retag g.tags {j | ∃ i, some i ∈ qs ∧ j ∈ t.span c.only i} c.entity } := by
  let s : Place → Set Nat := fun q => q.elim ∅ (t.span c.only)
  have hrun : ∀ q ∈ qs, ∀ g : Tagging,
      (t.tagPlace c q).run g = .ok () { g with tags := retag g.tags (s q) c.entity } := by
    intro q hq g
    obtain ⟨j, rfl, hj⟩ := hqs q hq
    exact run_tag hj g
  rw [Edit.run_forM_retag hrun]
  congr 3
  ext j
  constructor
  · rintro ⟨q, hq, hj⟩
    obtain ⟨i, rfl, -⟩ := hqs q hq
    exact ⟨i, hq, hj⟩
  · rintro ⟨i, hi, hj⟩
    exact ⟨some i, hi, hj⟩

theorem run_applyClauses (hr : t.parent t.root = none) (saved : List String) :
    ∀ (cs : List Clause), (∀ c ∈ cs, c.onTree = true) → ∀ g : Tagging,
      (t.applyClauses saved cs).run g =
        if cs.all (fun c => !(t.selection c).isEmpty) then
          .ok true { g with tags := t.writeClauses g.tags cs }
        else .ok false { g with tags := saved }
  | [], _, g => by simp [applyClauses, writeClauses]
  | c :: cs, hcs, g => by
    obtain ⟨ss, qs, hss, hqs, hnodes⟩ := t.select_of_onTree (hcs c (by simp))
    have hsel := selection_eq hss hqs
    simp only [applyClauses, EStateM.run_bind, hss, hqs, Edit.lift, EStateM.run_pure]
    by_cases he : qs.isEmpty
    · simp [he, hsel]
    · have hcyc : ∀ q ∈ qs, ∃ j, q = some j ∧ ¬ t.OnCycle j := by
        intro q hq
        obtain ⟨j, rfl, hj⟩ := hnodes q hq
        exact ⟨j, rfl, not_onCycle_of_below hr hj⟩
      simp only [he, Bool.false_eq_true, if_false, EStateM.run_bind, run_forM_tagPlace hcyc]
      rw [run_applyClauses hr saved cs (fun c' hc' => hcs c' (by simp [hc'])) _]
      simp [he, hsel, writeClauses, covered]

-- On a tree whose root has no parent, a pattern whose paths stay on the tree either fits and
-- is written, a final one raising the flag, or does not fit and changes nothing.
theorem run_apply (hr : t.parent t.root = none) {p : Pattern}
    (hp : ∀ c ∈ p.clauses, c.onTree = true) (g : Tagging) :
    (t.apply p).run g =
      if t.fits p then
        .ok (p.final, t.writePattern g.tags p) ⟨t.writePattern g.tags p, g.applied || p.final⟩
      else .ok (false, []) g := by
  simp only [apply, EStateM.run_bind, EStateM.run_get, run_applyClauses hr g.tags p.clauses hp]
  by_cases hf : t.fits p
  · have hall : p.clauses.all (fun c => !(t.selection c).isEmpty) = true := hf
    cases hfin : p.final <;> simp [hall, hf, writePattern]
  · have hall : p.clauses.all (fun c => !(t.selection c).isEmpty) = false :=
      Bool.eq_false_iff.mpr hf
    simp [hall, hf]

theorem preserves_tagPlace {n : Nat} {b : Bool} (c : Clause) (q : Place) :
    Edit.Preserves (Tagging.HasShape n b) (t.tagPlace c q) := by
  cases q with
  | some i => exact preserves_tag c.only i
  | none => exact .throw _

-- Putting back tags of the right count keeps the shape, whatever the clauses do before.
theorem preserves_applyClauses {saved : List String} (b : Bool) :
    ∀ cs : List Clause, Edit.Preserves (Tagging.HasShape saved.length b) (t.applyClauses saved cs)
  | [] => .pure _
  | c :: cs => by
    refine .bind (.lift _) fun _ => .bind (.lift _) fun places => ?_
    split
    · exact .bind (.modify fun g hg => ⟨rfl, hg.2⟩) fun _ => .pure _
    · exact .bind (.forM fun q _ => preserves_tagPlace c q) fun _ => preserves_applyClauses b cs

-- The clauses, put back onto the pattern's own saved tags if need be, keep the tags' count and the
-- flag.
theorem after_applyClauses (t : Tree) (p : Pattern) (g : Tagging) :
    ((t.applyClauses g.tags p.clauses).after g).HasShape g.tags.length g.applied :=
  preserves_applyClauses g.applied p.clauses g ⟨rfl, rfl⟩

-- An application that answers keeps the tags' count and raises the flag exactly on success.
theorem apply_ok {p : Pattern} {g g' : Tagging} {success : Bool} {out : List String}
    (h : (t.apply p).run g = .ok (success, out) g') :
    g'.tags.length = g.tags.length ∧ g'.applied = (g.applied || success) := by
  simp only [apply, EStateM.run_bind, EStateM.run_get] at h
  have hkeep := t.after_applyClauses p g
  unfold Edit.after at hkeep
  split at h
  case _ ok g₁ hrun =>
    rw [hrun] at hkeep
    obtain ⟨hlen, happ⟩ := hkeep
    cases ok with
    | true =>
      cases hfin : p.final <;> simp [hfin] at h <;> obtain ⟨⟨rfl, -⟩, rfl⟩ := h <;>
        simp [hlen, happ]
    | false =>
      simp at h
      obtain ⟨⟨rfl, -⟩, rfl⟩ := h
      simp [hlen, happ]
  case _ => cases h

-- An application that faults keeps the tags' count and the flag.
theorem apply_error {p : Pattern} {g g' : Tagging} {f : Fault}
    (h : (t.apply p).run g = .error f g') :
    g'.tags.length = g.tags.length ∧ g'.applied = g.applied := by
  simp only [apply, EStateM.run_bind, EStateM.run_get] at h
  have hkeep := t.after_applyClauses p g
  unfold Edit.after at hkeep
  split at h
  case _ ok g₁ hrun =>
    cases ok <;> [simp at h; (cases hfin : p.final <;> simp [hfin] at h)]
  case _ f' g₁ hrun =>
    rw [hrun] at hkeep
    cases h
    exact hkeep

end Tree

end DepTagger

end
