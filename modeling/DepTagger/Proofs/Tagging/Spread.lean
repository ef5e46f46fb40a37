import DepTagger.Tagging
import DepTagger.Proofs.Tree.Ancestry

noncomputable section
open Classical

namespace DepTagger

-- `tags` with `label` at each position in `s`.
def retag (tags : List String) (s : Set Nat) (label : String) : List String :=
  tags.mapIdx fun j x => if j ∈ s then label else x

section Retag

variable {tags : List String} {s s' : Set Nat} {label : String}

@[simp] theorem length_retag : (retag tags s label).length = tags.length := List.length_mapIdx

theorem getElem?_retag (j : Nat) :
    (retag tags s label)[j]? = tags[j]?.map fun x => if j ∈ s then label else x := by
  simp [retag, List.getElem?_mapIdx]

theorem retag_retag : retag (retag tags s label) s' label = retag tags (s ∪ s') label := by
  refine List.ext_getElem? fun j => ?_
  simp only [getElem?_retag, Option.map_map]
  cases tags[j]? <;> by_cases hs : j ∈ s <;> by_cases hs' : j ∈ s' <;> simp [hs, hs']

@[simp] theorem retag_empty : retag tags ∅ label = tags := by
  refine List.ext_getElem? fun j => ?_
  cases h : tags[j]? <;> simp [getElem?_retag, h]

theorem set_eq_retag (i : Nat) : tags.set i label = retag tags {i} label := by
  refine List.ext_getElem? fun j => ?_
  rw [List.getElem?_set, getElem?_retag]
  by_cases h : i = j
  · subst h
    by_cases hi : i < tags.length
    · simp [hi]
    · simp [hi]
  · simp [h, Ne.symm h]

end Retag

namespace Tagging

-- A tagging with `n` tags and the flag `b`.
def HasShape (n : Nat) (b : Bool) (g : Tagging) : Prop := g.tags.length = n ∧ g.applied = b

theorem hasShape_setTag {n : Nat} {b : Bool} {g : Tagging} (i : Nat) (label : String)
    (h : g.HasShape n b) : (g.setTag i label).HasShape n b := by
  simpa [HasShape] using h

end Tagging

namespace Edit

-- The tagging an edit leaves, whether it ends with a value or stops with a fault.
def after {α : Type} (e : Edit α) (g : Tagging) : Tagging :=
  match e.run g with
  | .ok _ g' => g'
  | .error _ g' => g'

-- Every run of `e` from a tagging with `P` leaves a tagging with `P`, even one that faults.
def Preserves {α : Type} (P : Tagging → Prop) (e : Edit α) : Prop := ∀ g, P g → P (e.after g)

variable {α β : Type} {P : Tagging → Prop}

@[simp] theorem run_map (f : α → β) (x : Edit α) (g : Tagging) :
    (f <$> x).run g = match x.run g with
      | .ok a g' => .ok (f a) g'
      | .error e g' => .error e g' := by
  simp only [EStateM.run, Functor.map, EStateM.map]
  cases x g <;> rfl

@[simp] theorem run_lift_ok (a : α) (g : Tagging) : (lift (.ok a)).run g = .ok a g := rfl

@[simp] theorem run_lift_error (f : Fault) (g : Tagging) :
    (lift (.error f) : Edit α).run g = .error f g := rfl

theorem Preserves.pure (a : α) : Preserves P (pure a : Edit α) := fun _ h => h

theorem Preserves.throw (f : Fault) : Preserves P (throw f : Edit α) := fun _ h => h

theorem Preserves.modify {h : Tagging → Tagging} (hh : ∀ g, P g → P (h g)) :
    Preserves P (modify h : Edit PUnit) := hh

theorem Preserves.lift (x : Except Fault α) : Preserves P (lift x) := by
  cases x with
  | ok a => exact .pure a
  | error f => exact .throw f

theorem Preserves.bind {x : Edit α} {f : α → Edit β} (hx : Preserves P x)
    (hf : ∀ a, Preserves P (f a)) : Preserves P (x >>= f) := by
  intro g hg
  have := hx g hg
  unfold after at this ⊢
  rw [EStateM.run_bind]
  split at this
  case _ a g' hrun => rw [hrun]; exact hf a g' this
  case _ e g' hrun => rw [hrun]; exact this

-- The edit that follows a lifted result only ever runs on the value that was computed.
theorem Preserves.lift_bind {x : Except Fault α} {f : α → Edit β}
    (hf : ∀ a, x = .ok a → Preserves P (f a)) : Preserves P (Edit.lift x >>= f) := by
  cases x with
  | ok a => exact hf a rfl
  | error e => exact fun _ h => h

theorem Preserves.forM {xs : List α} {f : α → Edit PUnit} (hf : ∀ a ∈ xs, Preserves P (f a)) :
    Preserves P (xs.forM f) := by
  induction xs with
  | nil => exact .pure _
  | cons x xs ih =>
    simp only [List.forM]
    exact .bind (hf x (by simp)) fun _ => ih fun a ha => hf a (by simp [ha])

-- Edits that each retag some set with one label, run over a list, retag the union of the sets.
theorem run_forM_retag {xs : List α} {f : α → Edit PUnit} {s : α → Set Nat} {label : String}
    (hf : ∀ x ∈ xs, ∀ g : Tagging,
      (f x).run g = .ok () { g with tags := retag g.tags (s x) label })
    (g : Tagging) :
    (xs.forM f).run g =
      .ok () { g with tags := retag g.tags {j | ∃ x ∈ xs, j ∈ s x} label } := by
  induction xs generalizing g with
  | nil => simp
  | cons x xs ih =>
    simp only [List.forM, EStateM.run_bind, hf x (by simp) g]
    rw [ih (fun y hy => hf y (by simp [hy]))]
    simp only [retag_retag]
    congr 3
    ext j
    simp

end Edit

namespace Tree

variable (t : Tree)

-- The nodes a tag on `i` reaches: `i` alone, or `i` and every node below it.
def span (only : Bool) (i : Nat) : Set Nat := if only then {i} else {j | t.Below i j}

variable {t} {label : String} {i : Nat}

-- Spreading from a node on no cycle ends once the fuel exceeds the nodes below it, and retags
-- exactly those nodes: the induction is on the fuel, each child having less weight.
theorem run_spreadWith (hi : ¬ t.OnCycle i) {fuel : Nat} (hf : t.weight i < fuel) (g : Tagging) :
    (t.spreadWith label fuel i).run g =
      .ok () { g with tags := retag g.tags {j | t.Below i j} label } := by
  induction fuel generalizing i g with
  | zero => omega
  | succ fuel ih =>
    have hchild : ∀ c ∈ t.children i, ∀ g : Tagging,
        (t.spreadWith label fuel c).run g =
          .ok () { g with tags := retag g.tags {j | t.Below c j} label } := by
      intro c hc g
      have hp := (t.mem_children).mp hc
      have hc' : ¬ t.OnCycle c := fun h => hi (onCycle_of_parent hp h)
      exact ih hc' (by have := weight_lt_of_parent hp hi; omega) g
    simp only [spreadWith, EStateM.run_bind, EStateM.run_modify]
    rw [Edit.run_forM_retag hchild]
    simp only [Tagging.setTag, set_eq_retag, retag_retag]
    congr 3
    ext j
    simp only [Set.mem_union, Set.mem_singleton_iff, t.mem_children]
    exact below_iff.symm

-- Every spread, also one that runs out of fuel on a cycle, keeps the tags' count and the flag.
theorem preserves_spreadWith {n : Nat} {b : Bool} (fuel i : Nat) :
    Edit.Preserves (Tagging.HasShape n b) (t.spreadWith label fuel i) := by
  induction fuel generalizing i with
  | zero => exact .throw _
  | succ fuel ih =>
    exact .bind (.modify fun g => Tagging.hasShape_setTag i label) fun _ => .forM fun c _ => ih c

theorem preserves_tag {n : Nat} {b : Bool} (only : Bool) (i : Nat) :
    Edit.Preserves (Tagging.HasShape n b) (t.tag label only i) := by
  cases only with
  | true => exact .modify fun g => Tagging.hasShape_setTag i label
  | false => exact preserves_spreadWith _ i

theorem run_tag {only : Bool} (hi : ¬ t.OnCycle i) (g : Tagging) :
    (t.tag label only i).run g = .ok () { g with tags := retag g.tags (t.span only i) label } := by
  cases only with
  | true => simp [tag, span, Tagging.setTag, set_eq_retag]
  | false => exact run_spreadWith hi (Nat.lt_succ_of_le weight_le) g

end Tree

end DepTagger

end
