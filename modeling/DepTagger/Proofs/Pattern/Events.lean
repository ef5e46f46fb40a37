import DepTagger.Proofs.Pattern.Outcome
import DepTagger.Proofs.Tree.Construction

noncomputable section
open Classical

namespace DepTagger

inductive Event where
  | noStart
  | offRoot (first : String)
  | emptied
  | aboveRoot (next : Option Step)
  deriving DecidableEq, Repr

namespace Step

def holeUse : Step → HoleUse
  | .up => .parent
  | _ => .groups

end Step

namespace Event

-- A step up from the root reaches the hole, and the application faults only at the step after it,
-- or at the tag when it was the last step.
def fault : Event → Option Fault
  | noStart => some .outOfRange
  | offRoot first => some (.offRoot first)
  | emptied => none
  | aboveRoot next => some (.hole ((next.map Step.holeUse).getD .tag))

def ofWalk {α : Type} : Except Event α → Option Event
  | .ok _ => none
  | .error e => some e

end Event

namespace Tree

variable (t : Tree)

def follow : List Step → List Nat → Except Event (List Nat)
  | [], vs => .ok vs
  | s :: ss, vs =>
    if s = .up ∧ t.root ∈ vs then .error (.aboveRoot ss.head?)
    else
      let ws := vs.flatMap (t.next s)
      if ws = [] then .error .emptied else follow ss ws

def clauseEvent (c : Clause) : Option Event :=
  match c.path with
  | [] => some .noStart
  | first :: rest =>
    if startsAtRoot first then Event.ofWalk (t.follow (rest.map Step.ofString) [t.root])
    else some (.offRoot first)

def firstEvent (cs : List Clause) : Option Event := cs.findSome? t.clauseEvent

-- How a walk over places ends when the walk over nodes that it tracks ends as `w`.
def Tracks : Except Event (List Nat) → Except Fault (List Place) → Prop
  | .ok ws, r => ws ≠ [] ∧ r = .ok (ws.map some)
  | .error .emptied, r => r = .ok []
  | .error (.aboveRoot none), r => ∃ qs, r = .ok qs ∧ none ∈ qs ∧ t.Rooted qs
  | .error (.aboveRoot (some s)), r => r = .error (.hole s.holeUse)
  | .error _, _ => False

def KeepsUnreached (g₀ g : Tagging) : Prop :=
  g.applied = g₀.applied ∧ ∀ v, ¬ t.Reachable v → g.tags[v]? = g₀.tags[v]?

variable {t}

theorem stepFrom_none (s : Step) : t.stepFrom s none = .error (.hole s.holeUse) := by
  cases s <;> rfl

-- A step from places that include the hole faults there: the places before it lead somewhere.
theorem advance_of_none_mem {s : Step} :
    ∀ {ps : List Place}, none ∈ ps → t.advance s ps = .error (.hole s.holeUse)
  | none :: ps, _ => by
    rw [advance_cons, stepFrom_none]
    rfl
  | some j :: ps, h => by
    have hps : none ∈ ps := by simpa using h
    obtain ⟨qs, hqs⟩ : ∃ qs, t.stepFrom s (some j) = .ok qs := by cases s <;> exact ⟨_, rfl⟩
    rw [advance_cons, advance_of_none_mem hps, hqs]
    rfl

-- Below the root, only the root has no parent.
theorem eq_root_of_parent_none {v : Nat} (hv : t.Below t.root v) (hp : t.parent v = none) :
    v = t.root := by
  obtain ⟨k, hk⟩ := hv
  cases k with
  | zero => simpa using hk
  | succ k =>
    rw [up_succ, hp] at hk
    cases hk

section RootWithoutParent

variable (hr : t.parent t.root = none)
include hr

-- The walk over places follows the walk over nodes step for step: the induction is on the steps,
-- and the nodes reached stay below the root, so the only one without a parent is the root.
theorem tracks_reach :
    ∀ (ss : List Step) {vs : List Nat}, vs ≠ [] → t.Rooted (vs.map some) →
      t.Tracks (t.follow ss vs) (t.reach ss (vs.map some))
  | [], vs, hne, _ => ⟨hne, rfl⟩
  | s :: ss, vs, hne, hvs => by
    by_cases hup : s = .up ∧ t.root ∈ vs
    · obtain ⟨rfl, hroot⟩ := hup
      have hadv := t.advance_up_map_some vs
      have hnone : none ∈ vs.map t.parent := List.mem_map.mpr ⟨t.root, hroot, hr⟩
      rw [follow, if_pos ⟨rfl, hroot⟩, reach_cons_of_advance hadv (List.ne_nil_of_mem hnone)]
      cases ss with
      | nil => exact ⟨_, rfl, hnone, advance_rooted hr hvs hadv⟩
      | cons s' ss' =>
        show t.reach (s' :: ss') _ = .error (.hole s'.holeUse)
        rw [reach, advance_of_none_mem hnone]
        rfl
    · have hpar : s = .up → ∀ v ∈ vs, t.parent v ≠ none := by
        rintro rfl v hv hp
        exact hup ⟨rfl, eq_root_of_parent_none (hvs v (List.mem_map_of_mem hv)) hp ▸ hv⟩
      have hadv := advance_map_some hpar
      rw [follow, if_neg hup]
      dsimp only
      by_cases hws : vs.flatMap (t.next s) = []
      · rw [if_pos hws]
        show t.reach (s :: ss) (vs.map some) = .ok []
        simp [reach, hadv, hws, bind, Except.bind]
      · rw [if_neg hws, reach_cons_of_advance hadv (by simpa using hws)]
        exact tracks_reach ss hws (advance_rooted hr hvs hadv)

theorem tracks_select (ss : List Step) : t.Tracks (t.follow ss [t.root]) (t.select ss) :=
  tracks_reach hr ss (List.cons_ne_nil _ _) fun j hj => by
    rw [List.map_singleton, List.mem_singleton, Option.some.injEq] at hj
    exact hj ▸ .refl t _

-- Tagging places that include the hole faults there, after tagging the nodes before it.
theorem run_forM_tagPlace_of_none_mem {c : Clause} :
    ∀ {qs : List Place}, t.Rooted qs → none ∈ qs → ∀ g : Tagging,
      ∃ g', (qs.forM (t.tagPlace c)).run g = .error (.hole .tag) g'
  | none :: _, _, _, g => ⟨g, rfl⟩
  | some j :: qs, hq, h, g => by
    have hj : ¬ t.OnCycle j := not_onCycle_of_below hr (hq j (by simp))
    have hqs : t.Rooted qs := fun j' hj' => hq j' (by simp [hj'])
    obtain ⟨g', hg'⟩ := run_forM_tagPlace_of_none_mem (c := c) hqs (by simpa using h)
      { g with tags := retag g.tags (t.span c.only j) c.entity }
    exact ⟨g', by simp only [List.forM, EStateM.run_bind, tagPlace, run_tag hj g, hg']⟩

end RootWithoutParent

theorem clauseEvent_of_steps_ok {c : Clause} {ss : List Step} (hs : c.steps = .ok ss) :
    t.clauseEvent c = Event.ofWalk (t.follow ss [t.root]) := by
  unfold Clause.steps at hs
  split at hs
  · cases hs
  · next first rest hpath =>
    split at hs
    · next hst =>
      cases hs
      simp only [clauseEvent, hpath, hst, if_true]
    · cases hs

-- A path that is refused is an event with the fault it is refused with.
theorem clauseEvent_of_steps_error {c : Clause} {f : Fault} (hs : c.steps = .error f) :
    ∃ e, t.clauseEvent c = some e ∧ e.fault = some f := by
  unfold Clause.steps at hs
  split at hs
  · next hpath =>
    cases hs
    exact ⟨.noStart, by simp [clauseEvent, hpath], rfl⟩
  · next first rest hpath =>
    split at hs
    · cases hs
    · next hst =>
      cases hs
      exact ⟨.offRoot first, by simp [clauseEvent, hpath, hst], rfl⟩

section RootWithoutParent

variable (hr : t.parent t.root = none)
include hr

-- A clause without an event tags what it covers and hands on to the clauses after it.
theorem applyClauses_cons_of_no_event {c : Clause} (hc : t.clauseEvent c = none)
    (saved : List String) (cs : List Clause) (g : Tagging) :
    (t.applyClauses saved (c :: cs)).run g =
      (t.applyClauses saved cs).run { g with tags := retag g.tags (t.covered c) c.entity } := by
  cases hs : c.steps with
  | error f =>
    obtain ⟨e, he, -⟩ := t.clauseEvent_of_steps_error hs
    rw [hc] at he
    cases he
  | ok ss =>
    have htr := tracks_select hr ss
    rw [clauseEvent_of_steps_ok hs] at hc
    cases hw : t.follow ss [t.root] with
    | error e =>
      rw [hw] at hc
      cases hc
    | ok ws =>
      rw [hw] at htr
      obtain ⟨hne, hq⟩ := htr
      have hnone : none ∉ ws.map some := by simp
      have hempty : (ws.map some).isEmpty = false := by simpa using hne
      simp only [applyClauses, EStateM.run_bind, hs, hq, Edit.run_lift_ok, hempty,
        Bool.false_eq_true, if_false, run_forM_tagPlace_covered hr hs hq hnone g]

-- A clause with an event decides how the clauses from it on end, whatever clauses follow it:
-- with the event's fault, or, after a step that leads nowhere, with failure and the saved tags.
theorem applyClauses_cons_of_event {c : Clause} {e : Event} (hc : t.clauseEvent c = some e)
    (saved : List String) (g : Tagging) :
    ∃ r, (∀ cs, (t.applyClauses saved (c :: cs)).run g = r) ∧
      (∀ f, e.fault = some f → ∃ g', r = .error f g') ∧
      (e.fault = none → r = .ok false { g with tags := saved }) := by
  cases hs : c.steps with
  | error f =>
    obtain ⟨e', he', hf⟩ := t.clauseEvent_of_steps_error hs
    rw [hc, Option.some.injEq] at he'
    subst he'
    refine ⟨.error f g, fun cs => by simp [applyClauses, hs], fun f' hf' => ⟨g, ?_⟩, fun h => ?_⟩
    · rw [hf] at hf'
      cases hf'
      rfl
    · rw [hf] at h
      cases h
  | ok ss =>
    have htr := tracks_select hr ss
    rw [clauseEvent_of_steps_ok hs] at hc
    cases hw : t.follow ss [t.root] with
    | ok ws =>
      rw [hw] at hc
      cases hc
    | error e' =>
      rw [hw] at hc htr
      cases hc
      -- the walk over nodes stops only at a step, and how it stops says what the places are
      cases e with
      | noStart => exact htr.elim
      | offRoot _ => exact htr.elim
      | emptied =>
        have hq : t.select ss = .ok [] := htr
        refine ⟨.ok false { g with tags := saved }, fun cs => ?_, fun f hf => (by cases hf),
          fun _ => rfl⟩
        simp [applyClauses, hs, hq]
      | aboveRoot next =>
        cases next with
        | some s =>
          have hq : t.select ss = .error (.hole s.holeUse) := htr
          refine ⟨.error (.hole s.holeUse) g, fun cs => by simp [applyClauses, hs, hq],
            fun f hf => ⟨g, by cases hf; rfl⟩, fun h => by cases h⟩
        | none =>
          obtain ⟨qs, hq, hnone, hrooted⟩ := htr
          obtain ⟨g', hg'⟩ := run_forM_tagPlace_of_none_mem hr (c := c) hrooted hnone g
          have hne : qs ≠ [] := List.ne_nil_of_mem hnone
          refine ⟨.error (.hole .tag) g', fun cs => ?_, fun f hf => ⟨g', by cases hf; rfl⟩,
            fun h => by cases h⟩
          rw [List.forM_eq_forM] at hg'
          simp [applyClauses, hs, hq, hne, hg']

-- Clauses without events, applied in turn, write their entities and hand on to the rest.
theorem applyClauses_append_of_no_event (saved : List String) :
    ∀ (pre cs : List Clause) (g : Tagging), (∀ c ∈ pre, t.clauseEvent c = none) →
      (t.applyClauses saved (pre ++ cs)).run g =
        (t.applyClauses saved cs).run { g with tags := t.writeClauses g.tags pre }
  | [], cs, g, _ => rfl
  | c :: pre, cs, g, h => by
    rw [List.cons_append, applyClauses_cons_of_no_event hr (h c (by simp)),
      applyClauses_append_of_no_event saved pre cs _ fun c' hc' => h c' (by simp [hc'])]
    rfl

-- The first event of the clauses decides how they end, whatever clauses follow them.
theorem applyClauses_of_firstEvent {cs : List Clause} {e : Event}
    (he : t.firstEvent cs = some e) (saved : List String) (g : Tagging) :
    ∃ r, (∀ cs', (t.applyClauses saved (cs ++ cs')).run g = r) ∧
      (∀ f, e.fault = some f → ∃ g', r = .error f g') ∧
      (e.fault = none → r = .ok false { g with tags := saved }) := by
  obtain ⟨pre, c, rest, rfl, hc, hpre⟩ := List.findSome?_eq_some_iff.mp he
  obtain ⟨r, hrun, hfault, hnone⟩ :=
    applyClauses_cons_of_event hr hc saved { g with tags := t.writeClauses g.tags pre }
  refine ⟨r, fun cs' => ?_, hfault, hnone⟩
  rw [List.append_assoc, List.cons_append, applyClauses_append_of_no_event hr saved pre _ g hpre,
    hrun]

end RootWithoutParent

theorem apply_of_applyClauses_error {p : Pattern} {g g' : Tagging} {f : Fault}
    (h : (t.applyClauses g.tags p.clauses).run g = .error f g') :
    (t.apply p).run g = .error f g' := by
  simp only [apply, EStateM.run_bind, EStateM.run_get, h]

theorem apply_of_applyClauses_false {p : Pattern} {g g' : Tagging}
    (h : (t.applyClauses g.tags p.clauses).run g = .ok false g') :
    (t.apply p).run g = .ok (false, []) g' := by
  simp [apply, h]

theorem apply_of_applyClauses_true {p : Pattern} {g g' : Tagging}
    (h : (t.applyClauses g.tags p.clauses).run g = .ok true g') :
    (t.apply p).run g = .ok (p.final, g'.tags) { g' with applied := g'.applied || p.final } := by
  cases hfin : p.final <;> simp [apply, h, hfin]

section RootWithoutParent

variable (hr : t.parent t.root = none)
include hr

theorem apply_of_firstEvent_fault {p : Pattern} {e : Event} {f : Fault}
    (he : t.firstEvent p.clauses = some e) (hf : e.fault = some f) (g : Tagging) :
    ∃ g', (t.apply p).run g = .error f g' := by
  obtain ⟨r, hrun, hfault, -⟩ := applyClauses_of_firstEvent hr he g.tags g
  obtain ⟨g', rfl⟩ := hfault f hf
  have h := hrun []
  rw [List.append_nil] at h
  exact ⟨g', apply_of_applyClauses_error h⟩

-- A step that leads nowhere, met first, puts every tag back, whatever the clauses did before it.
theorem apply_of_firstEvent_emptied {p : Pattern} (he : t.firstEvent p.clauses = some .emptied)
    (g : Tagging) : (t.apply p).run g = .ok (false, []) g := by
  obtain ⟨r, hrun, -, hnone⟩ := applyClauses_of_firstEvent hr he g.tags g
  have h := hrun []
  rw [List.append_nil, hnone rfl] at h
  exact apply_of_applyClauses_false h

-- Past the first event no clause is read, and the flag matters only when there is none.
theorem apply_append_of_firstEvent {p : Pattern} (he : t.firstEvent p.clauses ≠ none)
    (cs : List Clause) (final : Bool) (g : Tagging) :
    (t.apply ⟨p.clauses ++ cs, final⟩).run g = (t.apply p).run g := by
  obtain ⟨e, he⟩ := Option.ne_none_iff_exists'.mp he
  obtain ⟨r, hrun, hfault, hnone⟩ := applyClauses_of_firstEvent hr he g.tags g
  have hp := hrun []
  have hcs := hrun cs
  rw [List.append_nil] at hp
  cases hf : e.fault with
  | some f =>
    obtain ⟨g', rfl⟩ := hfault f hf
    rw [apply_of_applyClauses_error (p := ⟨p.clauses ++ cs, final⟩) hcs,
      apply_of_applyClauses_error hp]
  | none =>
    rw [hnone hf] at hp hcs
    rw [apply_of_applyClauses_false (p := ⟨p.clauses ++ cs, final⟩) hcs,
      apply_of_applyClauses_false hp]

-- With no event the clauses are written in turn, and a final pattern raises the flag.
theorem apply_of_firstEvent_none {p : Pattern} (he : t.firstEvent p.clauses = none)
    (g : Tagging) :
    (t.apply p).run g = .ok (p.final, t.writeClauses g.tags p.clauses)
      ⟨t.writeClauses g.tags p.clauses, g.applied || p.final⟩ := by
  have h := applyClauses_append_of_no_event hr g.tags p.clauses [] g
    (List.findSome?_eq_none_iff.mp he)
  rw [List.append_nil] at h
  exact apply_of_applyClauses_true h

end RootWithoutParent

section Unreached

variable {g₀ : Tagging}

theorem keepsUnreached_setTag {g : Tagging} {i : Nat} (label : String) (hi : t.Reachable i)
    (hg : t.KeepsUnreached g₀ g) : t.KeepsUnreached g₀ (g.setTag i label) := by
  refine ⟨hg.1, fun v hv => ?_⟩
  have hiv : i ≠ v := fun h => hv (h ▸ hi)
  rw [Tagging.tags_setTag, List.getElem?_set_ne hiv]
  exact hg.2 v hv

-- A spread from a reached node, also one that runs out of fuel, tags only reached nodes.
theorem preserves_spreadWith_unreached (label : String) :
    ∀ (fuel : Nat) {i : Nat}, t.Reachable i →
      Edit.Preserves (t.KeepsUnreached g₀) (t.spreadWith label fuel i)
  | 0, _, _ => .throw _
  | fuel + 1, _, hi =>
    .bind (.modify fun _ => keepsUnreached_setTag label hi) fun _ =>
      .forM fun _ hc => preserves_spreadWith_unreached label fuel (.child hi hc)

theorem preserves_tag_unreached (label : String) (only : Bool) {i : Nat} (hi : t.Reachable i) :
    Edit.Preserves (t.KeepsUnreached g₀) (t.tag label only i) := by
  cases only with
  | true => exact .modify fun _ => keepsUnreached_setTag label hi
  | false => exact preserves_spreadWith_unreached label _ hi

theorem preserves_tagPlace_unreached (c : Clause) {q : Place}
    (hq : ∀ i, q = some i → t.Reachable i) :
    Edit.Preserves (t.KeepsUnreached g₀) (t.tagPlace c q) := by
  cases q with
  | none => exact .throw _
  | some i => exact preserves_tag_unreached c.entity c.only (hq i rfl)

variable (hr : t.parent t.root = none)
include hr

-- Every run of the clauses, also one that faults, changes only nodes reached from the root and
-- not the flag: a path selects nodes below the root, and the tags put back are the saved ones.
theorem preserves_applyClauses_unreached :
    ∀ cs : List Clause, Edit.Preserves (t.KeepsUnreached g₀) (t.applyClauses g₀.tags cs)
  | [] => .pure _
  | c :: cs => .lift_bind fun _ _ => .lift_bind fun _ hq => by
    split
    · exact .bind (.modify fun _ hg => ⟨hg.1, fun _ _ => rfl⟩) fun _ => .pure _
    · refine .bind (.forM fun q hq' => preserves_tagPlace_unreached c fun i hi => ?_) fun _ =>
        preserves_applyClauses_unreached cs
      exact reachable_iff_below.mpr (select_rooted hr hq i (hi ▸ hq'))

-- An application that faults leaves the flag and the tags of every node out of reach of the root.
theorem apply_error_keepsUnreached {p : Pattern} {g g' : Tagging} {f : Fault}
    (h : (t.apply p).run g = .error f g') : t.KeepsUnreached g g' := by
  have hkeep : t.KeepsUnreached g ((t.applyClauses g.tags p.clauses).after g) :=
    preserves_applyClauses_unreached hr p.clauses g ⟨rfl, fun _ _ => rfl⟩
  unfold Edit.after at hkeep
  cases hrun : (t.applyClauses g.tags p.clauses).run g with
  | error f' g₁ =>
    rw [apply_of_applyClauses_error hrun] at h
    rw [hrun] at hkeep
    cases h
    exact hkeep
  | ok b g₁ =>
    cases b
    · rw [apply_of_applyClauses_false hrun] at h
      cases h
    · rw [apply_of_applyClauses_true hrun] at h
      cases h

end Unreached

-- On a built tree, an application is decided by the first event of its pattern: it stops with
-- the event's fault, or answers failure with the tagging unchanged after a step that leads
-- nowhere; clauses after the event are never read; with no event each clause is written in turn;
-- and a fault changes neither the flag nor any node out of reach of the root.
theorem apply_decided_by_first_event {untokenize : List String → String} {heads : List Int}
    {relations : List (Option String)} {words : List String} {t : Tree}
    (hb : build untokenize heads relations words = .ok t) (p : Pattern)
    (g : Tagging) :
    (∀ e f, t.firstEvent p.clauses = some e → e.fault = some f →
      ∃ g', (t.apply p).run g = .error f g') ∧
    (t.firstEvent p.clauses = some .emptied → (t.apply p).run g = .ok (false, []) g) ∧
    (∀ cs final, t.firstEvent p.clauses ≠ none →
      (t.apply ⟨p.clauses ++ cs, final⟩).run g = (t.apply p).run g) ∧
    (t.firstEvent p.clauses = none →
      (t.apply p).run g = .ok (p.final, t.writeClauses g.tags p.clauses)
        ⟨t.writeClauses g.tags p.clauses, g.applied || p.final⟩) ∧
    (∀ f g', (t.apply p).run g = .error f g' →
      g'.applied = g.applied ∧ ∀ v, ¬ t.Reachable v → g'.tags[v]? = g.tags[v]?) := by
  have hr := parent_root_of_build hb
  exact ⟨fun _ _ he hf => apply_of_firstEvent_fault hr he hf g,
    fun he => apply_of_firstEvent_emptied hr he g,
    fun cs final he => apply_append_of_firstEvent hr he cs final g,
    fun he => apply_of_firstEvent_none hr he g,
    fun _ _ h => apply_error_keepsUnreached hr h⟩

-- The second clause steps up from the root and then down, which faults at the step down after
-- the first clause tagged the root; the third clause, which has no path, is never read.
theorem apply_stops_above_root :
    let p : Pattern := ⟨[⟨"rel", ["root"], true⟩, ⟨"cond", ["root", "..", "dobj"], false⟩,
      ⟨"ent1", [], false⟩], true⟩
    let g : Tagging := Tagging.fresh 3
    ∃ t, build (String.intercalate " ") [2, 0, 2]
        [some "nsubj", some "root", some "dobj"] ["system", "shows", "data"] =
        .ok t ∧
      t.firstEvent p.clauses = some (.aboveRoot (some (.down "dobj"))) ∧
      (∀ e f, t.firstEvent p.clauses = some e → e.fault = some f →
        ∃ g', (t.apply p).run g = .error f g') ∧
      (t.firstEvent p.clauses = some .emptied → (t.apply p).run g = .ok (false, []) g) ∧
      (∀ cs final, t.firstEvent p.clauses ≠ none →
        (t.apply ⟨p.clauses ++ cs, final⟩).run g = (t.apply p).run g) ∧
      (t.firstEvent p.clauses = none →
        (t.apply p).run g = .ok (p.final, t.writeClauses g.tags p.clauses)
          ⟨t.writeClauses g.tags p.clauses, g.applied || p.final⟩) ∧
      (∀ f g', (t.apply p).run g = .error f g' →
        g'.applied = g.applied ∧ ∀ v, ¬ t.Reachable v → g'.tags[v]? = g.tags[v]?) := by
  intro p g
  obtain ⟨t, hb⟩ : ∃ t, build (String.intercalate " ") [2, 0, 2]
      [some "nsubj", some "root", some "dobj"]
      ["system", "shows", "data"] = .ok t := exists_build_of_isOk (by decide)
  have hev : t.firstEvent p.clauses = some (.aboveRoot (some (.down "dobj"))) := by
    have h : ((build (String.intercalate " ") [2, 0, 2] [some "nsubj", some "root", some "dobj"]
        ["system", "shows", "data"]).toOption.map fun t => t.firstEvent p.clauses) =
          some (some (.aboveRoot (some (.down "dobj")))) := by decide
    rw [hb] at h
    simpa [Except.toOption] using h
  exact ⟨t, hb, hev, apply_decided_by_first_event hb p g⟩

end Tree

end DepTagger

end
