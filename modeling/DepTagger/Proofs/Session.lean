import DepTagger.Session
import DepTagger.Proofs.Labelling.Search

namespace DepTagger

namespace Command

-- Whether the command, so answered, reports that a final pattern applied.
def succeeded : Command → Except Fault Reply → Bool
  | .apply _, .ok (.applied success _) => success
  | .applyBuiltin _, .ok (.applied success _) => success
  | .labelAll, .ok (.matched m) => m.isSome
  | _, _ => false

-- Whether the command cleans the tagging; a labelling cleans before it applies patterns.
def cleans : Command → Bool
  | .clean | .labelAll => true
  | _ => false

-- The flag after the command, so answered, from the flag before it.
def flagAfter (c : Command) (r : Except Fault Reply) (b : Bool) : Bool :=
  c.succeeded r || (b && !c.cleans)

end Command

-- The flag a history of commands and their answers leaves, from the flag `b`.
def flagOf (b : Bool) (hist : List (Command × Except Fault Reply)) : Bool :=
  hist.foldl (fun b e => e.1.flagAfter e.2 b) b

-- Some command of the history reported that a final pattern applied, and none after it cleaned.
def FlagDue (hist : List (Command × Except Fault Reply)) : Prop :=
  ∃ pre e post, hist = pre ++ e :: post ∧ e.1.succeeded e.2 = true ∧
    ∀ e' ∈ post, e'.1.cleans = false

section Flag

variable {hist : List (Command × Except Fault Reply)} {e : Command × Except Fault Reply}

theorem not_flagDue_nil : ¬ FlagDue [] := by
  rintro ⟨pre, e, post, h, -⟩
  simp at h

theorem flagDue_append_singleton :
    FlagDue (hist ++ [e]) ↔
      e.1.succeeded e.2 = true ∨ (FlagDue hist ∧ e.1.cleans = false) := by
  constructor
  · rintro ⟨pre, e', post, h, hs, hc⟩
    rcases List.eq_nil_or_concat post with rfl | ⟨post, x, rfl⟩
    · obtain ⟨rfl, he⟩ := List.append_inj' h rfl
      cases he
      exact .inl hs
    · rw [List.concat_eq_append] at h hc
      rw [← List.cons_append, ← List.append_assoc] at h
      obtain ⟨rfl, he⟩ := List.append_inj' h rfl
      cases he
      exact .inr ⟨⟨pre, e', post, rfl, hs, fun y hy => hc y (by simp [hy])⟩, hc e (by simp)⟩
  · rintro (hs | ⟨⟨pre, e', post, rfl, hs, hc⟩, hce⟩)
    · exact ⟨hist, e, [], rfl, hs, by simp⟩
    · refine ⟨pre, e', post ++ [e], by simp, hs, fun y hy => ?_⟩
      rcases List.mem_append.mp hy with hy | hy
      · exact hc y hy
      · rw [List.mem_singleton.mp hy]
        exact hce

theorem flagOf_cons (b : Bool) : flagOf b (e :: hist) = flagOf (e.1.flagAfter e.2 b) hist := rfl

theorem flagOf_append_singleton (b : Bool) :
    flagOf b (hist ++ [e]) = e.1.flagAfter e.2 (flagOf b hist) := by
  simp [flagOf]

-- The flag kept step by step is the one the history calls for; the induction adds one command at
-- the end.
theorem flagOf_false_iff : flagOf false hist = true ↔ FlagDue hist := by
  induction hist using List.reverseRecOn with
  | nil => simp [flagOf, not_flagDue_nil]
  | append_singleton hist e ih =>
    rw [flagOf_append_singleton, flagDue_append_singleton, ← ih]
    simp [Command.flagAfter]

end Flag

namespace Tree

variable {t : Tree} {g : Tagging}

-- The tagging a command leaves and what it answers: one entry of a run.
def outcome (t : Tree) (c : Command) (g : Tagging) : Tagging × Except Fault Reply :=
  match (t.perform c).run g with
  | .ok r g' => (g', .ok r)
  | .error f g' => (g', .error f)

theorem runFrom_cons (g : Tagging) (c : Command) (cs : List Command) :
    t.runFrom g (c :: cs) = t.outcome c g :: t.runFrom (t.outcome c g).1 cs := by
  cases h : (t.perform c).run g <;> simp [runFrom, outcome, h]

theorem outcome_fst (c : Command) : (t.outcome c g).1 = (t.perform c).after g := by
  cases h : (t.perform c).run g <;> simp [outcome, Edit.after, h]

-- A command that keeps the tags' count and the flag, even when it faults, and reports no success.
theorem outcome_of_preserves {c : Command}
    (hp : ∀ b, Edit.Preserves (Tagging.HasShape t.size b) (t.perform c))
    (hs : ∀ r, c.succeeded r = false) (hc : c.cleans = false) (hg : g.tags.length = t.size) :
    (t.outcome c g).1.tags.length = t.size ∧
      (t.outcome c g).1.applied = c.flagAfter (t.outcome c g).2 g.applied := by
  obtain ⟨hlen, happ⟩ := hp g.applied g ⟨hg, rfl⟩
  rw [outcome_fst]
  exact ⟨hlen, by simp [Command.flagAfter, hs, hc, happ]⟩

theorem outcome_apply (p : Pattern) :
    (t.outcome (.apply p) g).1.tags.length = g.tags.length ∧
      (t.outcome (.apply p) g).1.applied =
        Command.flagAfter (.apply p) (t.outcome (.apply p) g).2 g.applied := by
  cases h : (t.apply p).run g with
  | ok x g' =>
    obtain ⟨hlen, happ⟩ := apply_ok h
    have ho : t.outcome (.apply p) g = (g', .ok (.applied x.1 x.2)) := by
      simp [outcome, perform, h]
    rw [ho]
    exact ⟨hlen, by
      simp [happ, Command.flagAfter, Command.succeeded, Command.cleans, Bool.or_comm]⟩
  | error f g' =>
    obtain ⟨hlen, happ⟩ := apply_error h
    have ho : t.outcome (.apply p) g = (g', .error f) := by
      simp [outcome, perform, h]
    rw [ho]
    exact ⟨hlen, by simp [happ, Command.flagAfter, Command.succeeded, Command.cleans]⟩

theorem outcome_clean : t.outcome .clean g = (g.clean, .ok .done) := by
  simp [outcome, perform]

theorem outcome_labelAll (hr : t.parent t.root = none) (hg : g.tags.length = t.size) :
    t.outcome .labelAll g = (⟨t.labelTags, t.firstFit.isSome⟩, .ok (.matched t.firstFit)) := by
  simp [outcome, perform, run_label hr hg]

-- What one command does to a tagging with one tag per node: one tag per node stays, and the flag
-- moves as the command's answer says.
theorem outcome_spec (hr : t.parent t.root = none) (hg : g.tags.length = t.size) (c : Command) :
    (t.outcome c g).1.tags.length = t.size ∧
      (t.outcome c g).1.applied = c.flagAfter (t.outcome c g).2 g.applied := by
  cases c with
  | apply p =>
    obtain ⟨hlen, happ⟩ := outcome_apply (t := t) (g := g) p
    exact ⟨hlen.trans hg, happ⟩
  | applyBuiltin k =>
    cases hk : Address.resolve Pattern.builtin.length k with
    | ok i =>
      have ho : t.outcome (.applyBuiltin k) g = t.outcome (.apply (Pattern.builtin.get i)) g := by
        simp [outcome, perform, hk, Edit.lift]
      obtain ⟨hlen, happ⟩ := outcome_apply (t := t) (g := g) (Pattern.builtin.get i)
      rw [ho]
      refine ⟨hlen.trans hg, happ.trans ?_⟩
      cases (t.outcome (.apply (Pattern.builtin.get i)) g).2 with
      | ok r => cases r <;> rfl
      | error f => rfl
    | error f =>
      have ho : t.outcome (.applyBuiltin k) g = (g, .error f) := by
        simp only [outcome, perform, hk, Edit.lift]
        rfl
      rw [ho]
      exact ⟨hg, by simp [Command.flagAfter, Command.succeeded, Command.cleans]⟩
  | clean =>
    rw [outcome_clean]
    exact ⟨by simp [hg], by simp [Command.flagAfter, Command.succeeded, Command.cleans]⟩
  | labels => exact outcome_of_preserves (fun _ => .pure _) (fun _ => rfl) rfl hg
  | setTag k label only =>
    exact outcome_of_preserves
      (fun _ => .bind (.lift _) fun i => .bind (preserves_tag only i) fun _ => .pure _)
      (fun _ => rfl) rfl hg
  | print =>
    exact outcome_of_preserves (fun _ => .bind (.lift _) fun _ => .pure _) (fun _ => rfl) rfl hg
  | inspect k indent =>
    exact outcome_of_preserves
      (fun _ => .bind (.lift _) fun _ => .bind (.lift _) fun _ => .bind (.lift _) fun _ => .pure _)
      (fun _ => rfl) rfl hg
  | labelAll =>
    rw [outcome_labelAll hr hg]
    exact ⟨length_labelTags, by simp [Command.flagAfter, Command.succeeded, Command.cleans]⟩

@[simp] theorem succeeded_error (c : Command) (f : Fault) : c.succeeded (.error f) = false := by
  cases c <;> rfl

-- A command that cleans never faults.
theorem outcome_ok_of_cleans (hr : t.parent t.root = none) (hg : g.tags.length = t.size)
    {c : Command} (hc : c.cleans = true) : ∃ r, (t.outcome c g).2 = .ok r := by
  cases c with
  | clean => exact ⟨.done, by rw [outcome_clean]⟩
  | labelAll => exact ⟨.matched t.firstFit, by rw [outcome_labelAll hr hg]⟩
  | _ => simp [Command.cleans] at hc

-- A command that faults leaves the flag as it was.
theorem outcome_error_applied (hr : t.parent t.root = none) (hg : g.tags.length = t.size)
    {c : Command} {f : Fault} (hf : (t.outcome c g).2 = .error f) :
    (t.outcome c g).1.applied = g.applied := by
  have hcl : c.cleans = false := by
    cases hc : c.cleans with
    | false => rfl
    | true =>
      obtain ⟨r, hok⟩ := outcome_ok_of_cleans hr hg hc
      rw [hok] at hf
      cases hf
  rw [(outcome_spec hr hg c).2, hf]
  simp [Command.flagAfter, hcl]

-- Each entry of a run is the outcome of its command from the tagging the entry before left, the
-- start for the first; that tagging has one tag per node, and the entry's flag is the one the
-- history up to it calls for. The induction is on the commands, from any start.
theorem runFrom_spec (hr : t.parent t.root = none) :
    ∀ (cs : List Command) (g : Tagging), g.tags.length = t.size → ∀ n (hn : n < cs.length),
      ∃ g₀, (g :: (t.runFrom g cs).map Prod.fst)[n]? = some g₀ ∧
        g₀.tags.length = t.size ∧
        (t.runFrom g cs)[n]? = some (t.outcome cs[n] g₀) ∧
        (t.outcome cs[n] g₀).1.applied =
          flagOf g.applied ((cs.zip ((t.runFrom g cs).map Prod.snd)).take (n + 1))
  | [], _, _, n, hn => absurd hn (Nat.not_lt_zero n)
  | c :: cs, g, hg, 0, _ => by
    refine ⟨g, rfl, hg, by simp [runFrom_cons], ?_⟩
    simp [runFrom_cons, flagOf, (outcome_spec hr hg c).2]
  | c :: cs, g, hg, n + 1, hn => by
    obtain ⟨hlen, happ⟩ := outcome_spec hr hg c
    obtain ⟨g₀, h₀, hlen₀, hrun, hflag⟩ := runFrom_spec hr cs _ hlen n (by simpa using hn)
    refine ⟨g₀, by simpa [runFrom_cons] using h₀, hlen₀,
      by simpa [runFrom_cons] using hrun, ?_⟩
    simpa [runFrom_cons, flagOf_cons, happ] using hflag

-- After every command of a session on a built tree: one tag per node, the flag exactly when some
-- command since the last clean reported success, the flag unchanged by a command that faults, and
-- a labelling answering what labelling the tree afresh does.
theorem session_flag_iff {untokenize : List String → String} {heads : List Int}
    {relations : List (Option String)} {words : List String}
    (hb : build untokenize heads relations words = .ok t) (cs : List Command) (n : Nat)
        (hn : n < cs.length) :
    ∃ g₀ g r, (Tagging.fresh t.size :: (t.session cs).map Prod.fst)[n]? = some g₀ ∧
      (t.session cs)[n]? = some (g, r) ∧
      g.tags.length = t.size ∧
      (g.applied = true ↔ FlagDue ((cs.zip ((t.session cs).map Prod.snd)).take (n + 1))) ∧
      ((∃ f, r = .error f) → g.applied = g₀.applied) ∧
      (cs[n] = .labelAll →
        ∃ m, t.label.run (Tagging.fresh t.size) = .ok m g ∧ r = .ok (.matched m)) := by
  have hr := parent_root_of_build hb
  have hfresh : (Tagging.fresh t.size).tags.length = t.size := by simp [Tagging.fresh]
  obtain ⟨g₀, h₀, hlen₀, hrun, hflag⟩ := runFrom_spec hr cs _ hfresh n hn
  refine ⟨g₀, (t.outcome cs[n] g₀).1, (t.outcome cs[n] g₀).2, h₀, hrun,
    (outcome_spec hr hlen₀ _).1, ?_, ?_, ?_⟩
  · rw [hflag]
    exact flagOf_false_iff
  · rintro ⟨f, hf⟩
    exact outcome_error_applied hr hlen₀ hf
  · intro hc
    rw [hc, outcome_labelAll hr hlen₀]
    exact ⟨t.firstFit, run_label hr hfresh, rfl⟩

-- A command that faults on a node that does not exist, then a labelling.
theorem session_fault_then_label :
    let cs : List Command := [.setTag 9 "x" false, .labelAll]
    ∃ t, build (String.intercalate " ") [3, 3, 0, 3]
        [some "nsubj", some "dobj", some "root", some "advcl"]
        ["place", "UAV", "can", "approve"] = .ok t ∧ 1 < cs.length ∧
      ∃ g₀ g r, (Tagging.fresh t.size :: (t.session cs).map Prod.fst)[1]? = some g₀ ∧
        (t.session cs)[1]? = some (g, r) ∧
        g.tags.length = t.size ∧
        (g.applied = true ↔ FlagDue ((cs.zip ((t.session cs).map Prod.snd)).take 2)) ∧
        ((∃ f, r = .error f) → g.applied = g₀.applied) ∧
        (cs[1] = .labelAll →
          ∃ m, t.label.run (Tagging.fresh t.size) = .ok m g ∧ r = .ok (.matched m)) := by
  intro cs
  obtain ⟨t, hb⟩ : ∃ t, build (String.intercalate " ") [3, 3, 0, 3]
      [some "nsubj", some "dobj", some "root", some "advcl"]
      ["place", "UAV", "can", "approve"] = .ok t := exists_build_of_isOk (by decide)
  exact ⟨t, hb, by decide, session_flag_iff hb cs 1 (by decide)⟩

end Tree

end DepTagger
