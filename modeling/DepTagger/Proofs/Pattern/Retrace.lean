import DepTagger.Proofs.Pattern.Selection

namespace DepTagger

namespace Step

def isDown : Step → Bool
  | .down _ | .downTo _ _ => true
  | _ => false

-- An entry that neither tests for a group nor goes up is a step down.
theorem isDown_ofString {s : String} (hbang : s.toList.head? ≠ some '!') (hup : s ≠ "..") :
    (ofString s).isDown = true := by
  have hup' : s.toList ≠ ['.', '.'] := fun h => hup (String.toList_inj.mp (by simpa using h))
  unfold ofString ofChars
  split
  · next rel h => simp [h] at hbang
  · rw [if_neg hup']
    split <;> rfl

theorem ofString_of_no_sign {x : String} (hbang : x.toList.head? ≠ some '!') (hup : x ≠ "..")
    (heq : '=' ∉ x.toList) : ofString x = .down x := by
  have hup' : x.toList ≠ ['.', '.'] := fun h => hup (String.toList_inj.mp (by simpa using h))
  have hsplit : x.toList.splitOn '=' = [x.toList] := List.splitOn_eq_singleton heq
  unfold ofString ofChars
  split
  · next rel h => simp [h] at hbang
  · simp [hup', hsplit]

theorem ofString_bang (x : String) : ofString ("!" ++ x) = .lacking x := by
  simp [ofString, ofChars]

end Step

namespace Tree

variable (t : Tree)

def admits : Step → Nat → Bool
  | .down rel, c => t.relation c == some rel
  | .downTo rel w, c => t.relation c == some rel && Text.lower (t.word c) == Text.lower w
  | _, _ => false

variable {t}

theorem reach_append (ss ss' : List Step) (ps : List Place) :
    t.reach (ss ++ ss') ps = t.reach ss ps >>= t.reach ss' := by
  induction ss generalizing ps with
  | nil => rfl
  | cons s ss ih =>
    simp only [List.cons_append, reach]
    cases t.advance s ps with
    | error e => rfl
    | ok qs =>
      by_cases h : qs = []
      · subst h
        simp [bind, Except.bind, reach_nil_places]
      · simp [bind, Except.bind, h, ih]

theorem select_append (ss ss' : List Step) : t.select (ss ++ ss') = t.select ss >>= t.reach ss' :=
  reach_append ss ss' _

-- A step down leads to the children of the node that it admits, in walking order.
theorem next_eq_kids {s : Step} (hs : s.isDown = true) (q : Nat) :
    t.next s q = ((t.kids q).filter fun e => t.admits s e.2).map Prod.snd := by
  have hrel : ∀ rel, ∀ e ∈ t.kids q, (e.1 = some rel) = (t.relation e.2 = some rel) := by
    rintro rel ⟨r, j⟩ he
    rw [t.relation_of_mem_kids he]
  cases s with
  | down rel =>
    rw [next, group_eq]
    congr 1
    refine List.filter_congr fun e he => ?_
    simp [admits, hrel rel e he, Bool.beq_eq_decide_eq]
  | downTo rel w =>
    rw [next, group_eq, List.filter_map, List.filter_filter]
    congr 1
    refine List.filter_congr fun e he => ?_
    simp [admits, hrel rel e he, Bool.beq_eq_decide_eq, Bool.and_comm]
  | lacking rel => cases hs
  | up => cases hs

theorem parent_of_mem_next {s : Step} (hs : s.isDown = true) {q c : Nat} (hc : c ∈ t.next s q) :
    t.parent c = some q := by
  rw [next_eq_kids hs] at hc
  obtain ⟨⟨r, j⟩, hk, rfl⟩ := List.mem_map.mp hc
  obtain ⟨n, hn, hp, -⟩ := (t.mem_kids).mp (List.mem_filter.mp hk).1
  simp [parent, hn, hp]

-- The children a step down leads to are as many as the children it admits.
theorem length_next {s : Step} (hs : s.isDown = true) (q : Nat) :
    (t.next s q).length = (t.children q).countP (t.admits s) := by
  rw [next_eq_kids hs, List.length_map, ← List.countP_eq_length_filter, children, groups,
    (flatMap_gather _).countP_eq, List.countP_map]
  rfl

-- From nodes, a step down and a step up come back to each node once per child gone down to.
theorem reach_down_up {s : Step} (hs : s.isDown = true) (vs : List Nat) :
    t.reach [s, .up] (vs.map some) =
      .ok (vs.flatMap fun q => List.replicate (t.next s q).length (some q)) := by
  have hne : s ≠ .up := by rintro rfl; cases hs
  have hback : (vs.flatMap (t.next s)).map t.parent =
      vs.flatMap fun q => List.replicate (t.next s q).length (some q) := by
    rw [List.map_flatMap]
    refine List.flatMap_congr fun q _ => ?_
    rw [List.map_congr_left fun c hc => parent_of_mem_next hs hc, List.map_const']
  by_cases hw : vs.flatMap (t.next s) = []
  · -- the step down leads nowhere: no node has a child it admits
    have hnil : ∀ q ∈ vs, t.next s q = [] := by simpa using hw
    simpa [reach, advance_map_some (s := s) (fun h => absurd h hne), hw, bind, Except.bind]
      using hnil
  · simp only [reach, advance_map_some (s := s) (fun h => absurd h hne), bind, Except.bind,
      List.isEmpty_iff, List.map_eq_nil_iff, hw, if_false, advance_up_map_some, hback]
    split
    · next h => rw [h]
    · rfl

-- Keeping the nodes that lack a group keeps them in order, none when no node lacks it.
theorem reach_lacking (rel : String) (vs : List Nat) :
    t.reach [.lacking rel] (vs.map some) = .ok ((vs.filter fun q => !t.hasGroup q rel).map some) := by
  have hnext : vs.flatMap (t.next (.lacking rel)) = vs.filter fun q => !t.hasGroup q rel := by
    induction vs with
    | nil => rfl
    | cons v vs ih =>
      by_cases h : t.hasGroup v rel <;> simp [next, h, ih]
  have hadv : t.advance (.lacking rel) (vs.map some) =
      .ok ((vs.filter fun q => !t.hasGroup q rel).map some) := by
    rw [advance_map_some (s := .lacking rel) fun h => by cases h]
    exact congrArg (fun l => Except.ok (l.map some)) hnext
  simp only [reach, hadv, bind, Except.bind, List.isEmpty_iff]
  split
  · next h => rw [h]
  · rfl

theorem length_next_down_pos {rel : String} {q : Nat} :
    0 < (t.next (.down rel) q).length ↔ t.hasGroup q rel = true := by
  rw [List.length_pos_iff, t.hasGroup_iff]
  rfl

-- After any path whose places are nodes, a step down and a step up select each node once per
-- child the step down admits; for a relation, the nodes without a child by it and those the step
-- down by it comes back to are apart, and together they are the nodes the path selected.
theorem select_down_up_retraces {ss : List Step} {vs : List Nat}
    (hp : t.select ss = .ok (vs.map some)) :
    (∀ s : String, s.toList.head? ≠ some '!' → s ≠ ".." →
      t.select (ss ++ [Step.ofString s, Step.ofString ".."]) =
        .ok (vs.flatMap fun q =>
          List.replicate ((t.children q).countP (t.admits (Step.ofString s))) (some q))) ∧
    (∀ x : String, x.toList.head? ≠ some '!' → x ≠ ".." → '=' ∉ x.toList →
      ∃ kept back, t.select (ss ++ [Step.ofString ("!" ++ x)]) = .ok kept ∧
        t.select (ss ++ [Step.ofString x, Step.ofString ".."]) = .ok back ∧
        (∀ p, p ∈ kept → p ∉ back) ∧ ∀ p, p ∈ vs.map some ↔ p ∈ kept ∨ p ∈ back) := by
  have hdown : ∀ s : String, s.toList.head? ≠ some '!' → s ≠ ".." →
      t.select (ss ++ [Step.ofString s, Step.ofString ".."]) =
        .ok (vs.flatMap fun q =>
          List.replicate ((t.children q).countP (t.admits (Step.ofString s))) (some q)) := by
    intro s hbang hup
    have hs := Step.isDown_ofString hbang hup
    rw [select_append, hp]
    simp only [bind, Except.bind, show Step.ofString ".." = .up from rfl, reach_down_up hs,
      length_next hs]
  refine ⟨hdown, fun x hbang hup heq => ?_⟩
  have hx := Step.ofString_of_no_sign hbang hup heq
  refine ⟨_, _, by rw [Step.ofString_bang, select_append, hp]; exact reach_lacking x vs,
    hdown x hbang hup, ?_, ?_⟩
  · intro p hk hb
    simp only [List.mem_map, List.mem_filter, Bool.not_eq_eq_eq_not, Bool.not_true] at hk
    obtain ⟨q, ⟨-, hq⟩, rfl⟩ := hk
    simp only [hx, List.mem_flatMap, List.mem_replicate, ← length_next (s := .down x) rfl] at hb
    obtain ⟨q', -, hpos, hq'⟩ := hb
    cases hq'
    rw [length_next_down_pos.mp (Nat.pos_of_ne_zero hpos)] at hq
    cases hq
  · intro p
    simp only [hx, List.mem_map, List.mem_filter, List.mem_flatMap, List.mem_replicate,
      ← length_next (s := .down x) rfl]
    constructor
    · rintro ⟨q, hq, rfl⟩
      by_cases hg : t.hasGroup q x
      · exact .inr ⟨q, hq, Nat.pos_iff_ne_zero.mp (length_next_down_pos.mpr hg), rfl⟩
      · exact .inl ⟨q, ⟨hq, by simpa using hg⟩, rfl⟩
    · rintro (⟨q, ⟨hq, -⟩, rfl⟩ | ⟨q, hq, -, rfl⟩) <;> exact ⟨q, hq, rfl⟩

-- Two objects, the first with an adjective below it: the path to the objects selects both.
theorem select_objects_retraces :
    ∃ t, build (String.intercalate " ") [2, 0, 2, 2, 3]
        [some "nsubj", some "root", some "dobj", some "dobj", some "amod"]
        ["system", "shows", "data", "logs", "raw"] = .ok t ∧
      t.select [.down "dobj"] = .ok ([2, 3].map some) ∧
      (∀ s : String, s.toList.head? ≠ some '!' → s ≠ ".." →
        t.select ([.down "dobj"] ++ [Step.ofString s, Step.ofString ".."]) =
          .ok ([2, 3].flatMap fun q =>
            List.replicate ((t.children q).countP (t.admits (Step.ofString s))) (some q))) ∧
      (∀ x : String, x.toList.head? ≠ some '!' → x ≠ ".." → '=' ∉ x.toList →
        ∃ kept back, t.select ([.down "dobj"] ++ [Step.ofString ("!" ++ x)]) = .ok kept ∧
          t.select ([.down "dobj"] ++ [Step.ofString x, Step.ofString ".."]) = .ok back ∧
          (∀ p, p ∈ kept → p ∉ back) ∧ ∀ p, p ∈ [2, 3].map some ↔ p ∈ kept ∨ p ∈ back) := by
  obtain ⟨t, hb⟩ : ∃ t, build (String.intercalate " ") [2, 0, 2, 2, 3]
      [some "nsubj", some "root", some "dobj", some "dobj", some "amod"]
      ["system", "shows", "data", "logs", "raw"] = .ok t := exists_build_of_isOk (by decide)
  have hsel : t.select [.down "dobj"] = .ok ([2, 3].map some) := by
    have h : ((build (String.intercalate " ") [2, 0, 2, 2, 3]
        [some "nsubj", some "root", some "dobj", some "dobj", some "amod"]
        ["system", "shows", "data", "logs", "raw"]).toOption.bind
          fun t => (t.select [.down "dobj"]).toOption) = some ([2, 3].map some) := by decide
    rw [hb] at h
    cases hs : t.select [.down "dobj"] <;> simp_all [Except.toOption]
  exact ⟨t, hb, hsel, select_down_up_retraces hsel⟩

end Tree

end DepTagger
