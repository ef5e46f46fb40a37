import DepTagger.Proofs.Tree.Faults

noncomputable section
open Classical

namespace DepTagger

section Joining

variable {α ε : Type}

-- A fold that appends a text for each item gives the texts of all items joined.
theorem foldlM_append_eq {f : String → α → Except ε String} {g : α → Except ε String}
    (hfg : ∀ acc x, f acc x = (acc ++ ·) <$> g x) :
    ∀ (xs : List α) (acc : String),
      xs.foldlM f acc = (fun ss => acc ++ String.join ss) <$> xs.mapM g
  | [], acc => by simp [pure, Except.pure, Functor.map, Except.map, String.join_nil]
  | x :: xs, acc => by
    rw [List.foldlM_cons, hfg, List.mapM_cons]
    cases hx : g x with
    | error e => rfl
    | ok s =>
      simp only [Functor.map, Except.map, bind, Except.bind]
      rw [foldlM_append_eq hfg xs (acc ++ s)]
      cases xs.mapM g with
      | error e => rfl
      | ok ss => simp [pure, Except.pure, Functor.map, Except.map, String.join_cons, String.append_assoc]

theorem mapM_flatMap {β γ : Type} {g : α → List β} {h : β → Except ε γ} :
    ∀ xs : List α, (xs.flatMap g).mapM h = List.flatten <$> xs.mapM fun x => (g x).mapM h
  | [] => rfl
  | x :: xs => by
    rw [List.flatMap_cons, List.mapM_append, List.mapM_cons, mapM_flatMap xs]
    cases (g x).mapM h with
    | error e => rfl
    | ok bs =>
      cases xs.mapM fun x => (g x).mapM h with
      | error e => rfl
      | ok bss => rfl

theorem mapM_eq_ok_map {β : Type} {f : α → Except ε β} {g : α → β} :
    ∀ {xs : List α}, (∀ x ∈ xs, f x = .ok (g x)) → xs.mapM f = .ok (xs.map g)
  | [], _ => rfl
  | x :: xs, h => by
    rw [List.mapM_cons, h x (by simp), mapM_eq_ok_map fun y hy => h y (by simp [hy])]
    rfl

theorem mapM_fault {β : Type} {f : α → Except ε β} {P : ε → Prop} :
    ∀ {xs : List α}, (∀ x ∈ xs, ∀ e, f x = .error e → P e) → ∀ {e}, xs.mapM f = .error e → P e
  | [], _, _, h => by cases h
  | x :: xs, hf, e, h => by
    rw [List.mapM_cons] at h
    cases hx : f x with
    | error e' =>
      rw [hx] at h
      cases h
      exact hf x (by simp) _ hx
    | ok b =>
      rw [hx] at h
      cases hr : xs.mapM f with
      | error e' =>
        rw [hr] at h
        cases h
        exact mapM_fault (fun y hy => hf y (by simp [hy])) hr
      | ok bs =>
        rw [hr] at h
        cases h

theorem exists_mapM_error {β : Type} {f : α → Except ε β} {x : α} {e : ε} :
    ∀ {xs : List α}, x ∈ xs → f x = .error e → ∃ e', xs.mapM f = .error e'
  | y :: xs, hx, he => by
    rw [List.mapM_cons]
    cases hy : f y with
    | error e' => exact ⟨e', rfl⟩
    | ok b =>
      rcases List.mem_cons.mp hx with rfl | hx
      · rw [he] at hy
        cases hy
      · obtain ⟨e', he'⟩ := exists_mapM_error hx he
        exact ⟨e', by simp [he', bind, Except.bind]⟩

theorem mapM_map_of {β γ : Type} {f : α → Except ε β} {g : α → Except ε γ} {φ : γ → β} :
    ∀ {xs : List α}, (∀ x ∈ xs, f x = φ <$> g x) → xs.mapM f = List.map φ <$> xs.mapM g
  | [], _ => rfl
  | x :: xs, h => by
    rw [List.mapM_cons, List.mapM_cons, h x (by simp), mapM_map_of fun y hy => h y (by simp [hy])]
    cases g x with
    | error e => rfl
    | ok c =>
      cases xs.mapM g with
      | error e => rfl
      | ok cs => rfl

theorem join_flatten : ∀ lss : List (List String),
    String.join lss.flatten = String.join (lss.map String.join)
  | [] => rfl
  | ls :: lss => by
    rw [List.flatten_cons, String.join_append, join_flatten lss, List.map_cons, String.join_cons]

end Joining

namespace Tree

variable (t : Tree)

def preorderWith : Nat → Nat → List (Nat × Nat)
  | 0, _ => []
  | fuel + 1, v =>
    (t.children v).flatMap fun c => (c, 1) :: (preorderWith fuel c).map fun e => (e.1, e.2 + 1)

def preorder (v : Nat) : List (Nat × Nat) := t.preorderWith (t.size + 1) v

def spaces (m : Int) : String := String.join (List.replicate m.toNat "      ")

def nodeText (u : Nat) : String :=
  (t.relation u).getD "" ++ ": '" ++ t.word u ++ "' [" ++ toString u ++ "]"

def outlineText (k : Int) (v : Nat) : String :=
  String.join ((t.preorder v).map fun e => spaces (k + e.2 - 1) ++ "|---> " ++ t.nodeText e.1 ++ "\n")

def entry (k : Int) (e : Nat × Nat) : Except Fault String :=
  (fun l => indent (k + e.2 - 1) ++ "|---> " ++ l ++ "\n") <$> t.line e.1

variable {t}

theorem indent_eq_spaces (m : Int) : indent m = spaces m := by
  rw [indent, spaces, ← String.toList_inj, String.toList_ofList, String.toList_join]
  induction m.toNat with
  | zero => rfl
  | succ n ih =>
    rw [List.replicate_succ, List.flatMap_cons, ← ih, Nat.mul_succ, Nat.add_comm,
      List.replicate_add]
    rfl

theorem line_of_relation {u : Nat} {r : String} (hu : u < t.size) (h : t.relation u = some r) :
    t.line u = .ok (t.nodeText u) := by
  obtain ⟨n, hn⟩ : ∃ n, t.nodes[u]? = some n := ⟨t.nodes[u], List.getElem?_eq_getElem hu⟩
  have hr : n.relation = some r := by simpa [relation, hn] using h
  simp [line, hn, Node.lineOf, hr, nodeText, h, word]
  rfl

theorem line_of_unlabelled {u : Nat} (hu : u < t.size) (h : t.relation u = none) :
    t.line u = .error .unlabelled := by
  obtain ⟨n, hn⟩ : ∃ n, t.nodes[u]? = some n := ⟨t.nodes[u], List.getElem?_eq_getElem hu⟩
  have hr : n.relation = none := by simpa [relation, hn] using h
  simp [line, hn, Node.lineOf, hr]

theorem lt_size_of_up {u v d : Nat} (h : t.up (d + 1) u = some v) : u < t.size := by
  rw [up_succ] at h
  obtain ⟨p, hp, -⟩ := Option.bind_eq_some_iff.mp h
  exact (lt_size_of_parent hp).1

-- Below a node on no cycle, the walk lists a node at a depth exactly when going up that many
-- levels from it reaches the node; the induction is on the fuel, each child having less weight.
theorem mem_preorderWith {v fuel : Nat} (hv : ¬ t.OnCycle v) (hf : t.weight v < fuel) (u d : Nat) :
    (u, d) ∈ t.preorderWith fuel v ↔ 0 < d ∧ t.up d u = some v := by
  induction fuel generalizing v u d with
  | zero => omega
  | succ fuel ih =>
    have hchild : ∀ c ∈ t.children v, ∀ u d,
        (u, d) ∈ t.preorderWith fuel c ↔ 0 < d ∧ t.up d u = some c := by
      intro c hc
      have hp := (t.mem_children).mp hc
      exact ih (fun h => hv (onCycle_of_parent hp h)) (by have := weight_lt_of_parent hp hv; omega)
    simp only [preorderWith, List.mem_flatMap, List.mem_cons, Prod.mk.injEq, List.mem_map,
      Prod.exists]
    constructor
    · rintro ⟨c, hc, ⟨rfl, rfl⟩ | ⟨u', d', hmem, rfl, rfl⟩⟩
      · exact ⟨Nat.one_pos, by rw [up_one]; exact (t.mem_children).mp hc⟩
      · obtain ⟨-, hup⟩ := (hchild c hc u' d').mp hmem
        exact ⟨Nat.succ_pos _, by rw [up_succ', hup, Option.bind_some]; exact (t.mem_children).mp hc⟩
    · rintro ⟨hd, hup⟩
      obtain ⟨d', rfl⟩ : ∃ d', d = d' + 1 := ⟨d - 1, by omega⟩
      rw [up_succ'] at hup
      obtain ⟨c, hc, hcv⟩ := Option.bind_eq_some_iff.mp hup
      refine ⟨c, (t.mem_children).mpr hcv, ?_⟩
      cases d' with
      | zero =>
        have : u = c := by simpa using hc
        exact .inl ⟨this, rfl⟩
      | succ d' => exact .inr ⟨u, d' + 1, (hchild c ((t.mem_children).mpr hcv) u _).mpr ⟨by omega, hc⟩, rfl, rfl⟩

theorem mem_preorder {v : Nat} (hv : ¬ t.OnCycle v) (u d : Nat) :
    (u, d) ∈ t.preorder v ↔ 0 < d ∧ t.up d u = some v :=
  mem_preorderWith hv (Nat.lt_succ_of_le weight_le) u d

-- The nodes strictly below `v` are those the walk lists.
theorem below_iff_mem_preorder {v u : Nat} (hv : ¬ t.OnCycle v) :
    (t.Below v u ∧ u ≠ v) ↔ ∃ d, (u, d) ∈ t.preorder v := by
  simp only [mem_preorder hv]
  constructor
  · rintro ⟨⟨d, hd⟩, hne⟩
    refine ⟨d, Nat.pos_of_ne_zero fun h0 => hne ?_, hd⟩
    subst h0
    simpa using hd
  · rintro ⟨d, hd, hup⟩
    refine ⟨⟨d, hup⟩, fun huv => hv ⟨d - 1, ?_⟩⟩
    rw [← huv, Nat.sub_add_cancel hd]
    exact huv ▸ hup

-- The outline below a node on no cycle is its entries joined: the induction is on the fuel, the
-- fold over the children becoming the walk over the nodes below them one level deeper.
theorem outlineWith_eq {v fuel : Nat} (hv : ¬ t.OnCycle v) (hf : t.weight v < fuel) (k : Int) :
    t.outlineWith fuel k v = String.join <$> (t.preorderWith fuel v).mapM (t.entry k) := by
  induction fuel generalizing v k with
  | zero => omega
  | succ fuel ih =>
    have hchild : ∀ c ∈ t.children v, ∀ k,
        t.outlineWith fuel k c = String.join <$> (t.preorderWith fuel c).mapM (t.entry k) := by
      intro c hc k
      have hp := (t.mem_children).mp hc
      exact ih (fun h => hv (onCycle_of_parent hp h)) (by have := weight_lt_of_parent hp hv; omega) k
    -- one level deeper the children stand at the next level
    have hshift : ∀ (k : Int) (es : List (Nat × Nat)),
        (es.map fun e => (e.1, e.2 + 1)).mapM (t.entry k) = es.mapM (t.entry (k + 1)) := by
      intro k es
      rw [List.mapM_map]
      congr 1
      funext e
      simp only [Function.comp, entry]
      have hk : k + ↑(e.2 + 1) - 1 = k + 1 + ↑e.2 - 1 := by omega
      rw [hk]
    -- each child gives its own line followed by the outline below it
    have hblock : ∀ c ∈ t.children v,
        (do
          let l ← t.line c
          let below ← t.outlineWith fuel (k + 1) c
          pure (indent k ++ "|---> " ++ l ++ "\n" ++ below)) =
        String.join <$> ((c, 1) :: (t.preorderWith fuel c).map fun e => (e.1, e.2 + 1)).mapM
          (t.entry k) := by
      intro c hc
      rw [hchild c hc, List.mapM_cons, hshift, entry]
      simp only [show k + ((1 : Nat) : Int) - 1 = k by omega]
      cases t.line c with
      | error e => rfl
      | ok l =>
        cases (t.preorderWith fuel c).mapM (t.entry (k + 1)) with
        | error e => rfl
        | ok ls => simp [Functor.map, Except.map, bind, Except.bind, pure, Except.pure,
            String.join_cons, String.append_assoc]
    rw [outlineWith, foldlM_append_eq (g := fun c => do
        let l ← t.line c
        let below ← t.outlineWith fuel (k + 1) c
        pure (indent k ++ "|---> " ++ l ++ "\n" ++ below)) (fun acc c => ?_),
      mapM_map_of hblock, preorderWith, mapM_flatMap]
    · cases (t.children v).mapM (fun c => ((c, 1) :: (t.preorderWith fuel c).map
          fun e => (e.1, e.2 + 1)).mapM (t.entry k)) with
      | error e => rfl
      | ok lss => simp [Functor.map, Except.map, join_flatten]
    · cases t.line c with
      | error e => rfl
      | ok l =>
        cases t.outlineWith fuel (k + 1) c with
        | error e => rfl
        | ok o => simp [Functor.map, Except.map, bind, Except.bind, pure, Except.pure,
            String.append_assoc]

theorem outline_eq_mapM {v : Nat} (hv : ¬ t.OnCycle v) (k : Int) :
    t.outline k v = String.join <$> (t.preorder v).mapM (t.entry k) :=
  outlineWith_eq hv (Nat.lt_succ_of_le weight_le) k

-- Every node the walk lists is a node of the tree.
theorem lt_size_of_mem_preorder {v u d : Nat} (hv : ¬ t.OnCycle v) (h : (u, d) ∈ t.preorder v) :
    u < t.size := by
  obtain ⟨hd, hup⟩ := (mem_preorder hv u d).mp h
  exact lt_size_of_up (d := d - 1) (by rwa [Nat.sub_add_cancel hd])

-- The outline below a node on no cycle: the lines of the nodes below it when all of them have a
-- relation, else the fault of the first that has none.
theorem outline_eq {v : Nat} (hv : ¬ t.OnCycle v) (k : Int) :
    t.outline k v =
      if ∀ u, t.Below v u → u ≠ v → t.relation u ≠ none then .ok (t.outlineText k v)
      else .error .unlabelled := by
  rw [outline_eq_mapM hv]
  split
  · next hall =>
    have hentry : ∀ e ∈ t.preorder v,
        t.entry k e = .ok (spaces (k + e.2 - 1) ++ "|---> " ++ t.nodeText e.1 ++ "\n") := by
      rintro ⟨u, d⟩ hmem
      obtain ⟨hbelow, hne⟩ := (below_iff_mem_preorder hv).mpr ⟨d, hmem⟩
      obtain ⟨r, hr⟩ := Option.ne_none_iff_exists'.mp (hall u hbelow hne)
      simp [entry, line_of_relation (lt_size_of_mem_preorder hv hmem) hr, indent_eq_spaces,
        Functor.map, Except.map]
    rw [mapM_eq_ok_map hentry]
    rfl
  · next hsome =>
    simp only [not_forall, not_not] at hsome
    obtain ⟨u, hbelow, hne, hnone⟩ := hsome
    obtain ⟨d, hmem⟩ := (below_iff_mem_preorder hv).mp ⟨hbelow, hne⟩
    -- the walk meets a node without a relation, and no line faults otherwise
    have hu : t.entry k (u, d) = .error .unlabelled := by
      simp [entry, line_of_unlabelled (lt_size_of_mem_preorder hv hmem) hnone, Functor.map,
        Except.map]
    obtain ⟨e, he⟩ := exists_mapM_error hmem hu
    have hfault : e = .unlabelled := by
      refine mapM_fault (P := (· = .unlabelled)) (fun x hx e' hx' => ?_) he
      cases hl : t.line x.1 with
      | error e'' =>
        simp only [entry, hl, Functor.map, Except.map, Except.error.injEq] at hx'
        exact hx' ▸ line_fault (lt_size_of_mem_preorder hv hx) hl
      | ok l => simp [entry, hl, Functor.map, Except.map] at hx'
    rw [he, hfault]
    rfl

-- A built tree prints its sentence, its root's line and the outline below the root, and fails
-- exactly when a node reached from the root has no relation.
theorem text_eq {untokenize : List String → String} {heads : List Int}
    {relations : List (Option String)} {words : List String}
    (hb : build untokenize heads relations words = .ok t) :
    t.text =
      if ∀ u, t.Reachable u → t.relation u ≠ none then
        .ok (t.sentence ++ "\n" ++ t.nodeText t.root ++ "\n" ++ t.outlineText 0 t.root)
      else .error .unlabelled := by
  have hr := parent_root_of_build hb
  have hroot : ¬ t.OnCycle t.root := Reachable.not_onCycle hr .root
  -- below the root, the nodes other than the root are the ones reached from it
  have hreach : (∀ u, t.Reachable u → t.relation u ≠ none) ↔
      t.relation t.root ≠ none ∧ ∀ u, t.Below t.root u → u ≠ t.root → t.relation u ≠ none := by
    simp only [reachable_iff_below]
    constructor
    · intro h
      exact ⟨h _ (.refl t _), fun u hu _ => h u hu⟩
    · rintro ⟨h0, h⟩ u hu
      by_cases hur : u = t.root
      · exact hur ▸ h0
      · exact h u hu hur
  unfold text
  rw [outline_eq hroot]
  cases hrel : t.relation t.root with
  | none =>
    have hnot : ¬ ∀ u, t.Reachable u → t.relation u ≠ none := fun h => h _ .root hrel
    simp [line_of_unlabelled t.root_lt hrel, hnot, bind, Except.bind]
  | some r =>
    have h0 : t.relation t.root ≠ none := by simp [hrel]
    rw [line_of_relation t.root_lt hrel]
    by_cases hall : ∀ u, t.Below t.root u → u ≠ t.root → t.relation u ≠ none
    · have hall' : ∀ u, t.Reachable u → t.relation u ≠ none := hreach.mpr ⟨h0, hall⟩
      rw [if_pos hall, if_pos hall']
      rfl
    · have hall' : ¬ ∀ u, t.Reachable u → t.relation u ≠ none := fun h => hall (hreach.mp h).2
      rw [if_neg hall, if_neg hall']
      rfl

theorem printing_eq_walk_lines {untokenize : List String → String} {heads : List Int}
    {relations : List (Option String)} {words : List String}
    (hb : build untokenize heads relations words = .ok t) {v : Nat}
    (hv : ¬ t.OnCycle v) (k : Int) :
    (∀ u d, (u, d) ∈ t.preorder v ↔ 0 < d ∧ t.up d u = some v) ∧
    t.outline k v =
      (if ∀ u, t.Below v u → u ≠ v → t.relation u ≠ none then .ok (t.outlineText k v)
      else .error .unlabelled) ∧
    t.text =
      if ∀ u, t.Reachable u → t.relation u ≠ none then
        .ok (t.sentence ++ "\n" ++ t.nodeText t.root ++ "\n" ++ t.outlineText 0 t.root)
      else .error .unlabelled :=
  ⟨mem_preorder hv, outline_eq hv k, text_eq hb⟩

-- Four words, two of them each other's head: the root's outline, from level -1, leaves the cycle
-- out.
theorem printing_beside_a_cycle :
    ∃ t, build (String.intercalate " ") [2, 0, 4, 3]
        [some "nsubj", some "root", some "advmod", some "dep"]
        ["it", "works", "here", "now"] = .ok t ∧ ¬ t.OnCycle t.root ∧
      (∀ u d, (u, d) ∈ t.preorder t.root ↔ 0 < d ∧ t.up d u = some t.root) ∧
      t.outline (-1) t.root =
        (if ∀ u, t.Below t.root u → u ≠ t.root → t.relation u ≠ none then
          .ok (t.outlineText (-1) t.root)
        else .error .unlabelled) ∧
      t.text =
        if ∀ u, t.Reachable u → t.relation u ≠ none then
          .ok (t.sentence ++ "\n" ++ t.nodeText t.root ++ "\n" ++ t.outlineText 0 t.root)
        else .error .unlabelled := by
  obtain ⟨t, hb⟩ : ∃ t, build (String.intercalate " ") [2, 0, 4, 3]
      [some "nsubj", some "root", some "advmod", some "dep"]
      ["it", "works", "here", "now"] = .ok t := exists_build_of_isOk (by decide)
  have hroot : ¬ t.OnCycle t.root := Reachable.not_onCycle (parent_root_of_build hb) .root
  exact ⟨t, hb, hroot, printing_eq_walk_lines hb hroot (-1)⟩

end Tree

end DepTagger

end
