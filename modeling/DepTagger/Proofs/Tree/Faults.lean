import DepTagger.Session
import DepTagger.Proofs.Tree.Construction
import DepTagger.Proofs.Pattern.Selection
import DepTagger.Proofs.Tagging.Spread

namespace DepTagger

namespace Address

def Names (n : Nat) (k : Int) : Prop := -(n : Int) ≤ k ∧ k < n

def Fits (k : Int) : Prop := least ≤ k ∧ k ≤ greatest

instance (n : Nat) (k : Int) : Decidable (Names n k) := inferInstanceAs (Decidable (_ ∧ _))

instance (k : Int) : Decidable (Fits k) := inferInstanceAs (Decidable (_ ∧ _))

def IndexFaults {σ α : Type} (n : Nat) (k : Int) (r : EStateM.Result Fault σ α) : Prop :=
  ((∃ s, r = .error .outOfRange s) ↔ Fits k ∧ ¬ Names n k) ∧
    ((∃ s, r = .error .tooWide s) ↔ ¬ Fits k)

variable {n : Nat} {k : Int}

theorem resolve_ok_iff : (∃ x, resolve n k = .ok x) ↔ Fits k ∧ Names n k := by
  unfold resolve Fits Names
  split
  · simp only [reduceCtorEq, exists_false, false_iff]
    omega
  · -- the address fits: it names an item when the position it counts to lies in the list
    dsimp only
    split <;> split <;>
      simp only [Except.ok.injEq, exists_eq', reduceCtorEq, exists_false, true_iff, false_iff] <;>
      omega

theorem resolve_of_not_fits (h : ¬ Fits k) : resolve n k = .error .tooWide := by
  unfold Fits at h
  unfold resolve
  rw [if_pos (by omega)]

theorem resolve_of_not_names (h : Fits k) (h' : ¬ Names n k) : resolve n k = .error .outOfRange := by
  unfold Fits at h
  unfold Names at h'
  unfold resolve
  rw [if_neg (by omega)]
  dsimp only
  split <;> rw [dif_neg (by omega)]

theorem resolve_eq_error_iff {f : Fault} :
    resolve n k = .error f ↔ (¬ Fits k ∧ f = .tooWide) ∨ (Fits k ∧ ¬ Names n k ∧ f = .outOfRange) := by
  by_cases hf : Fits k
  · by_cases hn : Names n k
    · obtain ⟨x, hx⟩ := resolve_ok_iff.mpr ⟨hf, hn⟩
      simp [hx, hf, hn]
    · simp [resolve_of_not_names hf hn, hf, hn, eq_comm]
  · simp [resolve_of_not_fits hf, hf, eq_comm]

-- In a list that fits the runtime, an address that names an item fits a word.
theorem fits_of_names (hn : (n : Int) ≤ greatest) (h : Names n k) : Fits k := by
  unfold Fits least
  unfold Names at h
  unfold greatest at hn ⊢
  omega

end Address

section Positions

variable {β ε : Type} {f : Nat → Except ε β}

theorem mapM_range_ok_iff {n : Nat} :
    (∃ bs, (List.range n).mapM f = .ok bs) ↔ ∀ i < n, ∃ b, f i = .ok b := by
  constructor
  · rintro ⟨bs, h⟩ i hi
    obtain ⟨b, -, hb⟩ := Tree.mapM_getElem? h (List.getElem?_range hi)
    exact ⟨b, hb⟩
  · intro h
    obtain ⟨bs, hbs, -⟩ := exists_mapM_ok (Q := fun _ => True) (List.range n) fun i hi =>
      have ⟨b, hb⟩ := h i (List.mem_range.mp hi)
      ⟨b, hb, trivial⟩
    exact ⟨bs, hbs⟩

-- Two positions that each fail first are one position, failing one way.
theorem first_error_unique {i i' : Nat} {e e' : ε} (h : ∀ j < i, ∃ b, f j = .ok b)
    (he : f i = .error e) (h' : ∀ j < i', ∃ b, f j = .ok b) (he' : f i' = .error e') :
    i = i' ∧ e = e' := by
  rcases Nat.lt_trichotomy i i' with hlt | rfl | hlt
  · obtain ⟨b, hb⟩ := h' i hlt
    rw [hb] at he
    cases he
  · rw [he] at he'
    cases he'
    exact ⟨rfl, rfl⟩
  · obtain ⟨b, hb⟩ := h i' hlt
    rw [hb] at he'
    cases he'

-- A traversal of the positions below `n` fails as the first position that fails: the induction
-- adds the last position, which is reached only when all before it succeed.
theorem mapM_range_eq_error_iff {e : ε} :
    ∀ {n : Nat}, (List.range n).mapM f = .error e ↔
      ∃ i < n, (∀ j < i, ∃ b, f j = .ok b) ∧ f i = .error e
  | 0 => by simp [pure, Except.pure]
  | n + 1 => by
    rw [List.range_succ, List.mapM_append]
    cases hn : (List.range n).mapM f with
    | error e' =>
      obtain ⟨i₀, hi₀, hpre, he₀⟩ := mapM_range_eq_error_iff.mp hn
      simp only [bind, Except.bind, Except.error.injEq]
      constructor
      · rintro rfl
        exact ⟨i₀, by omega, hpre, he₀⟩
      · rintro ⟨i, -, hpre', he'⟩
        exact (first_error_unique hpre he₀ hpre' he').2
    | ok bs =>
      have hok := mapM_range_ok_iff.mp ⟨bs, hn⟩
      have hfirst : ∀ i < n + 1, (∀ j < i, ∃ b, f j = .ok b) → f i = .error e → i = n := by
        intro i hi _ he
        by_contra hin
        obtain ⟨b, hb⟩ := hok i (by omega)
        rw [hb] at he
        cases he
      cases hf : f n with
      | error e' =>
        simp only [bind, Except.bind, List.mapM_cons, hf, Except.error.injEq]
        constructor
        · rintro rfl
          exact ⟨n, by omega, hok, hf⟩
        · rintro ⟨i, hi, hpre, he⟩
          obtain rfl := hfirst i hi hpre he
          rw [hf] at he
          exact Except.error.inj he
      | ok b =>
        simp only [bind, Except.bind, List.mapM_cons, List.mapM_nil, hf, pure, Except.pure,
          reduceCtorEq, false_iff, not_exists, not_and]
        intro i hi hpre he
        obtain rfl := hfirst i hi hpre he
        rw [hf] at he
        cases he

end Positions

namespace Tree

-- The head of the word at `i` is 0 or names one of the `n` words.
def HeadFits (n : Nat) (heads : List Int) (i : Nat) : Prop :=
  ∃ h, heads[i]? = some h ∧ 1 - (n : Int) ≤ h ∧ h ≤ n

variable {n : Nat} {heads : List Int} {i : Nat}

theorem parentAt_ok_iff (hn : (n : Int) ≤ Address.greatest) (hi : i < n) :
    (∃ p, parentAt n heads i = .ok p) ↔ HeadFits n heads i := by
  unfold parentAt HeadFits
  cases hh : heads[i]? with
  | none => simp
  | some h =>
    simp only [Option.some.injEq, exists_eq_left']
    by_cases h0 : h = 0
    · simp only [h0, if_true, Except.ok.injEq, exists_eq', true_iff]
      omega
    · simp only [h0, if_false]
      -- the head, less one, must name a word; and then it fits a word too
      have hnames : Address.Names n (h - 1) ↔ 1 - (n : Int) ≤ h ∧ h ≤ n := by
        unfold Address.Names
        omega
      rw [← hnames]
      constructor
      · rintro ⟨p, hp⟩
        cases hr : Address.resolve n (h - 1) with
        | error f => simp [hr, Functor.map, Except.map] at hp
        | ok x => exact (Address.resolve_ok_iff.mp ⟨x, hr⟩).2
      · intro hname
        obtain ⟨x, hx⟩ := Address.resolve_ok_iff.mpr ⟨Address.fits_of_names hn hname, hname⟩
        exact ⟨some x, by simp [hx, Functor.map, Except.map]⟩

theorem parentAt_eq_tooWide_iff :
    parentAt n heads i = .error .tooWide ↔ ∃ h, heads[i]? = some h ∧ ¬ Address.Fits (h - 1) := by
  unfold parentAt
  cases hh : heads[i]? with
  | none => simp
  | some h =>
    simp only [Option.some.injEq, exists_eq_left']
    by_cases h0 : h = 0
    · simp only [h0, if_true, reduceCtorEq, false_iff, not_not]
      unfold Address.Fits Address.least Address.greatest
      omega
    · simp only [h0, if_false]
      cases hr : Address.resolve n (h - 1) with
      | error f =>
        simp only [Functor.map, Except.map, Except.error.injEq]
        rw [Address.resolve_eq_error_iff] at hr
        rcases hr with ⟨hf, rfl⟩ | ⟨hf, -, rfl⟩ <;> simp [hf]
      | ok x =>
        simp only [Functor.map, Except.map, reduceCtorEq, false_iff, not_not]
        exact (Address.resolve_ok_iff.mp ⟨x, hr⟩).1

theorem parentAt_fault {f : Fault} (h : parentAt n heads i = .error f) :
    f = .outOfRange ∨ f = .tooWide := by
  unfold parentAt at h
  cases hh : heads[i]? with
  | none =>
    simp only [hh, Except.error.injEq] at h
    exact .inl h.symm
  | some hd =>
    simp only [hh] at h
    split at h
    · cases h
    · cases hr : Address.resolve n (hd - 1) with
      | error f' =>
        simp only [hr, Functor.map, Except.map, Except.error.injEq] at h
        subst h
        rcases Address.resolve_eq_error_iff.mp hr with ⟨-, rfl⟩ | ⟨-, -, rfl⟩
        · exact .inr rfl
        · exact .inl rfl
      | ok x => simp [hr, Functor.map, Except.map] at h

variable {untokenize : List String → String}
    {relations : List (Option String)} {words : List String}

-- Building makes its checks in order: a head 0, a relation for every word, the first head 0 among
-- the words, then the heads word by word.
theorem build_eq_error_iff {f : Fault} :
    build untokenize heads relations words = .error f ↔
      (0 ∉ heads ∧ f = .noRoot) ∨
      ((∃ r, heads.idxOf? 0 = some r ∧ (relations.length < words.length ∨ words.length ≤ r)) ∧
        f = .outOfRange) ∨
      ((∃ r, heads.idxOf? 0 = some r ∧ r < words.length) ∧ words.length ≤ relations.length ∧
        (List.range words.length).mapM (parentAt words.length heads) = .error f) := by
  unfold build
  cases hr : heads.idxOf? 0 with
  | none =>
    have h0 : 0 ∉ heads := List.idxOf?_eq_none_iff.mp hr
    simp [h0, eq_comm]
  | some r =>
    have h0 : 0 ∈ heads := List.isSome_idxOf?.mp (by simp [hr])
    simp only [h0, not_true_eq_false, false_and, false_or, Option.some.injEq, exists_eq_left']
    by_cases hrel : relations.length < words.length
    · simp [hrel, eq_comm]
    · by_cases hroot : r < words.length
      · simp only [hrel, hroot, dif_neg, dif_pos, not_false_eq_true, false_or, true_and,
          not_lt.mp hrel, not_le.mpr hroot]
        split
        · next e he => simp [he, eq_comm]
        · next ps hps => simp [hps]
      · simp [hrel, hroot, eq_comm, not_lt.mp hroot]

-- The fault a head gives, if any, decides the fault of the whole build.
theorem build_fault_of_heads {f : Fault}
    (h : (List.range words.length).mapM (parentAt words.length heads) = .error f) :
    f = .outOfRange ∨ f = .tooWide := by
  obtain ⟨i, -, -, hi⟩ := mapM_range_eq_error_iff.mp h
  exact parentAt_fault hi

theorem build_fault {f : Fault} (h : build untokenize heads relations words = .error f) :
    f = .noRoot ∨ f = .outOfRange ∨ f = .tooWide := by
  rcases build_eq_error_iff.mp h with ⟨-, rfl⟩ | ⟨-, rfl⟩ | ⟨-, -, hm⟩
  · exact .inl rfl
  · exact .inr (.inl rfl)
  · exact .inr (build_fault_of_heads hm)

theorem build_eq_noRoot_iff :
    build untokenize heads relations words = .error .noRoot ↔ 0 ∉ heads := by
  rw [build_eq_error_iff]
  constructor
  · rintro (⟨h, -⟩ | ⟨-, h⟩ | ⟨-, -, hm⟩)
    · exact h
    · cases h
    · rcases build_fault_of_heads hm with h | h <;> cases h
  · exact fun h => .inl ⟨h, rfl⟩

theorem exists_build_iff (hn : (words.length : Int) ≤ Address.greatest) :
    (∃ t, build untokenize heads relations words = .ok t) ↔
      (∃ r, heads.idxOf? 0 = some r ∧ r < words.length) ∧ words.length ≤ relations.length ∧
        ∀ i < words.length, HeadFits words.length heads i := by
  constructor
  · rintro ⟨t, hb⟩
    obtain ⟨hlen, parents, hroot, hps, hnodes⟩ := build_eq_ok hb
    have hlt : t.root < words.length := by
      simpa [hnodes, length_nodesOf] using t.root_lt
    refine ⟨⟨t.root, hroot, hlt⟩, hlen, fun i hi => (parentAt_ok_iff hn hi).mp ?_⟩
    exact mapM_range_ok_iff.mp ⟨parents, hps⟩ i hi
  · rintro ⟨⟨r, hr, hlt⟩, hlen, hheads⟩
    cases hb : build untokenize heads relations words with
    | ok t => exact ⟨t, rfl⟩
    | error f =>
      -- no check fails: the root is there, every word has a relation, and every head fits
      exfalso
      rcases build_eq_error_iff.mp hb with ⟨h0, -⟩ | ⟨⟨r', hr', hbad⟩, -⟩ | ⟨-, -, hm⟩
      · exact h0 (List.isSome_idxOf?.mp (by simp [hr]))
      · rw [hr, Option.some.injEq] at hr'
        subst hr'
        omega
      · obtain ⟨i, hi, -, he⟩ := mapM_range_eq_error_iff.mp hm
        obtain ⟨p, hp⟩ := (parentAt_ok_iff hn hi).mpr (hheads i hi)
        rw [hp] at he
        cases he

theorem build_eq_tooWide_iff (hn : (words.length : Int) ≤ Address.greatest) :
    build untokenize heads relations words = .error .tooWide ↔
      (∃ r, heads.idxOf? 0 = some r ∧ r < words.length) ∧ words.length ≤ relations.length ∧
        ∃ i < words.length, (∀ j < i, HeadFits words.length heads j) ∧
          ∃ h, heads[i]? = some h ∧ ¬ Address.Fits (h - 1) := by
  rw [build_eq_error_iff]
  simp only [reduceCtorEq, and_false, false_or, mapM_range_eq_error_iff, parentAt_eq_tooWide_iff]
  -- a head before the first failing one gives a parent exactly when it fits
  have hpre : ∀ i < words.length, ((∀ j < i, ∃ b, parentAt words.length heads j = .ok b) ↔
      ∀ j < i, HeadFits words.length heads j) := fun i hi =>
    forall₂_congr fun j hj => parentAt_ok_iff hn (by omega)
  constructor
  · rintro ⟨hroot, hlen, i, hi, hok, hwide⟩
    exact ⟨hroot, hlen, i, hi, (hpre i hi).mp hok, hwide⟩
  · rintro ⟨hroot, hlen, i, hi, hok, hwide⟩
    exact ⟨hroot, hlen, i, hi, (hpre i hi).mpr hok, hwide⟩

end Tree

namespace Edit

def FaultsWith {α : Type} (P : Fault → Prop) (e : Edit α) : Prop :=
  ∀ g f g', e.run g = .error f g' → P f

namespace FaultsWith

variable {α β : Type} {P : Fault → Prop}

theorem pure (a : α) : FaultsWith P (Pure.pure a : Edit α) := by
  intro g f g' h
  cases h

theorem throw {f : Fault} (hf : P f) : FaultsWith P (MonadExcept.throw f : Edit α) := by
  intro g f' g' h
  cases h
  exact hf

theorem modify (h : Tagging → Tagging) : FaultsWith P (MonadState.modifyGet fun g => (PUnit.unit, h g)) := by
  intro g f g' hr
  cases hr

theorem lift {x : Except Fault α} (hx : ∀ f, x = .error f → P f) : FaultsWith P (Edit.lift x) := by
  cases x with
  | ok a => exact .pure a
  | error f => exact .throw (hx f rfl)

theorem bind {x : Edit α} {k : α → Edit β} (hx : FaultsWith P x) (hk : ∀ a, FaultsWith P (k a)) :
    FaultsWith P (x >>= k) := by
  intro g f g' h
  rw [EStateM.run_bind] at h
  cases hrun : x.run g with
  | ok a g₁ =>
    rw [hrun] at h
    exact hk a g₁ f g' h
  | error e g₁ =>
    rw [hrun] at h
    cases h
    exact hx _ _ _ hrun

theorem mono {Q : Fault → Prop} {e : Edit α} (he : FaultsWith P e) (h : ∀ f, P f → Q f) :
    FaultsWith Q e :=
  fun g f g' hr => h f (he g f g' hr)

theorem forM {xs : List α} {k : α → Edit PUnit} (hk : ∀ a ∈ xs, FaultsWith P (k a)) :
    FaultsWith P (xs.forM k) := by
  induction xs with
  | nil => exact .pure _
  | cons x xs ih => exact .bind (hk x (by simp)) fun _ => ih fun a ha => hk a (by simp [ha])

end FaultsWith

end Edit

theorem foldlM_fault {α β ε : Type} {f : β → α → Except ε β} {P : ε → Prop} {xs : List α}
    (hf : ∀ acc, ∀ x ∈ xs, ∀ e, f acc x = .error e → P e) :
    ∀ {init : β} {e : ε}, xs.foldlM f init = .error e → P e := by
  induction xs with
  | nil => intro init e h; cases h
  | cons x xs ih =>
    intro init e h
    rw [List.foldlM_cons] at h
    cases hx : f init x with
    | error e' =>
      rw [hx] at h
      cases h
      exact hf init x (by simp) e hx
    | ok acc =>
      rw [hx] at h
      exact ih (fun acc y hy => hf acc y (by simp [hy])) h

namespace Tree

variable {t : Tree}

-- A spread faults only when it comes back to where it started, whichever node it starts from.
theorem faultsWith_spreadWith (label : String) :
    ∀ fuel i, Edit.FaultsWith (· = .endless .spread) (t.spreadWith label fuel i)
  | 0, _ => .throw rfl
  | fuel + 1, _ =>
    .bind (.modify _) fun _ => .forM fun c _ => faultsWith_spreadWith label fuel c

theorem faultsWith_tag (label : String) (only : Bool) (i : Nat) :
    Edit.FaultsWith (· = .endless .spread) (t.tag label only i) := by
  cases only with
  | true => exact .modify _
  | false => exact faultsWith_spreadWith label _ i

-- The line of a node of the tree fails only for want of a relation.
theorem line_fault {i : Nat} {f : Fault} (hi : i < t.size) (h : t.line i = .error f) :
    f = .unlabelled := by
  obtain ⟨n, hn⟩ : ∃ n, t.nodes[i]? = some n := ⟨t.nodes[i], List.getElem?_eq_getElem hi⟩
  cases hr : n.relation with
  | none => simpa [line, hn, Node.lineOf, hr, eq_comm] using h
  | some r => simp [line, hn, Node.lineOf, hr] at h

-- An outline fails for want of a relation or because the walk came back to where it started.
theorem outlineWith_fault :
    ∀ {fuel : Nat} {d : Int} {i : Nat} {f : Fault}, t.outlineWith fuel d i = .error f →
      f = .unlabelled ∨ f = .endless .outline
  | 0, _, _, _, h => .inr (Except.error.inj h).symm
  | fuel + 1, d, i, f, h => by
    rw [outlineWith] at h
    refine foldlM_fault (P := fun e => e = .unlabelled ∨ e = .endless .outline)
      (fun acc c hc e he => ?_) h
    have hc' : c < t.size := (lt_size_of_parent ((t.mem_children).mp hc)).1
    cases hl : t.line c with
    | error e' =>
      simp only [hl, bind, Except.bind, Except.error.injEq] at he
      exact .inl (he ▸ line_fault hc' hl)
    | ok l =>
      cases ho : t.outlineWith fuel (d + 1) c with
      | error e' =>
        simp only [hl, ho, bind, Except.bind, Except.error.injEq] at he
        exact he ▸ outlineWith_fault ho
      | ok o => simp [hl, ho, bind, Except.bind, pure, Except.pure] at he

-- A command that first addresses a node, and after that faults only otherwise, has the index
-- faults of the address.
theorem indexFaults_of_resolve {α : Type} {rest : Fin t.size → Edit α}
    (hrest : ∀ i, Edit.FaultsWith (fun f => f ≠ .outOfRange ∧ f ≠ .tooWide) (rest i)) (k : Int)
    (g : Tagging) :
    Address.IndexFaults t.size k ((Edit.lift (Address.resolve t.size k) >>= rest).run g) := by
  cases hr : Address.resolve t.size k with
  | error f =>
    simp only [Address.IndexFaults, EStateM.run_bind, Edit.run_lift_error,
      EStateM.Result.error.injEq]
    rcases Address.resolve_eq_error_iff.mp hr with ⟨hf, rfl⟩ | ⟨hf, hn, rfl⟩
    · simp [hf]
    · simp [hf, hn]
  | ok x =>
    obtain ⟨hf, hn⟩ := Address.resolve_ok_iff.mp ⟨x, hr⟩
    simp only [Address.IndexFaults, EStateM.run_bind, Edit.run_lift_ok, hf, hn, not_true_eq_false,
      and_false, iff_false, not_exists]
    exact ⟨fun g' h => (hrest x g _ g' h).1 rfl, fun g' h => (hrest x g _ g' h).2 rfl⟩

theorem indexFaults_setTag (k : Int) (label : String) (only : Bool) (g : Tagging) :
    Address.IndexFaults t.size k ((t.perform (.setTag k label only)).run g) :=
  indexFaults_of_resolve (fun i => .bind ((faultsWith_tag label only i).mono fun _ h => h ▸ ⟨nofun, nofun⟩)
    fun _ => .pure _) k g

theorem indexFaults_inspect (k indent : Int) (g : Tagging) :
    Address.IndexFaults t.size k ((t.perform (.inspect k indent)).run g) := by
  refine indexFaults_of_resolve (fun i => ?_) k g
  refine .bind (.lift fun f hf => ?_) fun l => .bind (.lift fun f hf => ?_) fun o => .pure _
  · rw [line_fault i.isLt hf]
    exact ⟨nofun, nofun⟩
  · rcases outlineWith_fault hf with rfl | rfl <;> exact ⟨nofun, nofun⟩

-- How building fails, check by check, and how a session fails to address a node.
structure FailsAsChecked (untokenize : List String → String) (heads : List Int)
    (relations : List (Option String)) (words : List String) : Prop where
  noRoot_iff : build untokenize heads relations words = .error .noRoot ↔ 0 ∉ heads
  ok_iff : (∃ t, build untokenize heads relations words = .ok t) ↔
    (∃ r, heads.idxOf? 0 = some r ∧ r < words.length) ∧ words.length ≤ relations.length ∧
      ∀ i < words.length, HeadFits words.length heads i
  tooWide_iff : build untokenize heads relations words = .error .tooWide ↔
    (∃ r, heads.idxOf? 0 = some r ∧ r < words.length) ∧ words.length ≤ relations.length ∧
      ∃ i < words.length, (∀ j < i, HeadFits words.length heads j) ∧
        ∃ h, heads[i]? = some h ∧ ¬ Address.Fits (h - 1)
  fault : ∀ f, build untokenize heads relations words = .error f →
    f = .noRoot ∨ f = .outOfRange ∨ f = .tooWide
  nodes : ∀ t, build untokenize heads relations words = .ok t →
    ∀ (k : Int) (label : String) (only : Bool) (indent : Int) (g : Tagging),
      Address.IndexFaults t.size k ((t.perform (.setTag k label only)).run g) ∧
        Address.IndexFaults t.size k ((t.perform (.inspect k indent)).run g)

theorem build_fails_as_checked (hn : (words.length : Int) ≤ Address.greatest) :
    FailsAsChecked untokenize heads relations words where
  noRoot_iff := build_eq_noRoot_iff
  ok_iff := exists_build_iff hn
  tooWide_iff := build_eq_tooWide_iff hn
  fault _ := build_fault
  nodes _ _ k label only indent g := ⟨indexFaults_setTag k label only g, indexFaults_inspect k indent g⟩

-- Three words, the last with a head whose address lies below the least 64-bit word.
theorem build_fails_too_wide :
    (["system", "shows", "data"].length : Int) ≤ Address.greatest ∧
      FailsAsChecked (String.intercalate " ") [2, 0, -9223372036854775808]
          [some "nsubj", some "root", some "dobj"]
        ["system", "shows", "data"] :=
  ⟨by decide, build_fails_as_checked (by decide)⟩

end Tree

end DepTagger
