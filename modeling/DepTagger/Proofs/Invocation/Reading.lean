import DepTagger.Invocation.Parse

namespace DepTagger

theorem exists_of_map_eq_ok {ε α β : Type} {f : α → β} {x : Except ε α} {b : β}
    (h : x.map f = .ok b) : ∃ a, x = .ok a ∧ f a = b := by
  cases x with
  | error e => cases h
  | ok a => exact ⟨a, rfl, by simpa [Except.map] using h⟩

theorem error_of_map_eq_error {ε α β : Type} {f : α → β} {x : Except ε α} {e : ε}
    (h : x.map f = .error e) : x = .error e := by
  cases x with
  | error e' => simpa [Except.map] using h
  | ok a => cases h

namespace Invocation

namespace Parser

variable (p : Parser)

-- The command line, word by word, as occurrences of options that take a value: each occurrence
-- is the option with the text given to it.
inductive Occurs : List String → List (Nat × String) → Prop
  | nil : Occurs [] []
  | attached {w f t : String} {k : Nat} {ws : List String} {occ : List (Nat × String)} :
      w ≠ "--" → p.readWord w = .ok (.option k f (some t)) → p.kindOf k = .value →
      Occurs ws occ → Occurs (w :: ws) ((k, t) :: occ)
  | separate {w f v : String} {k : Nat} {ws : List String} {occ : List (Nat × String)} :
      w ≠ "--" → p.readWord w = .ok (.option k f none) → p.kindOf k = .value →
      v ≠ "--" → p.readWord v = .ok .value →
      Occurs ws occ → Occurs (w :: v :: ws) ((k, v) :: occ)

-- The values occurrences give their options.
def givenOf (occ : List (Nat × String)) : List (Nat × Value) :=
  occ.map fun o => (o.1, Value.ofGiven o.2)

-- The text given to the last occurrence of option `k`.
def lastGiven (occ : List (Nat × String)) (k : Nat) : Option String :=
  (occ.reverse.find? (·.1 == k)).map Prod.snd

-- The second pass takes the help before any usage error: an option word asks for the help, with
-- no error in the word, after words that ask only for values and words left over.
inductive HelpFirst : List (String × Reading) → Prop
  | help {w f : String} {k : Nat} {attached : Option String} {rest : List (String × Reading)}
      {a : Asked} :
      p.actions rest.head? k f attached = .ok a → (∃ j, (j, none) ∈ a.acts) →
      HelpFirst ((w, .option k f attached) :: rest)
  | values {w f : String} {k : Nat} {attached : Option String} {rest : List (String × Reading)}
      {a : Asked} :
      p.actions rest.head? k f attached = .ok a → (∀ j, (j, none) ∉ a.acts) →
      HelpFirst (if a.tookNext then rest.tail else rest) →
      HelpFirst ((w, .option k f attached) :: rest)
  | skip {w : String} {r : Reading} {rest : List (String × Reading)} :
      (∀ k f attached, r ≠ .option k f attached) → HelpFirst rest →
      HelpFirst ((w, r) :: rest)

variable {p}

theorem classify_cons_of_ne {w : String} (ws : List String) (hw : w ≠ "--") :
    p.classify (w :: ws) = (do
      let r ← p.readWord w
      let rs ← p.classify ws
      pure (r :: rs)) := by
  simp [classify, hw]

theorem classify_cons_ok {w : String} {ws : List String} {rs : List Reading}
    (h : p.classify (w :: ws) = .ok rs) :
    (w = "--" ∧ rs = .marker :: ws.map fun _ => .value) ∨
      (w ≠ "--" ∧
        ∃ r rs', p.readWord w = .ok r ∧ p.classify ws = .ok rs' ∧ rs = r :: rs') := by
  by_cases hw : w = "--"
  · simp only [classify, hw, if_true, Except.ok.injEq] at h
    exact .inl ⟨hw, h.symm⟩
  · rw [classify_cons_of_ne ws hw] at h
    cases hr : p.readWord w with
    | error e => simp [hr, bind, Except.bind] at h
    | ok r =>
      cases hrs : p.classify ws with
      | error e => simp [hr, hrs, bind, Except.bind] at h
      | ok rs' =>
        simp only [hr, hrs, bind, Except.bind, pure, Except.pure, Except.ok.injEq] at h
        exact .inr ⟨hw, r, rs', rfl, rfl, h.symm⟩

theorem take_append (given : List (Nat × Value)) (k : Nat) (w : String) :
    take given [(k, some w)] = .ok (given ++ [(k, Value.ofGiven w)]) := rfl

-- An option that ends the run with the help asks for the help first, whatever is attached.
theorem actions_help {next : Option (String × Reading)} {k : Nat} {flag : String}
    {attached : Option String} {a : Asked} (hk : p.kindOf k = .help)
    (h : p.actions next k flag attached = .ok a) : ∃ acts, a.acts = (k, none) :: acts := by
  cases attached with
  | none =>
    simp only [actions, bare, hk, Except.ok.injEq] at h
    exact ⟨[], by rw [← h]⟩
  | some t =>
    simp only [actions] at h
    cases ht : t.toList with
    | nil => simp [ht, attachedTo, hk, ignored] at h
    | cons d more =>
      rw [ht] at h
      unfold attachedTo at h
      simp only [hk] at h
      split at h
      · -- the text after a short help flag holds more short flags: the help comes first
        split at h
        · split at h
          · obtain ⟨a', -, rfl⟩ := exists_of_map_eq_ok h
            exact ⟨a'.acts, rfl⟩
          · obtain ⟨a', -, rfl⟩ := exists_of_map_eq_ok h
            exact ⟨a'.acts, rfl⟩
        · cases h
      · cases h

-- An option that takes a value takes the text attached to it, even an empty one.
theorem actions_value_attached {k : Nat} (hk : p.kindOf k = .value)
    (next : Option (String × Reading)) (flag t : String) :
    p.actions next k flag (some t) = .ok ⟨[(k, some t)], false⟩ := by
  simp only [actions]
  cases ht : t.toList with
  | nil =>
    have : t = "" := String.toList_eq_nil_iff.mp ht
    simp [attachedTo, hk, this]
  | cons d more =>
    simp only [attachedTo, hk]
    rw [← ht, String.ofList_toList]

-- Without text attached, it takes the next word, which must be a value.
theorem actions_value_bare {k : Nat} (hk : p.kindOf k = .value) {next : Option (String × Reading)}
    {flag : String} {a : Asked} (h : p.actions next k flag none = .ok a) :
    ∃ w, next = some (w, .value) ∧ a = ⟨[(k, some w)], true⟩ := by
  simp only [actions, bare, hk] at h
  split at h
  case _ w => exact ⟨w, rfl, (Except.ok.inj h).symm⟩
  case _ => cases h

theorem actions_value_next {k : Nat} (hk : p.kindOf k = .value) (w flag : String) :
    p.actions (some (w, .value)) k flag none = .ok ⟨[(k, some w)], true⟩ := by
  simp [actions, bare, hk]

-- The pairs of words and readings the second pass takes whole: options that take a value, with
-- their text attached or in the next word.
inductive Taken : List (String × Reading) → List (Nat × String) → Prop
  | nil : Taken [] []
  | attached {w f t : String} {k : Nat} {rest : List (String × Reading)}
      {occ : List (Nat × String)} :
      p.kindOf k = .value → Taken rest occ →
        Taken ((w, .option k f (some t)) :: rest) ((k, t) :: occ)
  | separate {w f v : String} {k : Nat} {rest : List (String × Reading)}
      {occ : List (Nat × String)} :
      p.kindOf k = .value → Taken rest occ →
        Taken ((w, .option k f none) :: (v, .value) :: rest) ((k, v) :: occ)

-- Words left over are only ever added to.
theorem consume_extras (ps : List (String × Reading)) (given : List (Nat × Value))
    (extras : List String) :
    ∀ g' e', p.consume ps given extras = .ok (g', e') → ∃ more, e' = extras ++ more := by
  fun_induction p.consume ps given extras with
  | case1 given extras =>
    intro g' e' h
    cases h
    exact ⟨[], by simp⟩
  | case2 w k flag attached rest given extras ih2 ih1 =>
    intro g' e' h
    cases ha : p.actions rest.head? k flag attached with
    | error s => simp [ha, bind, Except.bind] at h
    | ok asked =>
      cases ht : take given asked.acts with
      | error s => simp [ha, ht, bind, Except.bind] at h
      | ok given₁ =>
        simp only [ha, ht, bind, Except.bind] at h
        split at h
        · cases rest with
          | nil => exact ih2 given₁ g' e' h
          | cons x rest' => exact ih2 given₁ g' e' h
        · exact ih1 given₁ g' e' h
  | case3 w r rest given extras _ ih =>
    intro g' e' h
    obtain ⟨more, rfl⟩ := ih g' e' h
    exact ⟨[w] ++ more, by simp⟩

-- The second pass leaves no word over exactly when it takes the words whole.
theorem taken_of_consume (ps : List (String × Reading)) (given : List (Nat × Value))
    (extras : List String) :
    ∀ g', p.consume ps given extras = .ok (g', []) →
      extras = [] ∧ ∃ occ, p.Taken ps occ ∧ g' = given ++ givenOf occ := by
  fun_induction p.consume ps given extras with
  | case1 given extras =>
    intro g' h
    cases h
    exact ⟨rfl, [], .nil, by simp [givenOf]⟩
  | case2 w k flag attached rest given extras ih2 ih1 =>
    intro g' h
    cases ha : p.actions rest.head? k flag attached with
    | error s => simp [ha, bind, Except.bind] at h
    | ok asked =>
      cases hk : p.kindOf k with
      | help =>
        -- the help is asked for first, and taking it ends the run
        obtain ⟨acts, hacts⟩ := actions_help hk ha
        simp [ha, hacts, take, bind, Except.bind] at h
      | value =>
        cases attached with
        | some t =>
          simp only [actions_value_attached hk, take_append, bind, Except.bind,
            Bool.false_eq_true, if_false] at h
          obtain ⟨rfl, occ, hocc, rfl⟩ := ih1 _ g' h
          exact ⟨rfl, (k, t) :: occ, .attached hk hocc, by simp [givenOf]⟩
        | none =>
          obtain ⟨v, hnext, rfl⟩ := actions_value_bare hk ha
          cases rest with
          | nil => cases hnext
          | cons x rest' =>
            obtain ⟨rfl⟩ : x = (v, .value) := by simpa using hnext
            simp only [ha, take_append, bind, Except.bind, if_true] at h
            obtain ⟨rfl, occ, hocc, rfl⟩ := ih2 _ g' h
            exact ⟨rfl, (k, v) :: occ, .separate hk hocc, by simp [givenOf]⟩
  | case3 w r rest given extras _ _ =>
    intro g' h
    obtain ⟨more, hmore⟩ := consume_extras rest given (extras ++ [w]) g' [] h
    simp at hmore

-- Words taken whole are taken without a word left over.
theorem consume_of_taken {ps : List (String × Reading)} {occ : List (Nat × String)}
    (h : p.Taken ps occ) (given : List (Nat × Value)) :
    p.consume ps given [] = .ok (given ++ givenOf occ, []) := by
  induction h generalizing given with
  | nil => simp [consume, givenOf]
  | @attached w f t k rest occ hk _ ih =>
    simp only [consume, actions_value_attached hk, take_append, bind, Except.bind,
      Bool.false_eq_true, if_false, ih]
    simp [givenOf]
  | @separate w f v k rest occ hk _ ih =>
    simp only [consume, List.head?_cons, actions_value_next hk, take_append, bind, Except.bind,
      if_true, ih]
    simp [givenOf]

-- Occurrences read each word on its own, none the end-of-options word, and are taken whole.
theorem taken_of_occurs {argv : List String} {occ : List (Nat × String)} (h : p.Occurs argv occ) :
    ∃ rs, p.classify argv = .ok rs ∧ p.Taken (argv.zip rs) occ := by
  induction h with
  | nil => exact ⟨[], rfl, .nil⟩
  | @attached w f t k ws occ hw hr hk _ ih =>
    obtain ⟨rs, hrs, htaken⟩ := ih
    refine ⟨.option k f (some t) :: rs, ?_, .attached hk htaken⟩
    simp [classify_cons_of_ne ws hw, hr, hrs, bind, Except.bind, pure, Except.pure]
  | @separate w f v k ws occ hw hr hk hv hrv _ ih =>
    obtain ⟨rs, hrs, htaken⟩ := ih
    refine ⟨.option k f none :: .value :: rs, ?_, .separate hk htaken⟩
    simp [classify_cons_of_ne _ hw, classify_cons_of_ne ws hv, hr, hrv, hrs, bind, Except.bind,
      pure, Except.pure]

-- Words taken whole, with the readings the first pass gave them, are occurrences. The induction
-- is on what the second pass took; the first pass gave the end-of-options word no option reading.
theorem occurs_of_taken {ps : List (String × Reading)} {occ : List (Nat × String)}
    (h : p.Taken ps occ) :
    ∀ {argv : List String} {rs : List Reading}, p.classify argv = .ok rs → argv.zip rs = ps →
      p.Occurs argv occ := by
  induction h with
  | nil =>
    intro argv rs hc hz
    cases argv with
    | nil => exact .nil
    | cons w ws =>
      rcases classify_cons_ok hc with ⟨-, rfl⟩ | ⟨-, r, rs', -, -, rfl⟩ <;> cases hz
  | @attached w f t k rest occ hk _ ih =>
    intro argv rs hc hz
    cases argv with
    | nil => cases hz
    | cons w' ws =>
      rcases classify_cons_ok hc with ⟨-, rfl⟩ | ⟨hw, r, rs', hr, hrs, rfl⟩
      · cases hz
      · simp only [List.zip_cons_cons, List.cons.injEq, Prod.mk.injEq] at hz
        obtain ⟨⟨rfl, rfl⟩, hz⟩ := hz
        exact .attached hw hr hk (ih hrs hz)
  | @separate w f v k rest occ hk _ ih =>
    intro argv rs hc hz
    cases argv with
    | nil => cases hz
    | cons w' ws =>
      rcases classify_cons_ok hc with ⟨-, rfl⟩ | ⟨hw, r, rs', hr, hrs, rfl⟩
      · cases hz
      · cases ws with
        | nil => cases rs' <;> cases hz
        | cons v' ws' =>
          rcases classify_cons_ok hrs with ⟨-, rfl⟩ | ⟨hv, r', rs'', hrv, hrs', rfl⟩
          · simp at hz
          · simp only [List.zip_cons_cons, List.cons.injEq, Prod.mk.injEq] at hz
            obtain ⟨⟨rfl, rfl⟩, ⟨rfl, rfl⟩, hz⟩ := hz
            exact .separate hw hr hk hv hrv (ih hrs' hz)

theorem exists_mem_givenOf {occ : List (Nat × String)} {k : Nat} :
    (∃ x, (k, x) ∈ givenOf occ) ↔ k ∈ occ.map Prod.fst := by
  simp only [givenOf, List.mem_map, Prod.mk.injEq, Prod.exists]
  constructor
  · rintro ⟨_, a, b, hab, rfl, -⟩
    exact ⟨a, b, hab, rfl⟩
  · rintro ⟨a, b, hab, rfl⟩
    exact ⟨_, a, b, hab, rfl, rfl⟩

theorem lastGiven_isSome_iff {occ : List (Nat × String)} {k : Nat} :
    (lastGiven occ k).isSome ↔ k ∈ occ.map Prod.fst := by
  simp only [lastGiven, Option.isSome_map, List.find?_isSome, List.mem_reverse, beq_iff_eq,
    List.mem_map, Prod.exists, exists_and_right, exists_eq_right]

-- The value an option holds after the occurrences is that of the text its last one gave it.
theorem find_givenOf (occ : List (Nat × String)) (k : Nat) :
    ((givenOf occ).reverse.find? (·.1 == k)).map (·.2) =
      (lastGiven occ k).map Value.ofGiven := by
  simp only [givenOf, lastGiven, ← List.map_reverse, List.find?_map, Option.map_map]
  rfl

-- A command line is read without stopping exactly when it is a run of occurrences of options that
-- take a value and names every required option; each option then holds the value of its last
-- occurrence.
theorem parse_eq_ok_iff {argv : List String} {vs : List (Option Value)} :
    p.parse argv = .ok vs ↔
      ∃ occ, p.Occurs argv occ ∧
        (∀ o k, (o, k) ∈ p.opts.zipIdx → o.required = true → k ∈ occ.map Prod.fst) ∧
        vs = p.lastValues (givenOf occ) := by
  constructor
  · intro h
    simp only [parse, bind, Except.bind] at h
    cases hc : p.classify argv with
    | error s => simp [hc] at h
    | ok rs =>
      cases hcons : p.consume (argv.zip rs) [] [] with
      | error s => simp [hc, hcons] at h
      | ok r =>
        obtain ⟨given, extras⟩ := r
        simp only [hc, hcons] at h
        split at h
        · cases h
        · next hmissing =>
          split at h
          · cases h
          · next hextras =>
            simp only [pure, Except.pure, Except.ok.injEq] at h
            have hnil : extras = [] := by simpa using hextras
            subst hnil
            obtain ⟨-, occ, htaken, rfl⟩ := taken_of_consume _ _ _ _ hcons
            have hall : ∀ o k, (o, k) ∈ p.opts.zipIdx → o.required = true →
                ∃ x, (k, x) ∈ givenOf occ := by
              simpa using hmissing
            refine ⟨occ, occurs_of_taken htaken hc rfl,
              fun o k hok hreq => exists_mem_givenOf.mp (hall o k hok hreq),
              by simpa using h.symm⟩
  · rintro ⟨occ, hocc, hreq, rfl⟩
    obtain ⟨rs, hc, htaken⟩ := taken_of_occurs hocc
    have hcons := consume_of_taken htaken []
    have hall : ∀ o k, (o, k) ∈ p.opts.zipIdx → o.required = true →
        ∃ x, (k, x) ∈ givenOf occ :=
      fun o k hok hr => exists_mem_givenOf.mpr (hreq o k hok hr)
    simpa [parse, hc, hcons, bind, Except.bind, pure, Except.pure] using hall

theorem take_eq_help_iff (given : List (Nat × Value)) (acts : List (Nat × Option String)) :
    take given acts = .error .help ↔ ∃ j, (j, none) ∈ acts := by
  induction acts generalizing given with
  | nil => simp [take]
  | cons a acts ih =>
    obtain ⟨k, _ | w⟩ := a
    · simp [take]
    · simp [take, ih]

theorem take_ok_of_forall (given : List (Nat × Value)) {acts : List (Nat × Option String)}
    (h : ∀ j, (j, none) ∉ acts) : ∃ given', take given acts = .ok given' := by
  induction acts generalizing given with
  | nil => exact ⟨given, rfl⟩
  | cons a acts ih =>
    obtain ⟨k, _ | w⟩ := a
    · exact absurd (List.mem_cons_self ..) (h k)
    · exact ih _ fun j hj => h j (List.mem_cons_of_mem _ hj)

theorem readWord_ne_help (w : String) : p.readWord w ≠ .error .help := by
  intro h
  unfold readWord at h
  dsimp only at h
  repeat' split at h
  all_goals cases h

theorem classify_ne_help (argv : List String) : p.classify argv ≠ .error .help := by
  induction argv with
  | nil => simp [classify]
  | cons w ws ih =>
    by_cases hw : w = "--"
    · simp [classify, hw]
    · intro h
      simp only [classify, hw, if_false] at h
      cases hr : p.readWord w with
      | error s =>
        rw [hr] at h
        cases h
        exact readWord_ne_help w hr
      | ok r =>
        cases hrs : p.classify ws with
        | error s =>
          simp only [hr, hrs, bind, Except.bind] at h
          cases h
          exact ih hrs
        | ok rs => simp [hr, hrs, bind, Except.bind, pure, Except.pure] at h

theorem bare_ne_help (next : Option (String × Reading)) (k : Nat) :
    p.bare next k ≠ .error .help := by
  unfold bare
  repeat' split
  all_goals simp [expected]

theorem attachedTo_ne_help (next : Option (String × Reading)) (k : Nat) (short : Bool)
    (cs : List Char) : p.attachedTo next k short cs ≠ .error .help := by
  fun_induction p.attachedTo next k short cs with
  | case4 => exact fun h => bare_ne_help _ _ (error_of_map_eq_error h)
  | case5 k d _ k' _ m ms ih => exact fun h => ih (error_of_map_eq_error h)
  | _ => simp [ignored]

theorem actions_ne_help (next : Option (String × Reading)) (k : Nat) (flag : String)
    (attached : Option String) : p.actions next k flag attached ≠ .error .help := by
  cases attached with
  | none => exact bare_ne_help next k
  | some t => exact attachedTo_ne_help next k _ t.toList

-- The cases of `HelpFirst` on a word, by how the word reads.
theorem not_helpFirst_of_actions_error {w f : String} {k : Nat} {attached : Option String}
    {rest : List (String × Reading)} {s : Stop}
    (ha : p.actions rest.head? k f attached = .error s) :
    ¬ p.HelpFirst ((w, .option k f attached) :: rest) := by
  intro h
  cases h with
  | help ha' _ => rw [ha] at ha'; cases ha'
  | values ha' _ _ => rw [ha] at ha'; cases ha'
  | skip hr _ => exact hr _ _ _ rfl

theorem helpFirst_option_iff {w f : String} {k : Nat} {attached : Option String}
    {rest : List (String × Reading)} {a : Asked}
    (ha : p.actions rest.head? k f attached = .ok a) :
    p.HelpFirst ((w, .option k f attached) :: rest) ↔
      (∃ j, (j, none) ∈ a.acts) ∨
        ((∀ j, (j, none) ∉ a.acts) ∧
          p.HelpFirst (if a.tookNext then rest.tail else rest)) := by
  constructor
  · intro h
    cases h with
    | help ha' hj => rw [ha] at ha'; cases ha'; exact .inl hj
    | values ha' hn h => rw [ha] at ha'; cases ha'; exact .inr ⟨hn, h⟩
    | skip hr _ => exact absurd rfl (hr _ _ _)
  · rintro (hj | ⟨hn, h⟩)
    · exact .help ha hj
    · exact .values ha hn h

theorem helpFirst_cons_iff {w : String} {r : Reading} {rest : List (String × Reading)}
    (hr : ∀ k f attached, r ≠ .option k f attached) :
    p.HelpFirst ((w, r) :: rest) ↔ p.HelpFirst rest := by
  constructor
  · intro h
    cases h with
    | help => exact absurd rfl (hr _ _ _)
    | values => exact absurd rfl (hr _ _ _)
    | skip _ h => exact h
  · exact .skip hr

-- The second pass ends with the help exactly when it takes the help before any usage error.
theorem consume_eq_help_iff (ps : List (String × Reading)) (given : List (Nat × Value))
    (extras : List String) : p.consume ps given extras = .error .help ↔ p.HelpFirst ps := by
  fun_induction p.consume ps given extras with
  | case1 given extras =>
    simp only [reduceCtorEq, false_iff]
    intro h
    cases h
  | case2 w k flag attached rest given extras ih2 ih1 =>
    cases ha : p.actions rest.head? k flag attached with
    | error s =>
      have hs : s ≠ .help := fun hs => actions_ne_help _ _ _ _ (hs ▸ ha)
      simp only [bind, Except.bind, Except.error.injEq, hs, false_iff]
      exact not_helpFirst_of_actions_error ha
    | ok a =>
      rw [helpFirst_option_iff ha]
      by_cases hn : ∃ j, (j, none) ∈ a.acts
      · -- the word asks for the help: taking it ends the run
        simp only [bind, Except.bind, (take_eq_help_iff given a.acts).mpr hn, true_iff]
        exact .inl hn
      · -- the word asks only for values: the run goes on with the words it did not take
        have hn' : ∀ j, (j, none) ∉ a.acts := fun j hj => hn ⟨j, hj⟩
        obtain ⟨given', ht⟩ := take_ok_of_forall given hn'
        simp only [bind, Except.bind, ht, hn']
        cases a.tookNext
        · simpa using ih1 given'
        · -- the word took the next one
          cases rest with
          | nil => simpa using ih2 given'
          | cons x rest' => simpa using ih2 given'
  | case3 w r rest given extras hr ih =>
    rw [ih, helpFirst_cons_iff hr]

-- A command line ends with the help exactly when every word reads, and the second pass takes the
-- help before any usage error: the checks for missing options and words left over come after.
theorem parse_eq_help_iff {argv : List String} :
    p.parse argv = .error .help ↔
      ∃ rs, p.classify argv = .ok rs ∧ p.HelpFirst (argv.zip rs) := by
  constructor
  · intro h
    simp only [parse, bind, Except.bind] at h
    cases hc : p.classify argv with
    | error s =>
      rw [hc] at h
      cases h
      exact absurd hc (classify_ne_help argv)
    | ok rs =>
      refine ⟨rs, rfl, (consume_eq_help_iff _ [] []).mp ?_⟩
      cases hcons : p.consume (argv.zip rs) [] [] with
      | error s =>
        simp only [hc, hcons] at h
        cases h
        rfl
      | ok r =>
        -- the checks after the second pass end with usage errors or not at all
        simp only [hc, hcons, throw, throwThe, MonadExceptOf.throw, pure, Except.pure] at h
        repeat' split at h
        all_goals cases h
  · rintro ⟨rs, hc, hh⟩
    simp [parse, hc, (consume_eq_help_iff _ [] []).mpr hh, bind, Except.bind]

end Parser

end Invocation

end DepTagger
