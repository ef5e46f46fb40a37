import DepTagger.Proofs.Invocation.Reading
import DepTagger.Invocation.Labeller

namespace DepTagger

theorem filterMap_eq_singleton {α β : Type} [DecidableEq α] {l : List α} {a : α} {b : β}
    {g : α → Option β} (hl : l.Nodup) (ha : a ∈ l)
    (hg : ∀ x ∈ l, g x = if x = a then some b else none) :
    l.filterMap g = [b] := by
  induction l with
  | nil => cases ha
  | cons x xs ih =>
    have ⟨hx, hxs⟩ := List.nodup_cons.mp hl
    by_cases hxa : x = a
    · subst hxa
      have hnone : ∀ y ∈ xs, g y = none := fun y hy => by
        rw [hg y (List.mem_cons_of_mem _ hy), if_neg (fun h : y = x => hx (h ▸ hy))]
      simp [hg x List.mem_cons_self, List.filterMap_eq_nil_iff.mpr hnone]
    · have ha' : a ∈ xs := (List.mem_cons.mp ha).resolve_left (Ne.symm hxa)
      rw [List.filterMap_cons, hg x List.mem_cons_self, if_neg hxa]
      exact ih hxs ha' fun y hy => hg y (List.mem_cons_of_mem _ hy)

namespace Invocation

theorem splitFirst_eq_none {sep : Char} {cs : List Char} (h : sep ∉ cs) :
    splitFirst sep cs = none := by
  induction cs with
  | nil => rfl
  | cons c cs ih =>
    have hc : c ≠ sep := fun hc => h (hc ▸ List.mem_cons_self)
    simp [splitFirst, hc, ih fun hm => h (List.mem_cons_of_mem _ hm)]

theorem splitFirst_append {sep : Char} {cs : List Char} (h : sep ∉ cs) (rest : List Char) :
    splitFirst sep (cs ++ sep :: rest) = some (cs, rest) := by
  induction cs with
  | nil => simp [splitFirst]
  | cons c cs ih =>
    have hc : c ≠ sep := fun hc => h (hc ▸ List.mem_cons_self)
    simp [splitFirst, hc, ih fun hm => h (List.mem_cons_of_mem _ hm)]

-- A word with a value attached after `=`.
theorem toList_assigned (f v : String) : (f ++ "=" ++ v).toList = f.toList ++ '=' :: v.toList := by
  simp [String.toList_append]

theorem splitFirst_assigned {f : String} (h : '=' ∉ f.toList) (v : String) :
    splitFirst '=' (f ++ "=" ++ v).toList = some (f.toList, v.toList) := by
  rw [toList_assigned]
  exact splitFirst_append h _

theorem splitFirst_cons_of_ne {sep c : Char} (h : c ≠ sep) (cs : List Char) :
    splitFirst sep (c :: cs) = (splitFirst sep cs).map fun (b, a) => (c :: b, a) := by
  simp [splitFirst, h]

namespace Parser

variable {p : Parser}

theorem lookupFlag_eq_none_iff {w : String} :
    p.lookupFlag w = none ↔ ∀ x ∈ p.flags, x.1 ≠ w := by
  simp [lookupFlag, List.find?_eq_none]

theorem readWord_of_not_dash {w : String} (h : ¬ w.startsWith "-") :
    p.readWord w = .ok .value := by
  unfold readWord
  split
  · rfl
  · next c rest hw =>
    have hc : c ≠ '-' := by
      rintro rfl
      exact h (String.startsWith_string_iff.mpr (by simp [hw]))
    simp [hc]

theorem readWord_of_lookupFlag {w : String} {rest : List Char} {k : Nat}
    (hw : w.toList = '-' :: rest) (hk : p.lookupFlag w = some k) :
    p.readWord w = .ok (.option k w none) := by
  simp [readWord, hw, hk]

theorem readWord_of_split {w : String} {c : Char} {rest b a : List Char} {k : Nat}
    (hw : w.toList = '-' :: c :: rest) (hnone : p.lookupFlag w = none)
    (hs : splitFirst '=' w.toList = some (b, a)) (hk : p.lookupFlag (String.ofList b) = some k) :
    p.readWord w = .ok (.option k (String.ofList b) (some (String.ofList a))) := by
  rw [hw] at hs
  simp [readWord, hw, hnone, hs, hk]

theorem readWord_of_candidates {w : String} {c : Char} {rest : List Char} {k : Nat} {f : String}
    {attached : Option String} (hw : w.toList = '-' :: c :: rest) (hnone : p.lookupFlag w = none)
    (hs : ∀ b a, splitFirst '=' w.toList = some (b, a) → p.lookupFlag (String.ofList b) = none)
    (hc : p.candidates w = [(k, f, attached)]) :
    p.readWord w = .ok (.option k f attached) := by
  rw [hw] at hs
  cases hsplit : splitFirst '=' ('-' :: c :: rest) with
  | none => simp [readWord, hw, hnone, hsplit, hc]
  | some ba => simp [readWord, hw, hnone, hsplit, hs ba.1 ba.2 hsplit, hc]

theorem candidates_long_of_split {w : String} {rest b a : List Char}
    (hw : w.toList = '-' :: '-' :: rest) (hs : splitFirst '=' w.toList = some (b, a)) :
    p.candidates w = p.flags.filterMap fun (f, k) =>
      if f.startsWith (String.ofList b) then some (k, f, some (String.ofList a)) else none := by
  rw [hw] at hs
  simp [candidates, hw, hs]

theorem candidates_long_of_no_split {w : String} {rest : List Char}
    (hw : w.toList = '-' :: '-' :: rest) (hs : splitFirst '=' w.toList = none) :
    p.candidates w = p.flags.filterMap fun (f, k) =>
      if f.startsWith w then some (k, f, none) else none := by
  rw [hw] at hs
  simp [candidates, hw, hs]

theorem candidates_short {w : String} {c : Char} {rest : List Char}
    (hw : w.toList = '-' :: c :: rest) (hc : c ≠ '-') :
    p.candidates w = p.flags.filterMap fun (f, k) =>
      if f = String.ofList ['-', c] then some (k, f, some (String.ofList rest))
      else if f.startsWith w then some (k, f, none) else none := by
  unfold candidates
  split
  · next heq => simp [hw] at heq; exact absurd heq.1 hc
  · simp [hw]

end Parser

open DepTagger.Invocation.Parser

theorem labeller_flags_nodup : labeller.flags.Nodup := by decide

theorem lookupFlag_labeller_of_mem :
    ∀ x ∈ labeller.flags, labeller.lookupFlag x.1 = some x.2 := by
  decide

theorem eq_sign_not_mem_labeller_flag : ∀ x ∈ labeller.flags, '=' ∉ x.1.toList := by decide

-- Every flag is a dash and a character other than a dash, or two dashes and a name.
theorem labeller_flags_short_or_long : ∀ x ∈ labeller.flags,
    (x.1.toList.take 1 = ['-'] ∧ x.1.toList.length = 2 ∧ x.1.toList.drop 1 ≠ ['-']) ∨
      (x.1.toList.take 2 = ['-', '-'] ∧ 2 < x.1.toList.length) := by
  decide

theorem labeller_flag_shape {f : String} {k : Nat} (h : (f, k) ∈ labeller.flags) :
    (∃ c, f.toList = ['-', c] ∧ c ≠ '-') ∨
      ∃ r, r ≠ [] ∧ f.toList = '-' :: '-' :: r := by
  have hshape := labeller_flags_short_or_long _ h
  rcases hf : f.toList with _ | ⟨c₀, _ | ⟨c₁, r⟩⟩ <;> simp only [hf] at hshape
  · simp at hshape
  · simp at hshape
  · rcases hshape with ⟨h₀, hlen, h₁⟩ | ⟨h₀, hlen⟩
    · simp only [List.take_succ_cons, List.take_zero, List.cons.injEq, and_true] at h₀
      have hr : r = [] := by simpa using hlen
      subst h₀ hr
      exact .inl ⟨c₁, rfl, by simpa using h₁⟩
    · simp only [List.take_succ_cons, List.take_zero, List.cons.injEq, and_true] at h₀
      obtain ⟨rfl, rfl⟩ := h₀
      exact .inr ⟨r, List.ne_nil_of_length_pos (by simpa using hlen), rfl⟩

theorem labeller_flag_dash {f : String} {k : Nat} (h : (f, k) ∈ labeller.flags) :
    ∃ c r, f.toList = '-' :: c :: r := by
  rcases labeller_flag_shape h with ⟨c, hf, -⟩ | ⟨r, -, hf⟩
  · exact ⟨c, [], hf⟩
  · exact ⟨'-', r, hf⟩

theorem labeller_index_unique {f : String} {k k' : Nat} (h : (f, k) ∈ labeller.flags)
    (h' : (f, k') ∈ labeller.flags) : k' = k := by
  have hk := lookupFlag_labeller_of_mem _ h
  have hk' := lookupFlag_labeller_of_mem _ h'
  simp only at hk hk'
  rw [hk] at hk'
  exact (Option.some.inj hk').symm

-- No flag begins with a dash, a character other than a dash, and more: such a word is a short
-- flag with its value run on.
theorem labeller_not_prefix_run_on {c d : Char} {ds : List Char} (hc : c ≠ '-')
    {x : String × Nat} (hx : x ∈ labeller.flags) : ¬ ('-' :: c :: d :: ds) <+: x.1.toList := by
  rcases labeller_flag_shape hx with ⟨c', hf, -⟩ | ⟨r, -, hf⟩ <;> rw [hf] <;> simp [hc]

theorem lookupFlag_labeller_of_eq_sign {w : String} (h : '=' ∈ w.toList) :
    labeller.lookupFlag w = none := by
  rw [lookupFlag_eq_none_iff]
  intro x hx heq
  exact eq_sign_not_mem_labeller_flag x hx (heq ▸ h)

theorem lookupFlag_labeller_assigned (f v : String) :
    labeller.lookupFlag (f ++ "=" ++ v) = none :=
  lookupFlag_labeller_of_eq_sign (by simp)

theorem lookupFlag_labeller_run_on {c d : Char} {ds : List Char} (hc : c ≠ '-') :
    labeller.lookupFlag (String.ofList ('-' :: c :: d :: ds)) = none := by
  rw [lookupFlag_eq_none_iff]
  intro x hx heq
  have hpre : ('-' :: c :: d :: ds) <+: x.1.toList := by
    simp only [heq, String.toList_ofList, List.prefix_refl]
  exact labeller_not_prefix_run_on hc hx hpre

theorem readWord_labeller_flag {f : String} {k : Nat} (h : (f, k) ∈ labeller.flags) :
    labeller.readWord f = .ok (.option k f none) := by
  obtain ⟨c, r, hf⟩ := labeller_flag_dash h
  exact readWord_of_lookupFlag hf (lookupFlag_labeller_of_mem _ h)

theorem readWord_labeller_assigned {f : String} {k : Nat} (h : (f, k) ∈ labeller.flags)
    (v : String) : labeller.readWord (f ++ "=" ++ v) = .ok (.option k f (some v)) := by
  obtain ⟨c, r, hf⟩ := labeller_flag_dash h
  have hw : (f ++ "=" ++ v).toList = '-' :: c :: (r ++ '=' :: v.toList) := by
    rw [toList_assigned, hf]
    rfl
  have hs := splitFirst_assigned (eq_sign_not_mem_labeller_flag _ h) v
  have hk : labeller.lookupFlag (String.ofList f.toList) = some k := by
    rw [String.ofList_toList]
    exact lookupFlag_labeller_of_mem _ h
  simpa [String.ofList_toList] using
    readWord_of_split hw (lookupFlag_labeller_assigned f v) hs hk

theorem labeller_short_flag {f : String} {k : Nat} (h : (f, k) ∈ labeller.flags)
    (hf : f.length = 2) : ∃ c, f.toList = ['-', c] ∧ c ≠ '-' := by
  rcases labeller_flag_shape h with hshort | ⟨r, hr, hfr⟩
  · exact hshort
  · have hlen : f.toList.length = 2 := by rw [String.length_toList, hf]
    rw [hfr] at hlen
    exact absurd (List.length_eq_zero_iff.mp (by simpa using hlen)) hr

-- What goes before an `=` in a short flag with its value run on is the flag with some of the
-- value: no flag.
theorem lookupFlag_labeller_split_run_on {c d : Char} {ds b a : List Char} (hc : c ≠ '-')
    (hce : c ≠ '=') (hd : d ≠ '=') (hba : splitFirst '=' ('-' :: c :: d :: ds) = some (b, a)) :
    labeller.lookupFlag (String.ofList b) = none := by
  rw [splitFirst_cons_of_ne (by decide), splitFirst_cons_of_ne hce, splitFirst_cons_of_ne hd]
    at hba
  simp only [Option.map_map, Option.map_eq_some_iff, Function.comp_apply, Prod.mk.injEq,
    Prod.exists] at hba
  obtain ⟨b', a', -, rfl, -⟩ := hba
  exact lookupFlag_labeller_run_on hc

-- A short flag with its value run on stands for that flag only: no flag begins with the word.
theorem candidates_labeller_run_on {f v : String} {k : Nat} {c d : Char} {ds : List Char}
    (h : (f, k) ∈ labeller.flags) (hfc : f.toList = ['-', c]) (hc : c ≠ '-')
    (hvd : v.toList = d :: ds) : labeller.candidates (f ++ v) = [(k, f, some v)] := by
  have hw : (f ++ v).toList = '-' :: c :: d :: ds := by simp [String.toList_append, hfc, hvd]
  rw [candidates_short hw hc]
  apply filterMap_eq_singleton labeller_flags_nodup h
  rintro ⟨g, j⟩ hx
  have hfo : String.ofList ['-', c] = f := by rw [← hfc, String.ofList_toList]
  have hvo : String.ofList (d :: ds) = v := by rw [← hvd, String.ofList_toList]
  by_cases hg : g = f
  · subst hg
    have hj := labeller_index_unique h hx
    simp [hfo, hvo, hj]
  · have hns : ¬ g.startsWith (f ++ v) := fun hpre =>
      labeller_not_prefix_run_on hc hx (hw ▸ String.startsWith_string_iff.mp hpre)
    simp [hfo, hg, hns]

theorem readWord_labeller_run_on {f v : String} {k : Nat} (h : (f, k) ∈ labeller.flags)
    (hf : f.length = 2) (hv : v ≠ "") (hv' : ¬ v.startsWith "=") :
    labeller.readWord (f ++ v) = .ok (.option k f (some v)) := by
  obtain ⟨c, hfc, hc⟩ := labeller_short_flag h hf
  obtain ⟨d, ds, hvd⟩ : ∃ d ds, v.toList = d :: ds := by
    cases hvl : v.toList with
    | nil => exact absurd (String.toList_eq_nil_iff.mp hvl) hv
    | cons d ds => exact ⟨d, ds, rfl⟩
  have hd : d ≠ '=' := by
    rintro rfl
    exact hv' (String.startsWith_string_iff.mpr (by simp [hvd]))
  have hce : c ≠ '=' := by
    rintro rfl
    exact eq_sign_not_mem_labeller_flag _ h (by simp [hfc])
  have hw : (f ++ v).toList = '-' :: c :: d :: ds := by simp [String.toList_append, hfc, hvd]
  have hword : f ++ v = String.ofList ('-' :: c :: d :: ds) := by
    rw [← hw, String.ofList_toList]
  have hnone : labeller.lookupFlag (f ++ v) = none := by
    rw [hword]
    exact lookupFlag_labeller_run_on hc
  refine readWord_of_candidates hw hnone (fun b a hba => ?_)
    (candidates_labeller_run_on h hfc hc hvd)
  rw [hw] at hba
  exact lookupFlag_labeller_split_run_on hc hce hd hba

theorem long_of_startsWith {w : String} (h : w.startsWith "--") :
    ∃ r, w.toList = '-' :: '-' :: r := by
  obtain ⟨r, hr⟩ := String.startsWith_string_iff.mp h
  exact ⟨r, hr.symm⟩

section Abbreviated

variable {pre f : String} {k : Nat} (h : (f, k) ∈ labeller.flags)
  (huniq : ∀ g j, (g, j) ∈ labeller.flags → (g.startsWith pre ↔ g = f))

include h huniq in
theorem filterMap_labeller_abbreviated (attached : Option String) :
    (labeller.flags.filterMap fun (g, j) =>
      if g.startsWith pre then some (j, g, attached) else none) = [(k, f, attached)] := by
  apply filterMap_eq_singleton labeller_flags_nodup h
  rintro ⟨g, j⟩ hx
  by_cases hg : g = f
  · subst hg
    have hj := labeller_index_unique h hx
    simp [(huniq g j hx).mpr rfl, hj]
  · have hns : ¬ g.startsWith pre := fun hs => hg ((huniq g j hx).mp hs)
    simp [hns, hg]

include huniq in
theorem lookupFlag_labeller_abbreviated (hpf : pre ≠ f) : labeller.lookupFlag pre = none := by
  rw [lookupFlag_eq_none_iff]
  intro x hx heq
  have hself : x.1.startsWith pre := by
    rw [heq]
    exact String.startsWith_string_iff.mpr (List.prefix_refl _)
  exact hpf (heq ▸ (huniq x.1 x.2 hx).mp hself)

include h huniq in
theorem readWord_labeller_abbreviated (hdash : pre.startsWith "--") (heq : '=' ∉ pre.toList) :
    labeller.readWord pre = .ok (.option k f none) := by
  by_cases hpf : pre = f
  · subst hpf
    exact readWord_labeller_flag h
  · obtain ⟨r, hr⟩ := long_of_startsWith hdash
    have hs : splitFirst '=' pre.toList = none := splitFirst_eq_none heq
    refine readWord_of_candidates hr (lookupFlag_labeller_abbreviated huniq hpf)
      (fun b a hba => ?_) ?_
    · rw [hs] at hba
      cases hba
    · rw [candidates_long_of_no_split hr hs]
      exact filterMap_labeller_abbreviated h huniq none

include h huniq in
theorem readWord_labeller_abbreviated_assigned (hdash : pre.startsWith "--")
    (heq : '=' ∉ pre.toList) (v : String) :
    labeller.readWord (pre ++ "=" ++ v) = .ok (.option k f (some v)) := by
  by_cases hpf : pre = f
  · subst hpf
    exact readWord_labeller_assigned h v
  · obtain ⟨r, hr⟩ := long_of_startsWith hdash
    have hw : (pre ++ "=" ++ v).toList = '-' :: '-' :: (r ++ '=' :: v.toList) := by
      rw [toList_assigned, hr]
      rfl
    have hs := splitFirst_assigned heq v
    refine readWord_of_candidates hw (lookupFlag_labeller_assigned pre v) (fun b a hba => ?_) ?_
    · rw [hs, Option.some.injEq, Prod.mk.injEq] at hba
      obtain ⟨rfl, rfl⟩ := hba
      rw [String.ofList_toList]
      exact lookupFlag_labeller_abbreviated huniq hpf
    · rw [candidates_long_of_split hw hs, String.ofList_toList, String.ofList_toList]
      exact filterMap_labeller_abbreviated h huniq (some v)

end Abbreviated

-- Every flag is read by its exact spelling and with a value attached after `=`; a short flag
-- also with a value run on. A prefix of a long flag that begins no other flag stands for it, alone
-- or with a value after `=`. A word that does not begin with a dash is a value.
theorem labeller_spellings :
    (∀ f k, (f, k) ∈ labeller.flags →
      labeller.readWord f = .ok (.option k f none) ∧
      (∀ v, labeller.readWord (f ++ "=" ++ v) = .ok (.option k f (some v))) ∧
      (f.length = 2 → ∀ v, v ≠ "" → ¬ v.startsWith "=" →
        labeller.readWord (f ++ v) = .ok (.option k f (some v))) ∧
      (∀ pre, pre.startsWith "--" → '=' ∉ pre.toList →
        (∀ g j, (g, j) ∈ labeller.flags → (g.startsWith pre ↔ g = f)) →
        labeller.readWord pre = .ok (.option k f none) ∧
          ∀ v, labeller.readWord (pre ++ "=" ++ v) = .ok (.option k f (some v)))) ∧
    ∀ v, ¬ v.startsWith "-" → labeller.readWord v = .ok .value := by
  refine ⟨fun f k h => ⟨readWord_labeller_flag h, readWord_labeller_assigned h, ?_, ?_⟩,
    fun v hv => readWord_of_not_dash hv⟩
  · intro hf v hv hv'
    exact readWord_labeller_run_on h hf hv hv'
  · intro pre hdash heq huniq
    exact ⟨readWord_labeller_abbreviated h huniq hdash heq,
      readWord_labeller_abbreviated_assigned h huniq hdash heq⟩

theorem labeller_required_iff (keys : List Nat) :
    (∀ o k, (o, k) ∈ labeller.opts.zipIdx → o.required = true → k ∈ keys) ↔
      1 ∈ keys ∧ 2 ∈ keys := by
  have hreq : ∀ x ∈ labeller.opts.zipIdx, x.1.required = true ↔ x.2 = 1 ∨ x.2 = 2 := by
    decide
  have h₁ : ∃ x ∈ labeller.opts.zipIdx, x.2 = 1 ∧ x.1.required = true := by decide
  have h₂ : ∃ x ∈ labeller.opts.zipIdx, x.2 = 2 ∧ x.1.required = true := by decide
  constructor
  · intro h
    obtain ⟨⟨o₁, k₁⟩, hx₁, rfl, hr₁⟩ := h₁
    obtain ⟨⟨o₂, k₂⟩, hx₂, rfl, hr₂⟩ := h₂
    exact ⟨h o₁ _ hx₁ hr₁, h o₂ _ hx₂ hr₂⟩
  · rintro ⟨hk₁, hk₂⟩ o k hx hr
    rcases (hreq (o, k) hx).mp hr with rfl | rfl
    · exact hk₁
    · exact hk₂

theorem lastValues_labeller (given : List (Nat × Value)) :
    labeller.lastValues given =
      [0, 1, 2, 3].map fun k => (given.reverse.find? (·.1 == k)).map (·.2) := rfl

theorem parse_labeller_eq_ok_iff {argv : List String} {vs : List (Option Value)} :
    labeller.parse argv = .ok vs ↔
      ∃ occ, labeller.Occurs argv occ ∧ 1 ∈ occ.map Prod.fst ∧ 2 ∈ occ.map Prod.fst ∧
        vs = [0, 1, 2, 3].map fun k => (lastGiven occ k).map Value.ofGiven := by
  simp only [parse_eq_ok_iff, labeller_required_iff, lastValues_labeller, find_givenOf, and_assoc]

-- Occurrences that name both required options give the tool its arguments: the last resort of
-- `readArgs`, for a reading without them, is never taken.
theorem readArgs_of_occurs {argv : List String} {occ : List (Nat × String)}
    (hocc : labeller.Occurs argv occ) (h₁ : 1 ∈ occ.map Prod.fst)
    (h₂ : 2 ∈ occ.map Prod.fst) :
    ∃ t₁ t₂, lastGiven occ 1 = some t₁ ∧ lastGiven occ 2 = some t₂ ∧
      readArgs argv = .ok ⟨Value.ofGiven t₁, Value.ofGiven t₂,
        (lastGiven occ 3).map Value.ofGiven⟩ := by
  obtain ⟨t₁, ht₁⟩ := Option.isSome_iff_exists.mp (lastGiven_isSome_iff.mpr h₁)
  obtain ⟨t₂, ht₂⟩ := Option.isSome_iff_exists.mp (lastGiven_isSome_iff.mpr h₂)
  have hp := parse_labeller_eq_ok_iff.mpr ⟨occ, hocc, h₁, h₂, rfl⟩
  exact ⟨t₁, t₂, ht₁, ht₂, by simp [readArgs, hp, ht₁, ht₂]⟩

theorem readArgs_eq_ok_iff {argv : List String} {a : Args} :
    readArgs argv = .ok a ↔ ∃ occ, labeller.Occurs argv occ ∧
      (lastGiven occ 1).map Value.ofGiven = some a.inputFile ∧
      (lastGiven occ 2).map Value.ofGiven = some a.outputDir ∧
      (lastGiven occ 3).map Value.ofGiven = a.humanLabeling := by
  constructor
  · intro h
    cases hp : labeller.parse argv with
    | error s => simp [readArgs, hp] at h
    | ok vs =>
      obtain ⟨occ, hocc, h₁, h₂, -⟩ := parse_labeller_eq_ok_iff.mp hp
      obtain ⟨t₁, t₂, ht₁, ht₂, hread⟩ := readArgs_of_occurs hocc h₁ h₂
      obtain rfl : a = _ := Except.ok.inj (h.symm.trans hread)
      exact ⟨occ, hocc, by simp [ht₁], by simp [ht₂], rfl⟩
  · rintro ⟨occ, hocc, h₁, h₂, h₃⟩
    have hk₁ : 1 ∈ occ.map Prod.fst :=
      lastGiven_isSome_iff.mp (by simpa using congrArg Option.isSome h₁)
    have hk₂ : 2 ∈ occ.map Prod.fst :=
      lastGiven_isSome_iff.mp (by simpa using congrArg Option.isSome h₂)
    obtain ⟨t₁, t₂, ht₁, ht₂, hread⟩ := readArgs_of_occurs hocc hk₁ hk₂
    rw [hread]
    simp only [ht₁, ht₂, Option.map_some, Option.some.injEq] at h₁ h₂
    rw [h₁, h₂, h₃]

theorem readArgs_eq_error_iff {argv : List String} {e : Exit} :
    readArgs argv = .error e ↔
      ∃ s, labeller.parse argv = .error s ∧ e = labeller.exitOf s := by
  constructor
  · intro h
    cases hp : labeller.parse argv with
    | error s =>
      simp only [readArgs, hp, Except.error.injEq] at h
      exact ⟨s, rfl, h.symm⟩
    | ok vs =>
      obtain ⟨occ, hocc, h₁, h₂, -⟩ := parse_labeller_eq_ok_iff.mp hp
      obtain ⟨t₁, t₂, -, -, hread⟩ := readArgs_of_occurs hocc h₁ h₂
      rw [hread] at h
      cases h
  · rintro ⟨s, hp, rfl⟩
    simp [readArgs, hp]

theorem exitOf_labeller_usage (m : String) :
    labeller.exitOf (.usage m) =
      ⟨2, "", labeller.usage Layout.standard ++ "create_labels.py: error: " ++ m ++ "\n"⟩ := by
  simp only [exitOf, Exit.mk.injEq, true_and, String.append_assoc]
  congr 1

-- The run ends with the help exactly when every word reads and the help is taken before any
-- usage error.
theorem readArgs_eq_help_iff {argv : List String} :
    readArgs argv = .error (labeller.exitOf .help) ↔
      ∃ rs, labeller.classify argv = .ok rs ∧ labeller.HelpFirst (argv.zip rs) := by
  rw [readArgs_eq_error_iff, ← parse_eq_help_iff]
  constructor
  · rintro ⟨s, hp, hs⟩
    cases s with
    | help => exact hp
    | usage m => simp [exitOf] at hs
  · intro hp
    exact ⟨.help, hp, rfl⟩

-- The tool's flags are spelled as `labeller_spellings` gives, and its command line is read
-- without stopping exactly when it is a run of occurrences of options that take values, the input
-- file and the output directory among them; each field holds the value of its option's last
-- occurrence. Otherwise the run ends with the help, with code 0, exactly when every word reads and
-- the help is taken before any usage error, and with code 2 after the usage line and the error in
-- every other case; the tool's run ends the same way.
theorem readArgs_occurrences_or_exit :
    ((∀ f k, (f, k) ∈ labeller.flags →
      labeller.readWord f = .ok (.option k f none) ∧
      (∀ v, labeller.readWord (f ++ "=" ++ v) = .ok (.option k f (some v))) ∧
      (f.length = 2 → ∀ v, v ≠ "" → ¬ v.startsWith "=" →
        labeller.readWord (f ++ v) = .ok (.option k f (some v))) ∧
      (∀ pre, pre.startsWith "--" → '=' ∉ pre.toList →
        (∀ g j, (g, j) ∈ labeller.flags → (g.startsWith pre ↔ g = f)) →
        labeller.readWord pre = .ok (.option k f none) ∧
          ∀ v, labeller.readWord (pre ++ "=" ++ v) = .ok (.option k f (some v)))) ∧
    ∀ v, ¬ v.startsWith "-" → labeller.readWord v = .ok .value) ∧
    ∀ argv : List String,
      (∀ a, readArgs argv = .ok a ↔
        ∃ occ, labeller.Occurs argv occ ∧
          (lastGiven occ 1).map Value.ofGiven = some a.inputFile ∧
          (lastGiven occ 2).map Value.ofGiven = some a.outputDir ∧
          (lastGiven occ 3).map Value.ofGiven = a.humanLabeling) ∧
      (readArgs argv = .error ⟨0, labeller.helpText Layout.standard, ""⟩ ↔
        ∃ rs, labeller.classify argv = .ok rs ∧ labeller.HelpFirst (argv.zip rs)) ∧
      (∀ e, readArgs argv = .error e →
        e = ⟨0, labeller.helpText Layout.standard, ""⟩ ∨
          ∃ m, e = ⟨2, "",
            labeller.usage Layout.standard ++ "create_labels.py: error: " ++ m ++ "\n"⟩) ∧
      (∀ e, readArgs argv = .error e → run argv = e) := by
  refine ⟨labeller_spellings, fun argv =>
    ⟨fun a => readArgs_eq_ok_iff, readArgs_eq_help_iff, fun e h => ?_, fun e h => ?_⟩⟩
  · obtain ⟨s, -, rfl⟩ := readArgs_eq_error_iff.mp h
    cases s with
    | help => exact .inl rfl
    | usage m => exact .inr ⟨m, exitOf_labeller_usage m⟩
  · simp [run, h]

-- A value given as the end-of-options word leaves its option an empty list of texts, and a
-- prefix that fits two flags ends the reading before a help flag in front of it is taken.
theorem readArgs_dashes_value_and_early_prefix_error :
    readArgs ["--input-file=--", "-o", "x"] = .ok ⟨.empty, .text "x", none⟩ ∧
      run ["-h", "--h"] = ⟨2, "", labeller.usage Layout.standard ++ "create_labels.py: error: " ++
        "ambiguous option: --h could match --help, --human_labeling\n"⟩ := by
  have hread : (readArgs ["--input-file=--", "-o", "x"]).toOption =
      some ⟨.empty, .text "x", none⟩ := by
    decide +kernel
  refine ⟨?_, by decide +kernel⟩
  cases h : readArgs ["--input-file=--", "-o", "x"] with
  | error e => simp [h, Except.toOption] at hread
  | ok a => simpa [h, Except.toOption] using hread

end Invocation

end DepTagger
