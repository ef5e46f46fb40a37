import DepTagger.Proofs.Labelling.RootWord

namespace DepTagger

namespace Pattern

-- Pairs `(k, j)` of positions: the earlier final pattern at `j` fits every tree the one at `k`
-- fits.
def shadowedBy : List (Nat × Nat) :=
  [(66, 59), (80, 79), (81, 79), (82, 79), (85, 79), (89, 79), (98, 79)]

theorem shadowedBy_impliedBy :
    shadowedBy.all (fun (k, j) => 2 ≤ j && j < k &&
      match builtin[k]?, builtin[j]? with
      | some p, some q => q.impliedBy p
      | _, _ => false) = true := by
  decide

end Pattern

namespace Tree

variable {t : Tree}

theorem not_fits_builtin_two {p : Pattern} (hp : Pattern.builtin[2]? = some p) : t.fits p = false := by
  -- The third path keeps the root only if it has no prep child; the fourth steps to one.
  let c : Clause := ⟨"cond", ["root", "!dobj", "!xcomp", "!prep", "advcl"], false⟩
  let c' : Clause := ⟨"cond", ["root", "prep", "advmod"], false⟩
  have hcs : c ∈ p.clauses ∧ c' ∈ p.clauses := by
    obtain ⟨cs, h2⟩ : ∃ cs, Pattern.builtin[2]? = some ⟨cs, true⟩ ∧ c ∈ cs ∧ c' ∈ cs :=
      ⟨_, rfl, by simp [c], by simp [c']⟩
    rw [h2.1] at hp
    cases hp
    exact h2.2
  have hc : c.steps = .ok [.lacking "dobj", .lacking "xcomp", .lacking "prep", .down "advcl"] := rfl
  have hc' : c'.steps = .ok [.down "prep", .down "advmod"] := rfl
  rw [Bool.eq_false_iff]
  intro hfit
  obtain ⟨ss, qs, hss, hqs, hne⟩ := select_of_selection_ne_nil (fits_iff.mp hfit c hcs.1)
  obtain ⟨ss', qs', hss', hqs', hne'⟩ := select_of_selection_ne_nil (fits_iff.mp hfit c' hcs.2)
  rw [hc] at hss
  rw [hc'] at hss'
  cases hss
  cases hss'
  obtain ⟨-, h₁⟩ := reach_lacking_of_ne_nil hqs hne
  obtain ⟨-, h₂⟩ := reach_lacking_of_ne_nil h₁ hne
  obtain ⟨hlack, -⟩ := reach_lacking_of_ne_nil h₂ hne
  have hhas := hasGroup_of_reach_down hqs' hne'
  rw [hlack] at hhas
  cases hhas

theorem firstFit_ne_two : t.firstFit ≠ some 2 := by
  intro h
  obtain ⟨-, ⟨p, hp, hfit⟩, -⟩ := firstFit_eq_some_iff.mp h
  rw [not_fits_builtin_two hp] at hfit
  cases hfit

theorem firstFit_ne_of_shadowedBy {k j : Nat} (h : (k, j) ∈ Pattern.shadowedBy) : t.firstFit ≠ some k := by
  intro hk
  obtain ⟨-, ⟨p, hp, hfit⟩, hbefore⟩ := firstFit_eq_some_iff.mp hk
  have hshadow := List.all_eq_true.mp Pattern.shadowedBy_impliedBy _ h
  simp only [hp, Bool.and_eq_true, decide_eq_true_eq] at hshadow
  obtain ⟨⟨hj, hjk⟩, himp⟩ := hshadow
  cases hq : Pattern.builtin[j]? with
  | none => simp [hq] at himp
  | some q =>
    simp only [hq] at himp
    have hq' := hbefore j q hj hjk hq
    rw [fits_of_impliedBy himp hfit] at hq'
    cases hq'

-- The positions at which a labelling can end.
theorem firstFit_mem {k : Nat} (h : t.firstFit = some k) :
    2 ≤ k ∧ k ≤ 101 ∧ k ∉ [2, 66, 80, 81, 82, 85, 89, 98] := by
  obtain ⟨hk, ⟨p, hp, -⟩, -⟩ := firstFit_eq_some_iff.mp h
  have hlen : Pattern.builtin.length = 102 := rfl
  have hlt := (List.getElem?_eq_some_iff.mp hp).1
  refine ⟨hk, by omega, fun hmem => ?_⟩
  rcases List.mem_cons.mp hmem with rfl | hmem
  · exact firstFit_ne_two h
  · have hfst : [66, 80, 81, 82, 85, 89, 98] = Pattern.shadowedBy.map Prod.fst := rfl
    rw [hfst] at hmem
    obtain ⟨⟨k', j⟩, hkj, rfl⟩ := List.mem_map.mp hmem
    exact firstFit_ne_of_shadowedBy hkj h

-- The words build a tree whose labelling ends at position `k`.
def endsAt (untokenize : List String → String) (k : Nat) (heads : List Int)
    (relations : List (Option String)) (words : List String) : Bool :=
  match build untokenize heads relations words with
  | .ok t => t.firstFit == some k
  | .error _ => false

theorem exists_build_of_endsAt {untokenize : List String → String} {k : Nat} {heads : List Int}
    {relations : List (Option String)} {words : List String}
    (h : endsAt untokenize k heads relations words = true) :
    ∃ t, build untokenize heads relations words = .ok t ∧ t.firstFit = some k := by
  unfold endsAt at h
  split at h
  · next t ht => exact ⟨t, ht, by simpa using h⟩
  · cases h

-- For each final position no earlier one shadows, a sentence whose labelling ends there.
def samples : List (Nat × List Int × List (Option String) × List String) := [
  (3, [2, 0, 4, 5, 2, 7, 2, 2],
    [some "nsubj", some "root", some "prt", some "rcmod", some "dobj", some "det", some "advcl",
      some "punct"],
    ["one", "soft", "acquires", "Application", "communications", "of", "selecting", "."]),
  (4, [7, 3, 7, 3, 7, 7, 0],
    [some "nsubj", some "infmod", some "dobj", some "det", some "advcl", some "punct", some "root"],
    ["technology", "record", "would", "The", "is", ".", "related"]),
  (5, [0, 3, 1, 1, 4, 1, 1],
    [some "root", some "det", some "nsubj", some "dobj", some "prep", some "advcl", some "punct"],
    ["repository", "The", "robustness", "turn", "displayed", "trace", "."]),
  (6, [3, 3, 0, 3],
    [some "nsubj", some "dobj", some "root", some "advcl"],
    ["place", "UAV", "can", "approve"]),
  (7, [4, 4, 2, 0, 4],
    [some "nsubj", some "dobj", some "rcmod", some "root", some "prep"],
    ["Create", "basic", "discarded", "users", "do"]),
  (8, [4, 4, 2, 0, 4, 4],
    [some "nsubj", some "dobj", some "infmod", some "root", some "prep", some "punct"],
    ["startup", "secure", "statistical", "each", "played", "."]),
  (9, [6, 6, 2, 6, 6, 0],
    [some "nsubj", some "dobj", some "prep", some "prep", some "punct", some "root"],
    ["server", "defined", "LO", "evidence", ".", "algorithm"]),
  (10, [2, 0, 2, 2, 2],
    [some "dobj", some "root", some "punct", some "nsubj", some "prep"],
    ["cache", "pages", ".", "variations", "Problems"]),
  (11, [3, 1, 6, 3, 6, 0],
    [some "pobj", some "det", some "prep", some "pcomp", some "nsubj", some "root"],
    ["experience", "a", "resolution", "set", "option", "assets"]),
  (12, [3, 1, 0, 5, 3, 3, 3, 3],
    [some "dobj", some "rcmod", some "root", some "aux", some "nsubj", some "advmod", some "dep",
      some "punct"],
    ["separation", "clearly", "ability", "during", "guide", "compressed", "report", "."]),
  (13, [2, 6, 6, 6, 6, 0, 6],
    [some "infmod", some "dobj", some "nsubj", some "advmod", some "dep", some "root", some "punct"],
    ["private", "do", "resets", "High", "Configuration", "get", "."]),
  (14, [6, 1, 6, 6, 6, 0, 6],
    [some "dobj", some "prep", some "nsubj", some "advmod", some "dep", some "root", some "punct"],
    ["Japanese", "be", "well", "remote", "submissions", "ASCII", "."]),
  (15, [6, 6, 6, 6, 6, 0],
    [some "dobj", some "nsubj", some "advmod", some "dep", some "punct", some "root"],
    ["so", "ASCII", "after", "for", ".", "Service"]),
  (16, [3, 3, 4, 0, 4, 4],
    [some "rcmod", some "det", some "dobj", some "root", some "nsubj", some "advmod"],
    ["creation", "The", "playing", "There", "GIF", "end"]),
  (17, [0, 4, 2, 1, 1, 1],
    [some "root", some "infmod", some "cc", some "dobj", some "advmod", some "nsubj"],
    ["investigation", "separated", "by", "no", "already", "observing"]),
  (18, [2, 0, 2, 3, 3, 2, 2],
    [some "nsubj", some "root", some "dobj", some "prep", some "det", some "partmod", some "advmod"],
    ["shutdown", "Product", "return", "correct", "the", "HCIs", "entry"]),
  (19, [0, 1, 1, 1],
    [some "root", some "dobj", some "nsubj", some "advmod"],
    ["heating", "limit", "approach", "role"]),
  (20, [0, 1, 4, 2, 2, 1, 8, 1, 1],
    [some "root", some "ccomp", some "partmod", some "nsubj", some "dobj", some "nsubj",
      some "prep", some "ccomp", some "punct"],
    ["Otherwise", "email", "power", "high", "semantic", "returning", "Functions", "only", "."]),
  (21, [4, 4, 4, 5, 0, 5, 5],
    [some "nsubj", some "dobj", some "prep", some "ccomp", some "root", some "nsubj", some "punct"],
    ["images", "all", "greater", "corresponds", "PDAs", "Monitoring", "."]),
  (22, [4, 1, 1, 7, 7, 5, 0, 7, 8, 9, 8, 7],
    [some "nsubjpass", some "advcl", some "det", some "ccomp", some "nsubj", some "rcmod",
      some "root", some "prep", some "advcl", some "auxpass", some "rcmod", some "xcomp"],
    ["device", "receive", "a", "choice", "Each", "to", "architecture", "satisfactory", "storing",
      "to", "spectral", "animation"]),
  (23, [0, 1, 2, 3, 1, 1],
    [some "root", some "ccomp", some "nsubj", some "partmod", some "nsubj", some "punct"],
    ["creation", "accused", "faster", "image", "d", "."]),
  (24, [3, 3, 0, 5, 3],
    [some "nsubj", some "punct", some "root", some "nsubj", some "ccomp"],
    ["castes", ".", "Spec", "various", "protected"]),
  (25, [4, 4, 2, 0, 4],
    [some "nsubj", some "dobj", some "rcmod", some "root", some "partmod"],
    ["waiting", "task", "physical", "limits", "group"]),
  (26, [0, 3, 1, 6, 6, 1, 1],
    [some "root", some "det", some "nsubj", some "infmod", some "det", some "dobj", some "partmod"],
    ["detailed", "The", "turnaround", "transfer", "The", "contained", "may"]),
  (27, [5, 1, 2, 5, 0, 5],
    [some "dobj", some "prep", some "mark", some "partmod", some "root", some "nsubj"],
    ["critical", "signal", "DA", "files", "store", "compared"]),
  (28, [0, 1, 1, 1],
    [some "root", some "nsubj", some "dobj", some "partmod"],
    ["exist", "compare", "provided", "dialogue"]),
  (29, [2, 0, 2, 2],
    [some "dobj", some "root", some "prep", some "punct"],
    ["find", "after", "In", "."]),
  (30, [4, 3, 1, 0, 4],
    [some "prep", some "dobj", some "pcomp", some "root", some "nsubj"],
    ["part", "Service", "Investigation", "honored", "almost"]),
  (31, [0, -2, -4, 1, 1, 1],
    [some "root", some "dobj", some "prep", some "xcomp", some "nsubjpass", some "auxpass"],
    ["IOCs", "fetched", "file", "off", "protect", "its"]),
  (32, [5, 1, 5, 5, 0],
    [some "xcomp", some "dobj", some "nsubjpass", some "punct", some "root"],
    ["values", "Opponents", "Mahjong", ".", "Submittal"]),
  (33, [0, 4, 2, 1, 4, 1],
    [some "root", some "dobj", some "prep", some "xcomp", some "prep", some "nsubj"],
    ["Payment", "a", "capable", "owned", "generated", "records"]),
  (34, [4, 1, 4, 0, 1, 4],
    [some "xcomp", some "dobj", some "punct", some "root", some "prep", some "nsubj"],
    ["connect", "packages", ".", "changes", "programs", "Firestarter"]),
  (35, [0, 1, 1, 3, 7, 7, 4],
    [some "root", some "nsubjpass", some "prep", some "pobj", some "nsubj", some "prep", some "dep"],
    ["their", "real", "requires", "safe", "wherever", "be", "variations"]),
  (36, [6, 1, 6, 5, 3, 0, 6],
    [some "nsubj", some "nsubj", some "xcomp", some "pobj", some "prep", some "root", some "infmod"],
    ["covers", "capability", "eases", "COs", "communication", "higher", "programs"]),
  (37, [4, 3, 4, 0],
    [some "cop", some "det", some "nsubj", some "root"],
    ["addition", "the", "server", "only"]),
  (38, [9, 9, 2, 3, 4, 2, 9, 7, 0],
    [some "punct", some "xcomp", some "dobj", some "prep", some "advcl", some "advcl", some "nsubj",
      some "mark", some "root"],
    [".", "Opera", "Items", "i", "usable", "logical", "relay", "if", "Package"]),
  (39, [0, 1, 4, 6, 6, 1],
    [some "root", some "nsubj", some "det", some "dobj", some "advcl", some "xcomp"],
    ["Tag", "addition", "the", "his", "domain", "that"]),
  (40, [4, 1, 4, 5, 0, 5, 5, 5],
    [some "dobj", some "prep", some "dobj", some "xcomp", some "root", some "advcl", some "nsubj",
      some "punct"],
    ["clear", "site", "that", "reporting", "facts", "necessary", "relay", "."]),
  (41, [4, 3, 4, 0, 4],
    [some "nsubj", some "dobj", some "xcomp", some "root", some "advcl"],
    ["architecture", "initialisation", "Access", "alarm", "retrieving"]),
  (42, [5, 4, 2, 5, 0],
    [some "nsubj", some "dobj", some "prep", some "xcomp", some "root"],
    ["validate", "allow", "onto", "services", "some"]),
  (43, [4, 3, 4, 0],
    [some "nsubj", some "dobj", some "xcomp", some "root"],
    ["containing", "subset", "inform", "exposure"]),
  (44, [7, 3, 7, 5, 7, 7, 0],
    [some "nsubjpass", some "poss", some "advcl", some "dep", some "prep", some "punct",
      some "root"],
    ["facilitates", "should", "THEMAS", "scores", "some", "across", "can"]),
  (45, [3, 3, 0, 3],
    [some "nsubjpass", some "advcl", some "root", some "punct"],
    ["makes", "incorrect", "mode", "."]),
  (46, [0, 3, 4, 1, 1],
    [some "root", some "dobj", some "infmod", some "dobj", some "dobj"],
    ["identify", "mobile", "interruption", "regarding", "if"]),
  (47, [2, 0, 2],
    [some "nsubj", some "root", some "advcl"],
    ["goes", "real", "order"]),
  (48, [2, 3, 0, 3, 3],
    [some "rcmod", some "dep", some "root", some "nsubj", some "punct"],
    ["indicate", "additional", "maintain", "instance", "."]),
  (49, [0, 1, 1],
    [some "root", some "dobj", some "csubj"],
    ["compatibly", "support", "servers"]),
  (50, [5, 3, 4, 5, 0, 5],
    [some "csubj", some "det", some "dobj", some "csubj", some "root", some "advmod"],
    ["department", "the", "continue", "queue", "public", "set"]),
  (51, [3, 3, 0],
    [some "csubj", some "advmod", some "root"],
    ["IP", "discarded", "To"]),
  (52, [0, 1, 4, 1, 1, 1],
    [some "root", some "amod", some "pobj", some "prep", some "rcmod", some "punct"],
    ["creates", "shortest", "cost", "of", "staff", "."]),
  (53, [0, 4, 4, 1, 4, 1, 6],
    [some "root", some "xcomp", some "nsubj", some "xcomp", some "advcl", some "nsubj", some "det"],
    ["part", "relay", "citizens", "from", "auto", "designation", "The"]),
  (54, [8, 1, 1, 1, 8, 5, 6, 0],
    [some "nsubjpass", some "rcmod", some "advcl", some "pobj", some "prep", some "pobj",
      some "mark", some "root"],
    ["CCTNS", "resets", "decides", "additional", "To", "when", "alarm", "transferred"]),
  (55, [6, 1, 6, 3, 6, 0],
    [some "nsubj", some "det", some "prep", some "pobj", some "advcl", some "root"],
    ["levels", "all", "TO", "range", "whose", "or"]),
  (56, [4, 3, 4, 0, 4, 4, 4],
    [some "prep", some "pobj", some "prep", some "root", some "poss", some "punct",
      some "nsubjpass"],
    ["at", "precluding", "TO", "if", "during", ".", "input"]),
  (57, [4, 3, 4, 0],
    [some "nsubjpass", some "pobj", some "prep", some "root"],
    ["accordance", "operandi", "as", "astronomical"]),
  (58, [4, 4, 2, 0, 4],
    [some "nsubjpass", some "prep", some "pobj", some "root", some "advcl"],
    ["complaints", "In", "user", "The", "came"]),
  (59, [5, 5, 2, 5, 0],
    [some "nsubjpass", some "prep", some "pobj", some "punct", some "root"],
    ["procedure", "in", "Kongs", ".", "finished"]),
  (60, [5, 3, 5, 5, 0],
    [some "nsubjpass", some "pobj", some "prep", some "punct", some "root"],
    ["crime", "multiple", "to", ".", "Normal"]),
  (61, [2, 0, 4, 2, 2],
    [some "nsubj", some "root", some "pobj", some "prep", some "punct"],
    ["standardization", "device", "thermostat", "on", "."]),
  (62, [5, 5, 2, 5, 0, 5],
    [some "cop", some "xcomp", some "advmod", some "nsubj", some "root", some "punct"],
    ["persists", "supporting", "Either", "error", "positions", "."]),
  (63, [4, 4, 2, 0],
    [some "nsubjpass", some "prep", some "pobj", some "root"],
    ["operational", "by", "timestamped", "Operation"]),
  (64, [0, 1, 1],
    [some "root", some "nsubjpass", some "prep"],
    ["Astronomical", "Police", "upon"]),
  (65, [8, 1, 2, 5, 6, 2, 1, 0, 8],
    [some "prep", some "pcomp", some "cop", some "det", some "pobj", some "prep", some "prep",
      some "root", some "nsubj"],
    ["OF", "require", "initiates", "each", "card", "with", "ACROSS", "CAPABLE", "view"]),
  (67, [0, 3, 1],
    [some "root", some "amod", some "nsubjpass"],
    ["separated", "User", "digital"]),
  (68, [0, 1, 4, 1, 1],
    [some "root", some "nsubjpass", some "pobj", some "prep", some "punct"],
    ["form", "created", "presented", "onto", "."]),
  (69, [4, 3, 1, 7, 7, 5, 0, 7, 7],
    [some "pcomp", some "pobj", some "prep", some "prep", some "nsubj", some "det", some "root",
      some "advcl", some "punct"],
    ["ordered", "loaded", "in", "of", "do", "The", "capable", "testing", "."]),
  (70, [2, 4, 4, 0],
    [some "nsubj", some "xcomp", some "nsubj", some "root"],
    ["a", "customize", "format", "relay"]),
  (71, [0, 3, 1, 1, 1],
    [some "root", some "nsubj", some "xcomp", some "nsubj", some "prep"],
    ["standards", "artifacts", "existence", "System", "during"]),
  (72, [0, 1, 1, 1],
    [some "root", some "nsubjpass", some "ccomp", some "punct"],
    ["environment", "chooses", "candidate", "."]),
  (73, [3, 3, 0, 3, 3, 5, 3],
    [some "neg", some "advcl", some "root", some "nsubj", some "prep", some "pobj", some "punct"],
    ["Access", "picked", "find", "range", "into", "load", "."]),
  (74, [0, 1, 5, 3, 1],
    [some "root", some "nsubj", some "pobj", some "det", some "prep"],
    ["wish", "Within", "execute", "The", "FOR"]),
  (75, [0, 1, 2, 1],
    [some "root", some "prep", some "advmod", some "nsubj"],
    ["Pung", "to", "PRIOR", "aspects"]),
  (76, [0, 1, 4, 1, 1],
    [some "root", some "nsubj", some "pobj", some "prep", some "advcl"],
    ["Review", "certain", "approval", "with", "selecting"]),
  (77, [5, 5, 2, 3, 0, 5],
    [some "nsubjpass", some "prep", some "pobj", some "mark", some "root", some "dep"],
    ["Firestarter", "for", "derived", "onto", "having", "generate"]),
  (78, [4, 4, 2, 0, 4, 4],
    [some "nsubj", some "prep", some "pobj", some "root", some "nsubj", some "punct"],
    ["identification", "as", "sending", "reused", "across", "."]),
  (79, [-2, -4, 0, 3, -2],
    [some "dobj", some "rcmod", some "root", some "nsubj", some "punct"],
    ["excluding", "fatal", "An", "Safari", "."]),
  (83, [0, 3, 1, -3],
    [some "root", some "dep", some "dobj", some "nsubj"],
    ["enable", "regarding", "CAPABILITY", "To"]),
  (84, [4, 3, 4, 0],
    [some "nsubj", some "infmod", some "dobj", some "root"],
    ["servers", "batches", "CAPABILITY", "product"]),
  (86, [5, 1, 5, 3, 0, 5],
    [some "dep", some "mark", some "dobj", some "infmod", some "root", some "nsubj"],
    ["event", "if", "d", "position", "sure", "queued"]),
  (87, [2, 3, 0, 3, 7, 7, 3],
    [some "prep", some "dobj", some "root", some "nsubj", some "mark", some "prt", some "dep"],
    ["platform", "instrumentation", "option", "tree", "if", "during", "positions"]),
  (88, [2, 0, 2, 2, 4],
    [some "dobj", some "root", some "nsubj", some "dep", some "mark"],
    ["help", "tool", "modification", "understanding", "if"]),
  (90, [4, 1, 1, 0, 4],
    [some "dobj", some "infmod", some "dep", some "root", some "nsubj"],
    ["Review", "credit", "Problems", "playing", "Microsoft"]),
  (91, [4, 4, 4, 7, 7, 7, 0],
    [some "dep", some "prep", some "det", some "dobj", some "nsubj", some "punct", some "root"],
    ["if", "Tag", "each", "granddaughter", "via", ".", "exceeds"]),
  (92, [0, 1, 2, 5, 1],
    [some "root", some "dobj", some "dep", some "det", some "nsubj"],
    ["respond", "typical", "submit", "The", "add"]),
  (93, [0, 1, 1],
    [some "root", some "nsubjpass", some "prep"],
    ["aids", "This", "during"]),
  (94, [2, 0, 2],
    [some "nsubjpass", some "root", some "prep"],
    ["signatures", "naming", "before"]),
  (95, [4, 4, 2, 0, 4],
    [some "nsubj", some "prep", some "pobj", some "root", some "prep"],
    ["Produce", "able", "version", "naming", "searching"]),
  (96, [2, 0, 2],
    [none, some "root", some "dobj"],
    ["a", "b", "c"]),
  (97, [0, 1],
    [some "root", some "nsubjpass"],
    ["storage", "undo"]),
  (99, [3, 3, 5, 5, 0],
    [some "infmod", some "det", some "dobj", some "nsubj", some "root"],
    ["minimal", "each", "efficiency", "granddaughter", "intervention"]),
  (100, [2, 0, 2, 3, 2],
    [some "nsubj", some "root", some "dobj", some "prep", some "punct"],
    ["Users", "can", "not", "gim", "me"]),
  (101, [2, 0, 2],
    [some "dobj", some "root", some "nsubj"],
    ["category", "themselves", "remove"])]

theorem samples_endsAt :
    samples.all (fun (k, heads, relations, words) =>
      endsAt (String.intercalate " ") k heads relations words) = true := by
  decide +kernel

theorem samples_positions :
    samples.map Prod.fst = (List.range' 2 100).filter (· ∉ [2, 66, 80, 81, 82, 85, 89, 98]) := by
  decide

-- A labelling can end at a final position exactly when it is none of the eight that no tree
-- reaches.
theorem exists_label_eq_some_iff (untokenize : List String → String) (k : Nat) :
    (∃ heads relations words t g, build untokenize heads relations words = .ok t ∧
        t.label.run (Tagging.fresh t.size) = .ok (some k) g) ↔
      2 ≤ k ∧ k ≤ 101 ∧ k ∉ [2, 66, 80, 81, 82, 85, 89, 98] := by
  constructor
  · rintro ⟨heads, relations, words, t, g, hb, hrun⟩
    rw [run_label (parent_root_of_build hb) (by simp [Tagging.fresh, size])] at hrun
    simp only [EStateM.Result.ok.injEq] at hrun
    exact firstFit_mem hrun.1
  · intro hk
    have hmem : k ∈ samples.map Prod.fst := by
      rw [samples_positions]
      simp only [List.mem_filter, List.mem_range', decide_eq_true_eq]
      exact ⟨⟨k - 2, by omega, by omega⟩, hk.2.2⟩
    obtain ⟨⟨k', heads, relations, words⟩, hs, rfl⟩ := List.mem_map.mp hmem
    obtain ⟨t₀, hb₀, hfit⟩ := exists_build_of_endsAt (List.all_eq_true.mp samples_endsAt _ hs)
    -- the sample is built with one detokenizer; with any other only the sentence differs, which
    -- labelling never reads
    let t : Tree := { t₀ with sentence := untokenize words }
    have hb : build untokenize heads relations words = .ok t := by
      rw [build_eq_map_sentence (String.intercalate " "), hb₀]
      rfl
    have hre : Reworded t₀ t := ⟨rfl, rfl, fun _ _ => rfl⟩
    refine ⟨heads, relations, words, t, ⟨t₀.labelTags, t₀.firstFit.isSome⟩, hb, ?_⟩
    rw [hre.label_eq, hre.size_eq,
      run_label (parent_root_of_build hb₀) (by simp [Tagging.fresh, size]), hfit]

-- The sentence has the shape pattern 2 asks for but for the `prep` child of the root, which one
-- path forbids and another needs: no final pattern fits it.
theorem label_unmatched_sentence :
    ∃ t g, build (String.intercalate " ") [2, 0, 2, 2, 4]
        [some "nsubjpass", some "root", some "advcl", some "prep", some "advmod"]
        ["data", "stored", "fails", "in", "there"] = .ok t ∧
      t.label.run (Tagging.fresh t.size) = .ok none g := by
  have hfit : (build (String.intercalate " ") [2, 0, 2, 2, 4]
      [some "nsubjpass", some "root", some "advcl", some "prep", some "advmod"]
      ["data", "stored", "fails", "in", "there"]).toOption.map firstFit = some none := by
    decide
  cases hb : build (String.intercalate " ") [2, 0, 2, 2, 4]
      [some "nsubjpass", some "root", some "advcl", some "prep", some "advmod"]
      ["data", "stored", "fails", "in", "there"] with
  | ok t =>
    have hnone : t.firstFit = none := by simpa [hb, Except.toOption] using hfit
    refine ⟨t, ⟨t.labelTags, t.firstFit.isSome⟩, rfl, ?_⟩
    rw [run_label (parent_root_of_build hb) (by simp [Tagging.fresh, size]), hnone]
  | error e => simp [hb, Except.toOption] at hfit

end Tree

end DepTagger
