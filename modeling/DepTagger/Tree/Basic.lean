namespace DepTagger

-- Pairs gathered by key: an entry per key, in the order of the key's first pair.
def gather {κ α : Type} [DecidableEq κ] (ps : List (κ × α)) : List (κ × List α) :=
  ps.foldl (fun gs p => put p.1 p.2 gs) []
where
  put (k : κ) (a : α) : List (κ × List α) → List (κ × List α)
    | [] => [(k, [a])]
    | (k', as) :: gs => if k' = k then (k', as ++ [a]) :: gs else (k', as) :: put k a gs

example : gather [(1, 'a'), (2, 'b'), (1, 'c')] = [(1, ['a', 'c']), (2, ['b'])] := by decide

structure Node where
  word : String
  relation : Option String
  parent : Option Nat
  deriving DecidableEq, Repr

namespace Node

def marksRoot (relation : Option String) : Bool := relation == some "root"

def isRoot (n : Node) : Bool := marksRoot n.relation

end Node

structure Tree where
  sentence : String
  nodes : List Node
  root : Nat
  root_lt : root < nodes.length
  parent_lt : ∀ n ∈ nodes, ∀ p ∈ n.parent, p < nodes.length

namespace Tree

variable (t : Tree)

def size : Nat := t.nodes.length

def parent (i : Nat) : Option Nat := t.nodes[i]? >>= Node.parent

def word (i : Nat) : String := (t.nodes[i]?.map Node.word).getD ""

def kids (i : Nat) : List (Option String × Nat) :=
  t.nodes.zipIdx.filterMap fun (n, j) => if n.parent = some i then some (n.relation, j) else none

theorem mem_kids {i j : Nat} {r : Option String} :
    (r, j) ∈ t.kids i ↔ ∃ n, t.nodes[j]? = some n ∧ n.parent = some i ∧ n.relation = r := by
  simp only [kids, List.mem_filterMap, Prod.exists]
  constructor
  · rintro ⟨n, k, hmem, hif⟩
    split at hif
    · simp only [Option.some.injEq, Prod.mk.injEq] at hif
      obtain ⟨rfl, rfl⟩ := hif
      rw [List.mem_zipIdx_iff_getElem?] at hmem
      exact ⟨n, by simpa using hmem, by assumption, rfl⟩
    · simp at hif
  · rintro ⟨n, hn, hp, rfl⟩
    refine ⟨n, j, ?_, ?_⟩
    · rw [List.mem_zipIdx_iff_getElem?]
      simpa using hn
    · simp [hp]

def groups (i : Nat) : List (Option String × List Nat) := gather (t.kids i)

-- The children of `i` in the order in which walks visit them: group after group.
def children (i : Nat) : List Nat := (t.groups i).flatMap Prod.snd

def group (i : Nat) (rel : String) : List Nat := ((t.groups i).lookup (some rel)).getD []

def hasGroup (i : Nat) (rel : String) : Bool := (t.kids i).any (·.1 == some rel)

end Tree

end DepTagger
