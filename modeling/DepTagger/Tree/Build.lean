import DepTagger.Address
import DepTagger.Tree.Basic

namespace DepTagger

namespace Tree

-- Head 0 gives no parent; any other head, less one, addresses a word, counting from the back when
-- negative.
def parentAt (n : Nat) (heads : List Int) (i : Nat) : Except Fault (Option (Fin n)) :=
  match heads[i]? with
  | none => .error .outOfRange
  | some h => if h = 0 then .ok none else some <$> Address.resolve n (h - 1)

def nodesOf (words : List String) (relations : List (Option String))
    (h : words.length ≤ relations.length) (parents : List (Option (Fin words.length))) : List Node :=
  List.ofFn fun i : Fin words.length =>
    ⟨words[i], relations.get ⟨i.val, by have := i.isLt; omega⟩, parents[i.val]?.join.map Fin.val⟩

theorem length_nodesOf {words relations h parents} :
    (nodesOf words relations h parents).length = words.length := List.length_ofFn

theorem parent_lt_of_mem_nodesOf {words relations h parents} :
    ∀ n ∈ nodesOf words relations h parents, ∀ p ∈ n.parent,
      p < (nodesOf words relations h parents).length := by
  intro n hn p hp
  obtain ⟨i, rfl⟩ := List.mem_ofFn.mp hn
  simp only [Option.mem_def, Option.map_eq_some_iff] at hp
  obtain ⟨a, -, rfl⟩ := hp
  rw [length_nodesOf]
  exact a.isLt

-- The running text of the sentence comes from a detokenizer the caller supplies: it joins the
-- words back into text and never fails, and nothing here reads what it returns.
def build (untokenize : List String → String) (heads : List Int) (relations : List (Option String))
    (words : List String) : Except Fault Tree :=
  let sentence := untokenize words
  match heads.idxOf? 0 with
  | none => .error .noRoot
  | some r =>
    if hr : relations.length < words.length then .error .outOfRange
    else if hroot : r < words.length then
      match (List.range words.length).mapM (parentAt words.length heads) with
      | .error e => .error e
      | .ok parents =>
        let nodes := nodesOf words relations (by omega) parents
        .ok ⟨sentence, nodes, r, by rw [length_nodesOf]; exact hroot, parent_lt_of_mem_nodesOf⟩
    else .error .outOfRange

end Tree

end DepTagger
