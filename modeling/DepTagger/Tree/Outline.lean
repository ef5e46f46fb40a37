import DepTagger.Fault
import DepTagger.Tree.Basic

namespace DepTagger

-- A word handed to a node directly may be a value of another kind, known by the name of its kind.
inductive Word where
  | text (s : String)
  | other (kind : String)
  deriving DecidableEq, Repr

namespace Node

-- The relation is looked at before the word.
def lineOf (relation : Option String) (word : Word) (index : Int) : Except Fault String :=
  match relation, word with
  | none, _ => .error .unlabelled
  | some _, .other kind => .error (.notText kind)
  | some r, .text w => .ok (r ++ ": '" ++ w ++ "' [" ++ toString index ++ "]")

end Node

namespace Tree

variable (t : Tree)

def line (i : Nat) : Except Fault String :=
  match t.nodes[i]? with
  | some n => Node.lineOf n.relation (.text n.word) i
  | none => .error .outOfRange

-- Six spaces for each level above zero: a level below one has no indent.
def indent (depth : Int) : String := String.ofList (List.replicate (6 * depth.toNat) ' ')

def outlineWith : Nat → Int → Nat → Except Fault String
  | 0, _, _ => .error (.endless .outline)
  | fuel + 1, depth, i =>
    (t.children i).foldlM (fun acc c => do
      let l ← t.line c
      let below ← outlineWith fuel (depth + 1) c
      pure (acc ++ indent depth ++ "|---> " ++ l ++ "\n" ++ below)) ""

-- The outline is given as many levels as a spread (see `tag`).
def outline (depth : Int) (i : Nat) : Except Fault String := t.outlineWith (t.size + 1) depth i

def text : Except Fault String := do
  let l ← t.line t.root
  let o ← t.outline 0 t.root
  pure (t.sentence ++ "\n" ++ l ++ "\n" ++ o)

end Tree

end DepTagger
