import DepTagger.Pattern.Apply
import DepTagger.Pattern.Table

namespace DepTagger

namespace Tree

variable (t : Tree)

def labelFrom : Nat → List Pattern → Edit (Option Nat)
  | _, [] => pure none
  | k, p :: ps => do
    if (← get).applied then pure none
    else
      let (ok, _) ← t.apply p
      if ok then pure (some k) else labelFrom (k + 1) ps

def label : Edit (Option Nat) := do
  modify Tagging.clean
  t.labelFrom 0 Pattern.builtin

end Tree

structure Labelled where
  tree : Tree
  tagging : Tagging

namespace Labelled

def tryPattern (x : Labelled) (p : Pattern) : Except Fault (Labelled × Bool) :=
  if x.tagging.applied then .ok (x, false)
  else match (x.tree.apply p).run x.tagging with
    | .ok (ok, _) g => .ok (⟨x.tree, g⟩, ok)
    | .error f _ => .error f

end Labelled

namespace Corpus

def tryOnAll (p : Pattern) : List Labelled → Nat → Except Fault (List Labelled × Nat)
  | [], count => .ok ([], count)
  | x :: xs, count => do
    let (y, ok) ← x.tryPattern p
    let (ys, count) ← tryOnAll p xs (if ok then count + 1 else count)
    pure (y :: ys, count)

def tryEach : List Pattern → List Labelled → Nat → Except Fault (List Labelled × Nat)
  | [], xs, count => .ok (xs, count)
  | p :: ps, xs, count => do
    let (ys, count) ← tryOnAll p xs count
    tryEach ps ys count

def label (trees : List Tree) : Except Fault (List Labelled × Nat) :=
  tryEach Pattern.builtin (trees.map fun t => ⟨t, Tagging.fresh t.size⟩) 0

end Corpus

end DepTagger
