import DepTagger.Pattern.Basic
import DepTagger.Tree.Basic
import DepTagger.Text.Case

namespace DepTagger

-- A node, or the hole above the root.
abbrev Place := Option Nat

namespace Tree

variable (t : Tree)

def stepFrom : Step → Place → Except Fault (List Place)
  | .down rel, some i => .ok ((t.group i rel).map some)
  | .downTo rel w, some i =>
    .ok (((t.group i rel).filter fun j => Text.lower (t.word j) == Text.lower w).map some)
  | .lacking rel, some i => .ok (if t.hasGroup i rel then [] else [some i])
  | .up, some i => .ok [t.parent i]
  | .up, none => .error (.hole .parent)
  | _, none => .error (.hole .groups)

def advance (s : Step) (ps : List Place) : Except Fault (List Place) := do
  let qs ← ps.mapM (t.stepFrom s)
  pure qs.flatten

def reach : List Step → List Place → Except Fault (List Place)
  | [], ps => .ok ps
  | s :: ss, ps => do
    let qs ← t.advance s ps
    if qs.isEmpty then .ok [] else reach ss qs

def select (steps : List Step) : Except Fault (List Place) := t.reach steps [some t.root]

end Tree

end DepTagger
