import DepTagger.Address
import DepTagger.Labelling
import DepTagger.Tree.Outline

namespace DepTagger

inductive Command where
  | apply (p : Pattern)
  | applyBuiltin (k : Int)
  | clean
  | labels
  | setTag (node : Int) (label : String) (only : Bool)
  | print
  | inspect (node : Int) (indent : Int)
  | labelAll
  deriving Repr

inductive Reply where
  | applied (success : Bool) (output : List String)
  | done
  | text (s : String)
  | node (i : Nat) (line outline : String)
  | matched (k : Option Nat)
  deriving Repr

namespace Tree

variable (t : Tree)

def perform : Command → Edit Reply
  | .apply p => do
    let (success, output) ← t.apply p
    pure (.applied success output)
  | .applyBuiltin k => do
    let i ← Edit.lift (Address.resolve Pattern.builtin.length k)
    let (success, output) ← t.apply (Pattern.builtin.get i)
    pure (.applied success output)
  | .clean => do
    modify Tagging.clean
    pure .done
  | .labels => pure .done
  | .setTag k label only => do
    let i ← Edit.lift (Address.resolve t.size k)
    t.tag label only i
    pure .done
  | .print => do
    let s ← Edit.lift t.text
    pure (.text s)
  | .inspect k indent => do
    let i ← Edit.lift (Address.resolve t.size k)
    let l ← Edit.lift (t.line i)
    let o ← Edit.lift (t.outline indent i)
    pure (.node i l o)
  | .labelAll => do
    let m ← t.label
    pure (.matched m)

def runFrom : Tagging → List Command → List (Tagging × Except Fault Reply)
  | _, [] => []
  | g, c :: cs =>
    match (t.perform c).run g with
    | .ok r g' => (g', .ok r) :: runFrom g' cs
    | .error f g' => (g', .error f) :: runFrom g' cs

def session (cs : List Command) : List (Tagging × Except Fault Reply) :=
  t.runFrom (Tagging.fresh t.size) cs

end Tree

end DepTagger
