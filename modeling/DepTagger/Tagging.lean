import DepTagger.Fault
import DepTagger.Tree.Basic

namespace DepTagger

structure Tagging where
  tags : List String
  applied : Bool
  deriving DecidableEq, Repr

namespace Tagging

def outside : String := "O"

def fresh (n : Nat) : Tagging := ⟨List.replicate n outside, false⟩

def clean (g : Tagging) : Tagging := fresh g.tags.length

def setTag (g : Tagging) (i : Nat) (label : String) : Tagging := { g with tags := g.tags.set i label }

variable (g : Tagging) (i : Nat) (label : String)

@[simp] theorem tags_setTag : (g.setTag i label).tags = g.tags.set i label := rfl

@[simp] theorem applied_setTag : (g.setTag i label).applied = g.applied := rfl

theorem length_tags_setTag : (g.setTag i label).tags.length = g.tags.length := by simp

@[simp] theorem tags_clean : g.clean.tags = List.replicate g.tags.length outside := rfl

@[simp] theorem applied_clean : g.clean.applied = false := rfl

theorem clean_clean : g.clean.clean = g.clean := by simp [clean, fresh]

end Tagging

-- An edit that stops with a fault keeps the changes it made until then.
abbrev Edit := EStateM Fault Tagging

namespace Edit

def lift {α : Type} : Except Fault α → Edit α
  | .ok a => pure a
  | .error f => throw f

end Edit

namespace Tree

variable (t : Tree)

def spreadWith (label : String) : Nat → Nat → Edit Unit
  | 0, _ => throw (.endless .spread)
  | fuel + 1, i => do
    modify (·.setTag i label)
    (t.children i).forM (spreadWith label fuel)

-- A walk down from a node that is not its own ancestor meets each node at most once, so it ends
-- within as many levels as there are nodes.
def tag (label : String) (only : Bool) (i : Nat) : Edit Unit :=
  if only then modify (·.setTag i label) else t.spreadWith label (t.size + 1) i

end Tree

end DepTagger
