import DepTagger.Pattern.Select
import DepTagger.Tagging

namespace DepTagger

namespace Tree

variable (t : Tree)

def tagPlace (c : Clause) : Place → Edit Unit
  | some i => t.tag c.entity c.only i
  | none => throw (.hole .tag)

def applyClauses (saved : List String) : List Clause → Edit Bool
  | [] => pure true
  | c :: cs => do
    let steps ← Edit.lift c.steps
    let places ← Edit.lift (t.select steps)
    if places.isEmpty then
      modify fun g => { g with tags := saved }
      pure false
    else
      places.forM (t.tagPlace c)
      applyClauses saved cs

def apply (p : Pattern) : Edit (Bool × List String) := do
  let saved := (← get).tags
  if ← t.applyClauses saved p.clauses then
    if p.final then modify fun g => { g with applied := true }
    pure (p.final, (← get).tags)
  else pure (false, [])

end Tree

end DepTagger
