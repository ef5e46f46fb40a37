namespace DepTagger

-- The place above the root holds no node; what a step or a tag asked of it.
inductive HoleUse where
  | groups
  | parent
  | tag
  deriving DecidableEq, Repr

inductive Walk where
  | spread
  | outline
  deriving DecidableEq, Repr

inductive Fault where
  | noRoot
  | outOfRange
  | tooWide
  | offRoot (first : String)
  | hole (use : HoleUse)
  | unlabelled
  | notText (kind : String)
  -- a walk below a node came back to it, and would go on for ever
  | endless (walk : Walk)
  deriving DecidableEq, Repr

namespace HoleUse

def member : HoleUse → String
  | groups => "children"
  | parent => "parent"
  | tag => "set_pattern_label"

end HoleUse

namespace Fault

def message : Fault → String
  | noRoot => "0 is not in list"
  | outOfRange => "list index out of range"
  | tooWide => "cannot fit 'int' into an index-sized integer"
  | offRoot first => "Pattern must start from the root! Your pattern starts with " ++ first
  | hole use => "'NoneType' object has no attribute '" ++ use.member ++ "'"
  | unlabelled => "unsupported operand type(s) for +: 'NoneType' and 'str'"
  | notText kind => "can only concatenate str (not \"" ++ kind ++ "\") to str"
  | endless .spread => "maximum recursion depth exceeded while calling a Python object"
  | endless .outline => "maximum recursion depth exceeded while getting the str of an object"

end Fault

end DepTagger
