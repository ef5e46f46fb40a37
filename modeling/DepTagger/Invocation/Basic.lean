namespace DepTagger

namespace Invocation

inductive Kind where
  | help
  | value
  deriving DecidableEq, Repr

structure Opt where
  flags : List String
  kind : Kind
  required : Bool
  metavar : String
  help : String
  deriving DecidableEq, Repr

namespace Opt

def name (o : Opt) : String := "/".intercalate o.flags

end Opt

-- A text given to an option is taken out of the option's texts when it is the end-of-options word
-- `--`, which leaves an empty list.
inductive Value where
  | text (s : String)
  | empty
  deriving DecidableEq, Repr

namespace Value

def ofGiven (w : String) : Value := if w = "--" then .empty else .text w

end Value

inductive Stop where
  | help
  | usage (message : String)
  deriving DecidableEq, Repr

structure Parser where
  prog : String
  opts : List Opt
  deriving DecidableEq, Repr

namespace Parser

def flags (p : Parser) : List (String × Nat) :=
  p.opts.zipIdx.flatMap fun (o, k) => o.flags.map (·, k)

def lookupFlag (p : Parser) (flag : String) : Option Nat :=
  (p.flags.find? (·.1 == flag)).map (·.2)

def kindOf (p : Parser) (k : Nat) : Kind := ((p.opts[k]?).map Opt.kind).getD .value

def nameOf (p : Parser) (k : Nat) : String := ((p.opts[k]?).map Opt.name).getD ""

end Parser

end Invocation

end DepTagger
