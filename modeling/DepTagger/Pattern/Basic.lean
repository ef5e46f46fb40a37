import DepTagger.Fault

namespace DepTagger

inductive Step where
  | down (rel : String)
  | downTo (rel word : String)
  | lacking (rel : String)
  | up
  deriving DecidableEq, Repr

namespace Step

-- In an entry with more signs `=`, what follows the second is not looked at.
def ofChars : List Char → Step
  | '!' :: rel => .lacking (String.ofList rel)
  | cs =>
    if cs = ['.', '.'] then .up
    else match cs.splitOn '=' with
      | rel :: word :: _ => .downTo (String.ofList rel) (String.ofList word)
      | _ => .down (String.ofList cs)

def ofString (s : String) : Step := ofChars s.toList

end Step

-- What follows a sign `=` after `root` is not looked at: the path starts at the root whatever word
-- it names.
def startsAtRoot (entry : String) : Bool := (entry.toList.splitOn '=').head? == some "root".toList

structure Clause where
  entity : String
  path : List String
  only : Bool
  deriving DecidableEq, Repr

structure Pattern where
  clauses : List Clause
  final : Bool
  deriving DecidableEq, Repr

namespace Clause

def steps (c : Clause) : Except Fault (List Step) :=
  match c.path with
  | [] => .error .outOfRange
  | first :: rest => if startsAtRoot first then .ok (rest.map Step.ofString) else .error (.offRoot first)

end Clause

end DepTagger
