import DepTagger.Text.Blank
import DepTagger.Text.WordChar

namespace DepTagger

namespace Text

inductive CharClass where
  | blank
  | solid
  | oneOf (cs : List Char)
  | noneOf (cs : List Char)
  deriving DecidableEq, Repr

namespace CharClass

def has : CharClass → Char → Bool
  | blank, c => isBlank c
  | solid, c => !isBlank c
  | oneOf cs, c => cs.contains c
  | noneOf cs, c => !cs.contains c

end CharClass

-- Letters that stand for `p` when case is ignored also include the dotted and dotless i, the long s
-- and the Kelvin sign.
def foldsTo (c p : Char) : Bool :=
  c == p || (p.isLower && (c.toLower == p ||
    (p == 'i' && (c == '\u0130' || c == '\u0131')) ||
    (p == 's' && c == '\u017F') || (p == 'k' && c == '\u212A')))

def stripPrefix (eq : Char → Char → Bool) : List Char → List Char → Option (List Char)
  | [], cs => some cs
  | _ :: _, [] => none
  | p :: w, c :: cs => if eq c p then stripPrefix eq w cs else none

inductive Piece where
  | text (w : List Char)
  | folded (w : List Char)
  | choice (ws : List (List Char))
  | one (cls : CharClass)
  -- as many characters of the class as the rest allows
  | many (cls : CharClass)
  -- a word edge: exactly one of the characters around the position is a word character
  | edge
  | blankAhead
  -- the end of the text, or a last newline ahead
  | finish
  deriving DecidableEq, Repr

namespace Piece

def ways (prev : Option Char) (cs : List Char) : Piece → List (List Char × List Char)
  | text w => (stripPrefix (· == ·) w cs).toList.map (w, ·)
  | folded w => (stripPrefix foldsTo w cs).toList.map (cs.take w.length, ·)
  | choice ws => ws.filterMap fun w => (stripPrefix (· == ·) w cs).map (w, ·)
  | one cls =>
    match cs with
    | c :: rest => if cls.has c then [([c], rest)] else []
    | [] => []
  | many cls =>
    let run := cs.takeWhile cls.has
    (List.range (run.length + 1)).reverse.map fun k => (run.take k, cs.drop k)
  | edge =>
    let before := (prev.map isWordChar).getD false
    let after := (cs.head?.map isWordChar).getD false
    if before != after then [([], cs)] else []
  | blankAhead => if (cs.head?.map isBlank).getD false then [([], cs)] else []
  | finish => if cs = [] ∨ cs = ['\n'] then [([], cs)] else []

end Piece

structure Slot where
  piece : Piece
  kept : Bool
  deriving DecidableEq, Repr

namespace Slot

def keep (p : Piece) : Slot := ⟨p, true⟩

def pass (p : Piece) : Slot := ⟨p, false⟩

end Slot

inductive Part where
  | text (w : List Char)
  | group (k : Nat)
  deriving DecidableEq, Repr

structure Rule where
  pattern : List Slot
  template : List Part
  deriving Repr

def matchSlots : List Slot → Option Char → List Char → Option (List (List Char) × List Char)
  | [], _, cs => some ([], cs)
  | s :: ss, prev, cs =>
    (s.piece.ways prev cs).findSome? fun (taken, rest) =>
      (matchSlots ss (taken.getLast?.or prev) rest).map fun (groups, left) =>
        (if s.kept then taken :: groups else groups, left)

def fill (groups : List (List Char)) : List Part → List Char
  | [] => []
  | .text w :: ps => w ++ fill groups ps
  | .group k :: ps => groups.getD (k - 1) [] ++ fill groups ps

namespace Rule

-- A match that takes no characters leaves the text as it is.
def apply (r : Rule) (cs : List Char) : List Char := go none cs
where
  go (prev : Option Char) : List Char → List Char
    | [] => []
    | c :: cs =>
      match matchSlots r.pattern prev (c :: cs) with
      | some (groups, rest) =>
        if _h : rest.length < cs.length + 1 then
          fill groups r.template ++
            go (((c :: cs).take (cs.length + 1 - rest.length)).getLast?.or prev) rest
        else c :: go (some c) cs
      | none => c :: go (some c) cs
  termination_by cs => cs.length

end Rule

end Text

end DepTagger
