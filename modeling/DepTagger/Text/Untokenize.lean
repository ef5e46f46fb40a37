import DepTagger.Text.Rewrite

namespace DepTagger

namespace Text

open Slot

namespace Untokenize

def rejoin (first second : String) (close : Piece) : Rule :=
  ⟨[pass .edge, keep (.folded first.toList), pass (.one .blank), keep (.folded second.toList),
    pass close], [.group 1, .group 2]⟩

def rejoinIt (verb : String) : Rule :=
  ⟨[pass (.text [' ']), keep (.folded "'t".toList), pass (.one .blank), keep (.folded verb.toList),
    pass .edge], [.group 1, .group 2]⟩

def contractions : List Rule :=
  [rejoinIt "is", rejoinIt "was",
   rejoin "can" "not" .edge, rejoin "d" "'ye" .edge, rejoin "gim" "me" .edge,
   rejoin "gon" "na" .edge, rejoin "got" "ta" .edge, rejoin "lem" "me" .edge,
   rejoin "more" "'n" .edge, rejoin "wan" "na" .blankAhead]

def clitic (forms : List String) : Rule :=
  ⟨[keep (.one (.noneOf ['\'', ' '])), pass (.one .blank), keep (.choice (forms.map String.toList)),
    pass (.text [' '])], [.group 1, .group 2, .text [' ']]⟩

def endingQuotes : List Rule :=
  [clitic ["'ll", "'LL", "'re", "'RE", "'ve", "'VE", "n't", "N'T"],
   clitic ["'s", "'S", "'m", "'M", "'d", "'D", "'"],
   ⟨[keep (.one .solid), pass (.one .blank), keep (.text "''".toList)], [.group 1, .group 2]⟩,
   ⟨[keep (.text "''".toList), pass (.one .blank), keep (.one (.oneOf ".,:)]>\x7d;%".toList))],
     [.group 1, .group 2]⟩,
   ⟨[pass (.text "''".toList)], [.text ['"']]⟩]

def doubleDash : Rule := ⟨[pass (.text " -- ".toList)], [.text "--".toList]⟩

def brackets : List Rule :=
  [⟨[keep (.one (.oneOf "[(\x7b<".toList)), pass (.one .blank)], [.group 1]⟩,
   ⟨[pass (.one .blank), keep (.one (.oneOf "])\x7d>".toList))], [.group 1]⟩,
   ⟨[keep (.one (.oneOf "])\x7d>".toList)), pass (.one .blank), keep (.one (.oneOf ":;,.".toList))],
     [.group 1, .group 2]⟩]

def punctuation : List Rule :=
  [⟨[keep (.one (.noneOf ['\''])), pass (.one .blank), pass (.text ['\'']), pass (.one .blank)],
     [.group 1, .text "' ".toList]⟩,
   ⟨[pass (.one .blank), keep (.one (.oneOf ['?', '!']))], [.group 1]⟩,
   ⟨[keep (.one (.noneOf ['.'])), pass (.one .blank), keep (.text ['.']),
     keep (.many (.oneOf "])\x7d>\"'".toList)), pass (.many .blank), pass .finish],
     [.group 1, .group 2, .group 3]⟩,
   ⟨[keep (.one (.oneOf ['#', '$'])), pass (.one .blank)], [.group 1]⟩,
   ⟨[pass (.one .blank), keep (.one (.oneOf [';', '%']))], [.group 1]⟩,
   ⟨[pass (.one .blank), pass (.text "...".toList), pass (.one .blank)], [.text "...".toList]⟩,
   ⟨[pass (.one .blank), keep (.one (.oneOf [':', ',']))], [.group 1]⟩]

def startingQuotes : List Rule :=
  [⟨[keep (.one (.oneOf " ([\x7b<".toList)), pass (.one .blank), pass (.text "``".toList)],
     [.group 1, .text "``".toList]⟩,
   ⟨[keep (.text "``".toList), pass (.one .blank)], [.group 1]⟩,
   ⟨[pass (.text "``".toList)], [.text ['"']]⟩]

def applyAll (rs : List Rule) (cs : List Char) : List Char := rs.foldl (fun cs r => r.apply cs) cs

end Untokenize

-- The detokenizer the labelling tool runs with: the rules that undo Penn Treebank tokenization.
-- `Tree.build` takes the detokenizer as a parameter, and no theorem reads what it returns.
open Untokenize in
def untokenize (tokens : List String) : String :=
  let joined := (" ".intercalate tokens).toList
  let inner := trim (applyAll endingQuotes (applyAll contractions joined))
  let outer := applyAll startingQuotes (applyAll punctuation (applyAll brackets (doubleDash.apply inner)))
  String.ofList (trim outer)

end Text

end DepTagger
