import DepTagger.Text.Lowercase
import DepTagger.Text.Cased

namespace DepTagger

namespace Text

-- Whether a capital sigma between `before` (nearest first) and `after` takes the final form.
def finalSigma (before after : List Char) : Bool :=
  (match before.dropWhile isCaseIgnorable with
   | c :: _ => isCased c
   | [] => false) &&
  (match after.dropWhile isCaseIgnorable with
   | c :: _ => !isCased c
   | [] => true)

def lower (s : String) : String := String.ofList (go [] s.toList)
where
  go (before : List Char) : List Char → List Char
    | [] => []
    | c :: cs =>
      (if c = 'Σ' then [if finalSigma before cs then 'ς' else 'σ'] else lowerChar c) ++
        go (c :: before) cs

end Text

end DepTagger
