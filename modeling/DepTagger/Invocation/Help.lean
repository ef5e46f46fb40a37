import DepTagger.Invocation.Basic

namespace DepTagger

namespace Invocation

structure Layout where
  width : Nat
  helpColumn : Nat

-- Texts are filled to a screen of 80 columns less a margin of two.
def Layout.standard : Layout := ⟨78, 24⟩

def fillWords (width leadFirst leadRest : Nat) (words : List String) : List (List String) :=
  go leadFirst [] words
where
  go (used : Nat) (line : List String) : List String → List (List String)
    | [] => if line.isEmpty then [] else [line]
    | w :: ws =>
      if line.isEmpty then go (used + w.length) [w] ws
      else if used + 1 + w.length > width then line :: go (leadRest + w.length) [w] ws
      else go (used + 1 + w.length) (line ++ [w]) ws

def spaces (n : Nat) : String := String.ofList (List.replicate n ' ')

namespace Opt

def usageParts (o : Opt) : List String :=
  let flag := o.flags.headD ""
  let body := match o.kind with
    | .help => [flag]
    | .value => [flag, o.metavar]
  if o.required then body else ["[" ++ " ".intercalate body ++ "]"]

def invocation (o : Opt) : String :=
  match o.kind with
  | .help => ", ".intercalate o.flags
  | .value => ", ".intercalate (o.flags.map (· ++ " " ++ o.metavar))

end Opt

def words (s : String) : List String :=
  ((s.toList.splitOn ' ').flatMap fun w => w.splitOn '\t' |>.flatMap (·.splitOn '\n')).filterMap
    fun w => if w.isEmpty then none else some (String.ofList w)

def optionLines (l : Layout) (column : Nat) (o : Opt) : List String :=
  let header := o.invocation
  let helpLines := (fillWords (l.width - column) 0 0 (words o.help)).map (" ".intercalate ·)
  if header.length + 4 ≤ column then
    match helpLines with
    | [] => ["  " ++ header ++ "\n"]
    | first :: rest =>
      ("  " ++ header ++ spaces (column - 4 - header.length) ++ "  " ++ first ++ "\n") ::
        rest.map (spaces column ++ · ++ "\n")
  else ("  " ++ header ++ "\n") :: helpLines.map (spaces column ++ · ++ "\n")

namespace Parser

variable (p : Parser) (l : Layout)

def usage : String :=
  let prefixText := "usage: "
  let parts := p.opts.flatMap Opt.usageParts
  let oneLine := " ".intercalate (p.prog :: parts)
  let body :=
    if prefixText.length + oneLine.length ≤ l.width then oneLine
    else if 4 * (prefixText.length + p.prog.length) ≤ 3 * l.width then
      let indent := prefixText.length + p.prog.length + 1
      let lines := fillWords l.width prefixText.length indent (p.prog :: parts)
      match lines.map (" ".intercalate ·) with
      | [] => p.prog
      | first :: rest => "\n".intercalate (first :: rest.map (spaces indent ++ ·))
    else
      let indent := prefixText.length
      let lines := fillWords l.width indent indent parts
      "\n".intercalate (p.prog :: lines.map (spaces indent ++ " ".intercalate ·))
  prefixText ++ body ++ "\n"

def helpText : String :=
  let widest := (p.opts.map fun o => o.invocation.length + 2).foldl max 0
  let column := min (widest + 2) l.helpColumn
  p.usage l ++ "\noptions:\n" ++ String.join (p.opts.flatMap (optionLines l column))

end Parser

end Invocation

end DepTagger
