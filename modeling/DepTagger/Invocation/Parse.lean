import DepTagger.Invocation.Basic
import DepTagger.Text.Digit
import DepTagger.Text.Quoted

-- Command lines are read as by the standard option parser of release 3.11.0. Later releases
-- (3.11.10, 3.12.3) differ in two places: they keep `--` as the value given to an option, and a
-- short help flag with a letter attached that is no flag leaves that text over and prints the help.
namespace DepTagger

namespace Invocation

inductive Reading where
  | value
  | marker
  | option (k : Nat) (flag : String) (attached : Option String)
  | unknown
  deriving DecidableEq, Repr

def splitFirst (sep : Char) : List Char → Option (List Char × List Char)
  | [] => none
  | c :: cs =>
    if c = sep then some ([], cs)
    else (splitFirst sep cs).map fun (before, after) => (c :: before, after)

def allDigits (cs : List Char) : Bool := !cs.isEmpty && cs.all Text.isDigit

-- A minus and then digits, or digits, a point and digits, with at most a newline after them: such
-- a word is a value, not an option.
def looksNegative (w : String) : Bool :=
  match w.toList with
  | '-' :: rest =>
    let body := if rest.getLast? = some '\n' then rest.dropLast else rest
    allDigits body ||
      match splitFirst '.' body with
      | some (whole, frac) => whole.all Text.isDigit && allDigits frac
      | none => false
  | _ => false

namespace Parser

variable (p : Parser)

-- A word that names no flag exactly may stand for an option: a long word by the flags it begins,
-- the text after `=` attached; a short word by the short flag of its first two characters, the rest
-- attached, and by the flags it begins.
def candidates (w : String) : List (Nat × String × Option String) :=
  match w.toList with
  | '-' :: '-' :: _ =>
    let (pre, attached) := match splitFirst '=' w.toList with
      | some (before, after) => (String.ofList before, some (String.ofList after))
      | none => (w, none)
    p.flags.filterMap fun (f, k) => if f.startsWith pre then some (k, f, attached) else none
  | _ =>
    let short := String.ofList (w.toList.take 2)
    let rest := String.ofList (w.toList.drop 2)
    p.flags.filterMap fun (f, k) =>
      if f = short then some (k, f, some rest)
      else if f.startsWith w then some (k, f, none)
      else none

def readWord (w : String) : Except Stop Reading :=
  match w.toList with
  | [] => .ok .value
  | c :: rest =>
    if c ≠ '-' then .ok .value
    else match p.lookupFlag w with
    | some k => .ok (.option k w none)
    | none =>
      if rest = [] then .ok .value
      else
        let split := (splitFirst '=' w.toList).bind fun (before, after) =>
          (p.lookupFlag (String.ofList before)).map fun k =>
            Reading.option k (String.ofList before) (some (String.ofList after))
        match split with
        | some r => .ok r
        | none =>
          match p.candidates w with
          | [(k, f, attached)] => .ok (.option k f attached)
          | [] => .ok (if looksNegative w || w.toList.contains ' ' then .value else .unknown)
          | many => .error (.usage ("ambiguous option: " ++ w ++ " could match " ++
              ", ".intercalate (many.map fun (_, f, _) => f)))

def classify : List String → Except Stop (List Reading)
  | [] => .ok []
  | w :: ws =>
    if w = "--" then .ok (.marker :: ws.map fun _ => .value)
    else do
      let r ← p.readWord w
      let rs ← classify ws
      pure (r :: rs)

def ignored (k : Nat) (text : String) : Stop :=
  .usage ("argument " ++ p.nameOf k ++ ": ignored explicit argument " ++ Text.quote text)

def expected (k : Nat) : Stop := .usage ("argument " ++ p.nameOf k ++ ": expected one argument")

structure Asked where
  acts : List (Nat × Option String)
  tookNext : Bool

namespace Asked

def after (k : Nat) (a : Asked) : Asked := { a with acts := (k, none) :: a.acts }

end Asked

def isShortFlag (flag : String) : Bool :=
  match flag.toList with
  | _ :: c :: _ => c ≠ '-'
  | _ => false

def bare (next : Option (String × Reading)) (k : Nat) : Except Stop Asked :=
  match p.kindOf k with
  | .help => .ok ⟨[(k, none)], false⟩
  | .value =>
    match next with
    | some (w, .value) => .ok ⟨[(k, some w)], true⟩
    | _ => .error (p.expected k)

-- The help read by a short flag reads attached text as more short flags, and refuses a letter that
-- is no flag, naming the text still unread.
def attachedTo (next : Option (String × Reading)) (k : Nat) (short : Bool) :
    List Char → Except Stop Asked
  | [] =>
    match p.kindOf k with
    | .value => .ok ⟨[(k, some "")], false⟩
    | .help => .error (p.ignored k "")
  | d :: more =>
    match p.kindOf k with
    | .value => .ok ⟨[(k, some (String.ofList (d :: more)))], false⟩
    | .help =>
      if short then
        match p.lookupFlag (String.ofList ['-', d]) with
        | some k' =>
          match more with
          | [] => (p.bare next k').map (Asked.after k)
          | m :: ms => (attachedTo next k' true (m :: ms)).map (Asked.after k)
        | none => .error (p.ignored k (String.ofList (d :: more)))
      else .error (p.ignored k (String.ofList (d :: more)))

def actions (next : Option (String × Reading)) (k : Nat) (flag : String) :
    Option String → Except Stop Asked
  | none => p.bare next k
  | some t => p.attachedTo next k (isShortFlag flag) t.toList

def take (given : List (Nat × Value)) : List (Nat × Option String) → Except Stop (List (Nat × Value))
  | [] => .ok given
  | (_, none) :: _ => .error .help
  | (k, some w) :: acts => take (given ++ [(k, Value.ofGiven w)]) acts

def consume : List (String × Reading) → List (Nat × Value) → List String →
    Except Stop (List (Nat × Value) × List String)
  | [], given, extras => .ok (given, extras)
  | (_, .option k flag attached) :: rest, given, extras => do
    let asked ← p.actions rest.head? k flag attached
    let given ← take given asked.acts
    if asked.tookNext then
      match rest with
      | _ :: rest' => consume rest' given extras
      | [] => consume [] given extras
    else consume rest given extras
  | (w, _) :: rest, given, extras => consume rest given (extras ++ [w])

def lastValues (given : List (Nat × Value)) : List (Option Value) :=
  (List.range p.opts.length).map fun k => (given.reverse.find? (·.1 == k)).map (·.2)

def parse (argv : List String) : Except Stop (List (Option Value)) := do
  let readings ← p.classify argv
  let (given, extras) ← p.consume (argv.zip readings) [] []
  let missing := (p.opts.zipIdx.filter fun (o, k) => o.required && !given.any (·.1 == k)).map
    fun (o, _) => o.name
  if !missing.isEmpty then
    throw (.usage ("the following arguments are required: " ++ ", ".intercalate missing))
  if !extras.isEmpty then
    throw (.usage ("unrecognized arguments: " ++ " ".intercalate extras))
  pure (p.lastValues given)

end Parser

end Invocation

end DepTagger
