import DepTagger.Invocation.Parse
import DepTagger.Invocation.Help

namespace DepTagger

namespace Invocation

def labeller : Parser where
  prog := "create_labels.py"
  opts := [
    ⟨["-h", "--help"], .help, false, "", "show this help message and exit"⟩,
    ⟨["--input-file", "-i"], .value, true, "INPUT_FILE",
      "Path to the input file. Must be provided in .txt. Each line should be exactly one sentence."⟩,
    ⟨["--output-dir", "-o"], .value, true, "OUTPUT_DIR", "Path of output directory"⟩,
    ⟨["--human_labeling", "-l"], .value, false, "HUMAN_LABELING",
      "Path to the human labeling file for Cohen's kappa calculation. Must be provided as .csv " ++
      "with 'ID' and 'labeling' columns. Each line should correspond to one sentence. '1' stands " ++
      "for ent1,'2' for ent2, 'c' for cond and 'r' for rel. Each label is separated by spaces."⟩]

structure Args where
  inputFile : Value
  outputDir : Value
  humanLabeling : Option Value
  deriving DecidableEq, Repr

structure Exit where
  code : Nat
  out : String
  err : String
  deriving DecidableEq, Repr

namespace Parser

variable (p : Parser)

def exitOf : Stop → Exit
  | .help => ⟨0, p.helpText Layout.standard, ""⟩
  | .usage message => ⟨2, "", p.usage Layout.standard ++ p.prog ++ ": error: " ++ message ++ "\n"⟩

end Parser

def readArgs (argv : List String) : Except Exit Args :=
  match labeller.parse argv with
  | .error stop => .error (labeller.exitOf stop)
  | .ok [_, some input, some output, human] => .ok ⟨input, output, human⟩
  | .ok _ => .error (labeller.exitOf (.usage "the following arguments are required"))

-- With valid arguments the tool goes on to label the input file, which needs a dependency parser
-- outside this library: the run is taken to end there with code 0 and nothing printed.
def run (argv : List String) : Exit :=
  match readArgs argv with
  | .error e => e
  | .ok _ => ⟨0, "", ""⟩

end Invocation

end DepTagger
