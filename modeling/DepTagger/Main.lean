import DepTagger.Invocation.Labeller

open DepTagger.Invocation in
def main (argv : List String) : IO UInt32 := do
  let e := run argv
  IO.print e.out
  IO.eprint e.err
  pure e.code.toUInt32
