import DepTagger.Fault
import DepTagger.Address
import DepTagger.Text.Blank
import DepTagger.Text.WordChar
import DepTagger.Text.Rewrite
import DepTagger.Tree.Basic
import DepTagger.Text.Untokenize
import DepTagger.Tree.Build
import DepTagger.Text.Lowercase
import DepTagger.Text.Cased
import DepTagger.Text.Case
import DepTagger.Tree.Outline
import DepTagger.Pattern.Basic
import DepTagger.Pattern.Select
import DepTagger.Tagging
import DepTagger.Pattern.Apply
import DepTagger.Pattern.Table
import DepTagger.Labelling
import DepTagger.Session
import DepTagger.Text.Printable
import DepTagger.Text.Digit
import DepTagger.Text.Quoted
import DepTagger.Invocation.Basic
import DepTagger.Invocation.Parse
import DepTagger.Invocation.Help
import DepTagger.Invocation.Labeller
import DepTagger.Main
import DepTagger.Proofs.Tree.Children
import DepTagger.Proofs.Tree.Ancestry
import DepTagger.Proofs.Tree.Construction
import DepTagger.Proofs.Tree.Faults
import DepTagger.Proofs.Tree.Printing
import DepTagger.Proofs.Tree.Termination
import DepTagger.Proofs.Tagging.Spread
import DepTagger.Proofs.Pattern.Selection
import DepTagger.Proofs.Pattern.Application
import DepTagger.Proofs.Pattern.Outcome
import DepTagger.Proofs.Pattern.Retrace
import DepTagger.Proofs.Pattern.Events
import DepTagger.Proofs.Labelling.Search
import DepTagger.Proofs.Labelling.RootWord
import DepTagger.Proofs.Labelling.Liveness
import DepTagger.Proofs.Session
import DepTagger.Proofs.Labelling.Corpus
import DepTagger.Proofs.Invocation.Reading
import DepTagger.Proofs.Invocation.Arguments
