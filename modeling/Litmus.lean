import Litmus.Answer
import Litmus.Main
import Litmus.Proofs.Agreement
import Litmus.Proofs.AssertionText
import Litmus.Proofs.Columns
import Litmus.Proofs.Comments
import Litmus.Proofs.FileNames
import Litmus.Proofs.InitialText
import Litmus.Proofs.LineSearch
import Litmus.Proofs.LogHistory
import Litmus.Proofs.Meaning
import Litmus.Proofs.Outcomes
import Litmus.Proofs.Printing
import Litmus.Proofs.Priority
import Litmus.Proofs.RecordFiles
import Litmus.Proofs.Refusals
import Litmus.Proofs.Slots
import Litmus.Proofs.Streams
