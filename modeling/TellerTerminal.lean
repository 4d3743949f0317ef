import TellerTerminal.CommandLine.Rehearsal
import TellerTerminal.Main
import TellerTerminal.Proofs.ActiveKeys
import TellerTerminal.Proofs.Answers
import TellerTerminal.Proofs.ClosedTable
import TellerTerminal.Proofs.Entering
import TellerTerminal.Proofs.FileStore
import TellerTerminal.Proofs.Formats
import TellerTerminal.Proofs.Idle
import TellerTerminal.Proofs.Independence
import TellerTerminal.Proofs.InformationExecution
import TellerTerminal.Proofs.KeyHistory
import TellerTerminal.Proofs.KeyListing
import TellerTerminal.Proofs.KeyLog
import TellerTerminal.Proofs.MessageText
import TellerTerminal.Proofs.Packaging
import TellerTerminal.Proofs.PressSteps
import TellerTerminal.Proofs.RecordGrammar
import TellerTerminal.Proofs.RecordRoundTrip
import TellerTerminal.Proofs.Restoring
import TellerTerminal.Proofs.Retransmission
import TellerTerminal.Proofs.Segments
import TellerTerminal.Proofs.SelectionExecution
import TellerTerminal.Proofs.SharedStore
import TellerTerminal.Proofs.TableLoad
import TellerTerminal.Proofs.Track2
import TellerTerminal.Proofs.MaskedNumber
import TellerTerminal.Proofs.BufferCalls
import TellerTerminal.Proofs.Masks
import TellerTerminal.Proofs.AmountNumber
import TellerTerminal.Proofs.OpcodeCells
