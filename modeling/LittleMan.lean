import LittleMan.Assembly.Request
import LittleMan.Batch.Request
import LittleMan.Machine.Request
import LittleMan.Main
import LittleMan.Proofs.Assembly.Diagnosis
import LittleMan.Proofs.Assembly.Disassembly
import LittleMan.Proofs.Batch.Verdict
import LittleMan.Proofs.Command.CommandLine
import LittleMan.Proofs.Machine.InstructionTable
import LittleMan.Proofs.Machine.Registers
import LittleMan.Proofs.Machine.Watching
import LittleMan.Proofs.Machine.Lockstep
import LittleMan.Proofs.Machine.Trays
import LittleMan.Proofs.Machine.Surplus
import LittleMan.Proofs.Batch.Threshold
import LittleMan.Proofs.Batch.TestFile
import LittleMan.Proofs.Command.TestFile
import LittleMan.Proofs.Machine.Tracing
import LittleMan.Proofs.Machine.Story
import LittleMan.Proofs.Command.RunCommand
import LittleMan.Proofs.Text.Refill
import LittleMan.Proofs.Assembly.Respelling
import LittleMan.Proofs.Assembly.Renaming
import LittleMan.Proofs.Assembly.Editing
import LittleMan.Assembly.Assembler
import LittleMan.Proofs.Assembly.Appending
import LittleMan.Proofs.Assembly.Counting
import LittleMan.Proofs.Assembly.Listing
import LittleMan.Proofs.Assembly.Assembler
import LittleMan.Proofs.Machine.Refusal
import LittleMan.Proofs.Machine.Restart
import LittleMan.Proofs.Change
import LittleMan.Proofs.Machine.Stores
import LittleMan.Proofs.Batch.Influence
import LittleMan.Proofs.Batch.Report
import LittleMan.Proofs.Command.Session
import LittleMan.Proofs.Machine.Failing
import LittleMan.Proofs.Batch.RecordLine
import LittleMan.Proofs.MachineCode.Layout
import LittleMan.Proofs.Text.OneLine
import LittleMan.Proofs.Assembly.Message
import LittleMan.Proofs.Machine.Message
import LittleMan.Proofs.Command.Words
import LittleMan.Proofs.Command.Failure
import LittleMan.Proofs.Command.Ending
import LittleMan.Proofs.Command.LineBreaks
import LittleMan.Proofs.Command.StoryLines
import LittleMan.Proofs.Command.LogFile
import LittleMan.Proofs.Machine.Decoding
import LittleMan.Proofs.Assembly.Passes
import LittleMan.Proofs.Command.MemoryViews
