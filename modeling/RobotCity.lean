import RobotCity.Main
import RobotCity.Program.Node
import RobotCity.Proofs.NameTable
import RobotCity.Proofs.Searches
import RobotCity.Proofs.Setup.Books
import RobotCity.Proofs.Setup.Passes
import RobotCity.Proofs.Setup.Acceptance
import RobotCity.Proofs.Setup.Kinds
import RobotCity.Proofs.Areas
import RobotCity.Proofs.Stages
import RobotCity.Proofs.Occupancy
import RobotCity.Proofs.Statements.Parts
import RobotCity.Proofs.Statements.Weakening
import RobotCity.Proofs.Declarations
import RobotCity.Proofs.Typing
import RobotCity.Proofs.AreaFaults
import RobotCity.Proofs.Documents.Members
import RobotCity.Proofs.Documents.Shapes
import RobotCity.Proofs.Documents.Reading
import RobotCity.Proofs.Documents.Mirror
import RobotCity.Proofs.Json.Scanning
import RobotCity.Proofs.Json.Characters
import RobotCity.Proofs.Json.Reading
import RobotCity.Proofs.Documents.HandOff
import RobotCity.Proofs.References
import RobotCity.Proofs.Statements.Expressions
import RobotCity.Proofs.Documents.Forms
import RobotCity.Proofs.Documents.Spelling
import RobotCity.Proofs.Documents.Readers
import RobotCity.Proofs.Documents.StatementReaders
import RobotCity.Proofs.Documents.ProgramReaders
import RobotCity.Proofs.Documents.Agreement
import RobotCity.Proofs.Documents.Grammar
import RobotCity.Proofs.Documents.Places
import RobotCity.Proofs.Documents.Defects
import RobotCity.Proofs.Acceptance
import RobotCity.Proofs.Loosening
import RobotCity.Proofs.TypeFaults
import RobotCity.Proofs.InternalFaults
import RobotCity.Proofs.Reordering
import RobotCity.Proofs.Pruning
import RobotCity.Proofs.Renaming.Basic
import RobotCity.Proofs.Renaming.Declarations
import RobotCity.Proofs.Renaming.Setup
import RobotCity.Proofs.Renaming.Programs
import RobotCity.Proofs.Json.Soundness
import RobotCity.Proofs.Json.LongNumerals
import RobotCity.Proofs.Documents.Writable
import RobotCity.Proofs.Newlines
import RobotCity.Proofs.Utf8
import RobotCity.Proofs.Storage
import RobotCity.Proofs.Json.LineEnds
import RobotCity.Proofs.ProgramFiles
import RobotCity.Proofs.CommandLine.Runs
import RobotCity.Proofs.CommandLine.Emission
import RobotCity.Proofs.CommandLine.Complaints
import RobotCity.Proofs.Statements.SourceOrder
import RobotCity.Proofs.Documents.FieldTypes
import RobotCity.Proofs.Setup.Refusals
import RobotCity.Proofs.Usability
import RobotCity.Proofs.Statements.Locality
import RobotCity.Proofs.Setup.Policies
import RobotCity.Proofs.DeclarationFaults
import RobotCity.Proofs.HiddenParameters
import RobotCity.Proofs.Setup.Balance
import RobotCity.Proofs.Setup.Lookups
import RobotCity.Proofs.Configuration.Sources
import RobotCity.Proofs.Configuration.Written
import RobotCity.Proofs.Setup.Capacity
import RobotCity.Proofs.Documents.Relocation
import RobotCity.Proofs.Repetition
import RobotCity.Proofs.FirstDeclarations
