import LookupEnums.Main
import LookupEnums.Proofs.CommandLine.FailedRun
import LookupEnums.Proofs.Compile.Clashes
import LookupEnums.Proofs.Compile.Coercion
import LookupEnums.Proofs.Compile.Coherence
import LookupEnums.Proofs.Compile.Constants
import LookupEnums.Proofs.Compile.Cycles
import LookupEnums.Proofs.Compile.Denoting
import LookupEnums.Proofs.Compile.Loaded
import LookupEnums.Proofs.Compile.Naming
import LookupEnums.Proofs.Compile.Reordering
import LookupEnums.Proofs.Compile.Templates
import LookupEnums.Proofs.Compile.Termination
import LookupEnums.Proofs.Compile.Terminators
import LookupEnums.Proofs.Config.Masked
import LookupEnums.Proofs.Generation.ExplicitAddress
import LookupEnums.Proofs.Generation.Writing
import LookupEnums.Proofs.Loading
import LookupEnums.Proofs.Mapping.Noise
import LookupEnums.Proofs.Mapping.Outcome
import LookupEnums.Proofs.Mapping.RoundTrip
import LookupEnums.Proofs.Name.Identifier
import LookupEnums.Proofs.Name.IntegerName
import LookupEnums.Proofs.Name.Reading
import LookupEnums.Proofs.Source.Reading
import LookupEnums.Proofs.TypeEnv.History
import LookupEnums.Proofs.TypeEnv.Recording
import LookupEnums.Proofs.Value.Number
