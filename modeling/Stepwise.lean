import Stepwise.Commands.Envs
import Stepwise.Commands.Exec
import Stepwise.Commands.Variables
import Stepwise.Json.Reader
import Stepwise.Machine.Host
import Stepwise.Main
import Stepwise.Output.Shared
import Stepwise.Results.Archive
import Stepwise.Proofs.Secrets.Given
import Stepwise.Proofs.Secrets.Leak
import Stepwise.Scopes.PlanReader
import Stepwise.Secrets.Redactor
import Stepwise.Silence.Watch
import Stepwise.Steps.Runner
import Stepwise.Proofs.History
import Stepwise.Proofs.Noninterference
import Stepwise.Proofs.Scopes.Growth
import Stepwise.Proofs.Scopes.Stays
import Stepwise.Proofs.Scopes.Failure
import Stepwise.Proofs.Stages
import Stepwise.Proofs.Scopes.Outputs
import Stepwise.Proofs.Exports
import Stepwise.Proofs.Exports.Written
import Stepwise.Proofs.Expansion.Replacing
import Stepwise.Proofs.Silence.Notification
import Stepwise.Proofs.Silence.Output
import Stepwise.Output.Pumps
import Stepwise.Proofs.Secrets.Release
import Stepwise.Proofs.Secrets.Comparison
import Stepwise.Proofs.Secrets.Lines
import Stepwise.Proofs.Secrets.Lossless
import Stepwise.Proofs.Output.Streams
import Stepwise.Proofs.Output.Pumps
import Stepwise.Proofs.Results
import Stepwise.Proofs.Steps.BuildStatus
import Stepwise.Proofs.Declaration.Encoding
import Stepwise.Proofs.Refusal
import Stepwise.Proofs.Declaration.Grammar
import Stepwise.Proofs.Declaration.Defaults
import Stepwise.Proofs.Secrets.Assembly
import Stepwise.Proofs.Expansion.Braced
import Stepwise.Proofs.Settings.Overrides
import Stepwise.Proofs.Yaml.Records
import Stepwise.Proofs.Settings.Precedence
import Stepwise.Proofs.Commands.Printed
import Stepwise.Proofs.Secrets.Positions
import Stepwise.Proofs.Expansion.Positions
