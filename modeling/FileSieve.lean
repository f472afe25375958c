import FileSieve.FileSystem.Tree
import FileSieve.Instant.Text
import FileSieve.Main
import FileSieve.Proofs.Builtin.Newer
import FileSieve.Proofs.Builtin.SizeBound
import FileSieve.Proofs.Command.FrontEnds
import FileSieve.Proofs.Command.Selection
import FileSieve.Proofs.Expression.Calls
import FileSieve.Proofs.Expression.Grouping
import FileSieve.Proofs.Expression.Precedence
import FileSieve.Proofs.Expression.Preparation
import FileSieve.Proofs.Expression.RoundTrip
import FileSieve.Proofs.Expression.Safety
import FileSieve.Proofs.Expression.Value
import FileSieve.Proofs.FileInfo.Loading
import FileSieve.Proofs.Registry.Sharing
import FileSieve.Proofs.Token.Continuation
import FileSieve.Registry.Shared
