import MailboxSearch.Files.Tree
import MailboxSearch.Main
import MailboxSearch.Proofs.Pattern.Invariant
import MailboxSearch.Proofs.Pattern.Rendered
import MailboxSearch.Proofs.Pattern.Segments
import MailboxSearch.Proofs.Pattern.Start
import MailboxSearch.Proofs.Pattern.Widest
import MailboxSearch.Proofs.Query.Joint
import MailboxSearch.Proofs.Query.Prefilter
import MailboxSearch.Proofs.Path.Bytes
import MailboxSearch.Proofs.Inventory
import MailboxSearch.Proofs.Listing
import MailboxSearch.Proofs.Query.Beneath
import MailboxSearch.Proofs.Query.Builder
import MailboxSearch.Proofs.Query.Bytes
import MailboxSearch.Proofs.Query.Combined
import MailboxSearch.Proofs.Query.Exact
import MailboxSearch.Proofs.Query.Levels
import MailboxSearch.Proofs.Query.Renaming
import MailboxSearch.Proofs.Query.Widening
import MailboxSearch.Proofs.Config.Format
import MailboxSearch.Proofs.Command.Agreement
import MailboxSearch.Proofs.Command.Lines
import MailboxSearch.Proofs.Command.Options
import MailboxSearch.Proofs.Command.Stages
import MailboxSearch.Proofs.Command.Output
