import LintBook.Settings.Cache
import LintBook.Service
import LintBook.Workspace
import LintBook.Json.Printer
import LintBook.Proofs.Collecting
import LintBook.Proofs.Indentation
import LintBook.Proofs.Comments
import LintBook.Proofs.Utf8
import LintBook.Proofs.JsonRoundTrip
import LintBook.Proofs.Files
import LintBook.Proofs.Scalars
import LintBook.Proofs.JsonForms
import LintBook.Proofs.Uploading
import LintBook.Proofs.LineEndings
import LintBook.Proofs.Malformed
import LintBook.Proofs.Lookup
import LintBook.Proofs.ReadingLimits
import LintBook.Proofs.Validating
import LintBook.Proofs.Faults
import LintBook.Proofs.Additions
import LintBook.Proofs.Clashes
import LintBook.Proofs.Nesting
import LintBook.Proofs.SettingsHistory
import LintBook.Proofs.WellFormed
import LintBook.Proofs.Fallback
import LintBook.Proofs.LineByLine
import LintBook.Proofs.UploadLimit
import LintBook.Proofs.AffectedLints
import LintBook.Proofs.Surrogates
import LintBook.Proofs.Queries
import LintBook.Proofs.Quoting
import LintBook.Proofs.LogLines
import LintBook.Proofs.Issues
import LintBook.Proofs.Requests
