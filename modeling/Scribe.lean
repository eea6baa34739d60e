import Scribe.Main
import Scribe.Proofs.Generator.Batch
import Scribe.Proofs.Generator.Breaks
import Scribe.Proofs.Generator.Lines
import Scribe.Proofs.Generator.Reading
import Scribe.Proofs.Generator.Retries
import Scribe.Proofs.Java.Accounts
import Scribe.Proofs.Java.Honesty
import Scribe.Proofs.Java.Secrecy
import Scribe.Proofs.Searches
import Scribe.Proofs.Service.Blocks
import Scribe.Proofs.Service.Bystanders
import Scribe.Proofs.Service.Failures
import Scribe.Proofs.Service.Multiplicity
import Scribe.Proofs.Service.Openings
import Scribe.Proofs.Service.Refusals
import Scribe.Proofs.Service.Robust
import Scribe.Proofs.Service.Secrecy
import Scribe.Proofs.Service.Statistics
import Scribe.Proofs.Session.Parsers
import Scribe.Proofs.Source.Docstrings
import Scribe.Proofs.Source.Queries
import Scribe.Proofs.Web.Routes
import Scribe.Proofs.Language.Extension
import Scribe.Proofs.Service.Announcements
