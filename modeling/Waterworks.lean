import Waterworks.Kind.Document
import Waterworks.Main
import Waterworks.Store.Run
import Waterworks.Proofs.CommandLine.PrintedSummaries
import Waterworks.Proofs.Store.Children
import Waterworks.Proofs.Store.UnusablePatterns
import Waterworks.Proofs.Store.Lock
import Waterworks.Proofs.Store.AuditTrail
import Waterworks.Proofs.Store.Neutrality
import Waterworks.Proofs.Collect.Filtering
import Waterworks.Proofs.Collect.Selection
import Waterworks.Proofs.Collect.Questions
import Waterworks.Proofs.CommandLine.Agreement
import Waterworks.Proofs.Store.Repair
import Waterworks.Proofs.Store.LogGrowth
import Waterworks.Proofs.Listing.Colors
import Waterworks.Proofs.Pattern.IgnoredCase
import Waterworks.Proofs.Pattern.Matches
import Waterworks.Proofs.Pattern.Words
import Waterworks.Proofs.Store.RowFiles
import Waterworks.Proofs.Collect.Assemblies
import Waterworks.Proofs.Collect.Tokens
import Waterworks.Proofs.Listing.Unambiguous
import Waterworks.Proofs.Store.Configurations
