import Shorthand.CommandLine.Session
import Shorthand.Release
import Shorthand.Proofs.Forest
import Shorthand.Proofs.RuleLanguage
import Shorthand.Proofs.Segmentation
import Shorthand.Proofs.Zone
import Shorthand.Proofs.Reconstruction
import Shorthand.Proofs.Literals
import Shorthand.Proofs.LongestMatch
import Shorthand.Proofs.Reading
import Shorthand.Proofs.Respacing
import Shorthand.Proofs.Following
import Shorthand.Proofs.Lines
import Shorthand.Proofs.Spelling
import Shorthand.Proofs.Items
import Shorthand.Proofs.Choice
import Shorthand.Proofs.Margin
import Shorthand.Proofs.Joining
import Shorthand.Proofs.Wrapping
import Shorthand.Proofs.Carry
import Shorthand.Proofs.PassThrough
import Shorthand.Proofs.Order
import Shorthand.Proofs.Grammar
import Shorthand.Proofs.Placement
import Shorthand.Proofs.Pointing
import Shorthand.Proofs.Atomicity
import Shorthand.Proofs.SharedFeed
import Shorthand.Proofs.Deletion
import Shorthand.Proofs.Starting
import Shorthand.Proofs.Sparing
import Shorthand.Proofs.SettingChecks
import Shorthand.Proofs.Acceptance
import Shorthand.Proofs.Dependence
import Shorthand.Proofs.Quoting
import Shorthand.Proofs.Replacement
import Shorthand.Proofs.PassedArguments
import Shorthand.Proofs.LineBreaks
import Shorthand.Proofs.Alphabet
import Shorthand.Proofs.Bookkeeping
import Shorthand.Proofs.Repetition
import Shorthand.Proofs.Malformed
import Shorthand.Proofs.Raising
