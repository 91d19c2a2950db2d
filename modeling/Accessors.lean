import Accessors.Disk.FileTree
import Accessors.Generation.Session
import Accessors.Main
import Accessors.Proofs.AcceptedSettings
import Accessors.Proofs.EditingSessions
import Accessors.Proofs.FixedPoint
import Accessors.Proofs.SettingsRoundTrip
import Accessors.Proofs.LineEndings
import Accessors.Proofs.StrayLines
import Accessors.Proofs.WriteFlag
import Accessors.Proofs.LookedAt
import Accessors.Proofs.FileChanges
import Accessors.Proofs.MethodsOfCode
import Accessors.Proofs.CaseTwins
import Accessors.Proofs.SurveyComposition
import Accessors.Proofs.RenderingVerdicts
import Accessors.Proofs.IgnoredVisibility
import Accessors.Proofs.TemplatePrecedence
import Accessors.Proofs.AttachedBlock
import Accessors.Proofs.LineGrammar
import Accessors.Proofs.BatchAccount
import Accessors.Proofs.PairedAccessors
import Accessors.Proofs.BodyHoles
import Accessors.Proofs.DeclaredVariables
import Accessors.Proofs.DerivedIdentifiers
import Accessors.Proofs.SetterGaps
import Accessors.Proofs.GrowingSources
import Accessors.Proofs.SingleTypes
import Accessors.Proofs.SeparateMethods
import Accessors.Proofs.PickedMember
import Accessors.Proofs.CapitalizedWords
import Accessors.Proofs.KeptCharacters
import Accessors.Proofs.NearestSettings
import Accessors.Proofs.CommentLines
import Accessors.Proofs.LookedAt
