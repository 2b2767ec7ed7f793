import KeyRemap.Cli.FileTree
import KeyRemap.Main
import KeyRemap.Proofs.Arming
import KeyRemap.Proofs.Claims
import KeyRemap.Proofs.Diagnosis
import KeyRemap.Proofs.Distinction
import KeyRemap.Proofs.Exclusion
import KeyRemap.Proofs.FirstViolation
import KeyRemap.Proofs.Guards
import KeyRemap.Proofs.Interception
import KeyRemap.Proofs.Inventory
import KeyRemap.Proofs.Settings
import KeyRemap.Proofs.RegistryHistory
import KeyRemap.Proofs.Reordering
import KeyRemap.Proofs.Replacement
import KeyRemap.Proofs.Separation
import KeyRemap.Proofs.Arrangement
import KeyRemap.Proofs.DeviceScoping
import KeyRemap.Proofs.Extension
import KeyRemap.Proofs.ClaimCount
import KeyRemap.Proofs.Sending
import KeyRemap.Proofs.Equivalence
import KeyRemap.Proofs.SharedVariables
import KeyRemap.Proofs.Members
import KeyRemap.Proofs.UniqueReading
import KeyRemap.Proofs.Recovery
import KeyRemap.Proofs.WellFormed
import KeyRemap.Proofs.Listening
import KeyRemap.Proofs.Wording
import KeyRemap.Proofs.Descriptions
import KeyRemap.Proofs.Spelling
import KeyRemap.Proofs.ComboGrammar
import KeyRemap.Proofs.ConvertedScripts
import KeyRemap.Proofs.CommandLine
import KeyRemap.Proofs.WrittenDestinations
import KeyRemap.Proofs.HoldEdits
import KeyRemap.Proofs.Cancellation
