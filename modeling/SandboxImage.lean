import SandboxImage.Main
import SandboxImage.Podman.Session
import SandboxImage.Service.Scripted
import SandboxImage.Proofs.Builder.Contract
import SandboxImage.Proofs.Verifier.Lifecycle
import SandboxImage.Proofs.Verifier.Outcomes
import SandboxImage.Proofs.Service.Rejections
import SandboxImage.Proofs.Validation.Accepted
import SandboxImage.Proofs.Validation.Rules
import SandboxImage.Proofs.Validation.Recipes
import SandboxImage.Proofs.Validation.Plans
import SandboxImage.Proofs.Containerfile.Reading
import SandboxImage.Proofs.Containerfile.Values
import SandboxImage.Proofs.Containerfile.RoundTrip
import SandboxImage.Proofs.Containerfile.Lines
import SandboxImage.Proofs.Digest.Delimited
import SandboxImage.Proofs.Podman.Starts
import SandboxImage.Proofs.Podman.Building
import SandboxImage.Proofs.Podman.Verification
import SandboxImage.Proofs.Credential.Form
import SandboxImage.Proofs.Credential.Alike
import SandboxImage.Proofs.Credential.Requests
import SandboxImage.Proofs.Credential.Secrecy
import SandboxImage.Proofs.CommandLine.ExitStatus
import SandboxImage.Proofs.CommandLine.DryRun
import SandboxImage.Proofs.EnvTable.Order
import SandboxImage.Proofs.EnvTable.Lookup
import SandboxImage.Proofs.EnvTable.Settings
import SandboxImage.Proofs.Template.Decoding
import SandboxImage.Proofs.Template.UnknownKeys
import SandboxImage.Proofs.Podman.Passable
import SandboxImage.Proofs.Podman.Diagnostic
import SandboxImage.Proofs.Podman.BlankReason
import SandboxImage.Proofs.Command.Grammar
import SandboxImage.Proofs.Command.Splitting
import SandboxImage.Proofs.Command.Continuation
import SandboxImage.Proofs.Command.Joining
import SandboxImage.Proofs.Console.Summary
import SandboxImage.Proofs.Console.OutcomeLines
import SandboxImage.Proofs.Files.Ancestors
import SandboxImage.Proofs.Template.Nearest
