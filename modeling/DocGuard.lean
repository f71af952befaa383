import DocGuard.Docstring
import DocGuard.Finding
import DocGuard.Program.Session
import DocGuard.Verdict
import DocGuard.Proofs.Appending
import DocGuard.Proofs.Cleaning
import DocGuard.Proofs.Program.Agreement
import DocGuard.Proofs.Program.Extraction
import DocGuard.Proofs.Program.Guarding
import DocGuard.Proofs.Program.Inquiry
import DocGuard.Proofs.Program.Inquiry.Callable
import DocGuard.Proofs.Program.Inquiry.Value
import DocGuard.Proofs.Program.Reaching
import DocGuard.Proofs.Program.Reaction
import DocGuard.Proofs.Program.Refusal
import DocGuard.Proofs.Program.Verdict
import DocGuard.Proofs.Section
import DocGuard.Proofs.Section.Membership
import DocGuard.Proofs.Section.Nesting
import DocGuard.Proofs.Tag.Inert
import DocGuard.Proofs.Tag.Rendering
import DocGuard.Proofs.Tag.Respacing
import DocGuard.Proofs.Verdict
import DocGuard.Proofs.Verdict.Refusal
import DocGuard.Proofs.Wrapping
