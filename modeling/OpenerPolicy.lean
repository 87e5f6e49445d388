import OpenerPolicy.Http.Application
import OpenerPolicy.Pipeline.Program
import OpenerPolicy.Settings.Apply
import OpenerPolicy.Settings.Document
import OpenerPolicy.Proofs.Response.Operations
import OpenerPolicy.Proofs.Response.Naming
import OpenerPolicy.Proofs.Response.Forgetting
import OpenerPolicy.Proofs.Response.Ordering
import OpenerPolicy.Proofs.Response.Ownership
import OpenerPolicy.Proofs.Response.Spelling
import OpenerPolicy.Proofs.Http.Routing
import OpenerPolicy.Proofs.Http.Isolation
import OpenerPolicy.Proofs.Http.Delivery
import OpenerPolicy.Proofs.Http.FirstLines
import OpenerPolicy.Proofs.Pipeline.Substitution
import OpenerPolicy.Proofs.Log.Transcript
import OpenerPolicy.Proofs.Log.Entries
import OpenerPolicy.Proofs.Log.Console
import OpenerPolicy.Proofs.Log.Times
import OpenerPolicy.Proofs.Settings.RoundTrip
import OpenerPolicy.Proofs.Settings.Loading
import OpenerPolicy.Proofs.Policy.Recovery
import OpenerPolicy.Proofs.Pipeline.Deeds
import OpenerPolicy.Proofs.Pipeline.WrittenOnce
import OpenerPolicy.Proofs.Pipeline.Opening
import OpenerPolicy.Proofs.Pipeline.Precedence
import OpenerPolicy.Proofs.Settings.Complaints
