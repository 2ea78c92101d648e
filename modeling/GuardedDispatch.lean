import GuardedDispatch.Json.Parser
import GuardedDispatch.Main
import GuardedDispatch.Web.Adapter
import GuardedDispatch.Proofs.Access.Interference
import GuardedDispatch.Proofs.Config.Authority
import GuardedDispatch.Proofs.Dispatch.History
import GuardedDispatch.Proofs.Dispatch.Owning
import GuardedDispatch.Proofs.Dispatch.Stopping
import GuardedDispatch.Proofs.Guard.Granting
import GuardedDispatch.Proofs.Resolving.Abstaining
import GuardedDispatch.Proofs.Web.Crowd
import GuardedDispatch.Proofs.Web.LifeCycle
import GuardedDispatch.Proofs.Web.Protection
import GuardedDispatch.Proofs.Resolving.Succession
import GuardedDispatch.Proofs.Guard.Questioning
import GuardedDispatch.Proofs.Web.Anonymity
import GuardedDispatch.Proofs.Guard.Reporting
import GuardedDispatch.Proofs.Resolving.Acting
import GuardedDispatch.Proofs.Web.Conveying
import GuardedDispatch.Proofs.Web.Redirecting
import GuardedDispatch.Proofs.Guard.Compiling
import GuardedDispatch.Proofs.Access.Leftovers
import GuardedDispatch.Proofs.Config.Options
import GuardedDispatch.Proofs.Guard.Spelling
import GuardedDispatch.Proofs.Access.Nesting
