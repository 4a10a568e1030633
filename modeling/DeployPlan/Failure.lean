import DeployPlan.Duration

/-!
Why planning, resolving or submitting fails, and the text shown for each cause.
-/

namespace DeployPlan

inductive Flaw where
  | label (label : String)
  | nameFilter (pattern : String)
  | address (address reason : String)
  | noBaseAddress (address : String)
  | notRemote (address : String)
  | foreignComponent (component project : String)
  | dependencyCycle (component : String)
  | other (text : String)
deriving DecidableEq, Repr, Inhabited

inductive Missing where
  | definition (name project : String)
  | build (locator label : String)
  | artifacts (buildNumber : String)
  | other (text : String)
deriving DecidableEq, Repr, Inhabited

inductive Transport where
  /-- The request could not be put together; the address is shown when it is the cause. -/
  | unbuildable (url? : Option String)
  | unanswered (url : String)
  | undecodable
deriving DecidableEq, Repr, Inhabited

inductive ServerFault where
  | status (url status : String)
  | repeatedToken (url token : String)
  | unnumberedBuild (buildNumber : String)
  | unending (url : String)
  | other (text : String)
deriving DecidableEq, Repr, Inhabited

inductive Failure where
  | projectNotFound (name : String)
  | environmentNotFound (name : String)
  | componentNotFound (name : String)
  | invalid (flaw : Flaw)
  | noBuildFound (environment : String)
  | noRequestsProduced
  | artifactNotFound (what : Missing)
  | ambiguousDefinition (label : String) (count : Nat)
  | buildSystem (fault : ServerFault)
  | transport (fault : Transport)
  | timeout (limit : Duration)
  | cancelled
  | treeTooDeep (component : String) (limit : Nat)
  | unwritable (text : String)
  | unreadable (text : String)
  | store (text : String)
  | partialSubmission (submitted : List Nat) (cause : Failure)
deriving DecidableEq, Repr, Inhabited

def Flaw.message : Flaw → String
  | .label l => "build label '" ++ l ++ "' must look like '<project>; <definition>'"
  | .nameFilter p => "invalid build name filter '" ++ p ++ "'"
  | .address a r => "invalid build system URL '" ++ a ++ "': " ++ r
  | .noBaseAddress a => "cannot use '" ++ a ++ "' as a base URL"
  | .notRemote a => "'" ++ a ++ "' is not a remote build system; builds cannot be listed"
  | .foreignComponent c p => "component '" ++ c ++ "' does not belong to project '" ++ p ++ "'"
  | .dependencyCycle c => "dependency cycle through component '" ++ c ++ "'"
  | .other t => t

def Missing.message : Missing → String
  | .definition n p => "no build definition '" ++ n ++ "' in project '" ++ p ++ "'"
  | .build loc label => "build '" ++ loc ++ "' of definition '" ++ label ++ "'"
  | .artifacts n => "no artifacts published by build " ++ n
  | .other t => t

def Transport.message : Transport → String
  | .unbuildable none => "builder error"
  | .unbuildable (some u) => "builder error for url (" ++ u ++ ")"
  | .unanswered u => "error sending request for url (" ++ u ++ ")"
  | .undecodable => "error decoding response body"

def ServerFault.message : ServerFault → String
  | .status u s => "GET " ++ u ++ " returned " ++ s
  | .repeatedToken u t => "GET " ++ u ++ " repeated continuation token '" ++ t ++ "'"
  | .unending u => "GET " ++ u ++ " has more pages than are read"
  | .unnumberedBuild n => "build " ++ n ++ " has no numeric id"
  | .other t => t

namespace Failure

def message : Failure → String
  | projectNotFound n => "project not found: " ++ n
  | environmentNotFound n => "environment not found: " ++ n
  | componentNotFound n => "component not found: " ++ n
  | invalid flaw => "validation error: " ++ flaw.message
  | noBuildFound e => "no build found for the selected components in environment " ++ e
  | noRequestsProduced => "no deployment requests were produced"
  | artifactNotFound what => "artifact not found: " ++ what.message
  | ambiguousDefinition l n =>
    "build definition '" ++ l ++ "' is ambiguous (" ++ Number.text n ++ " matches)"
  | buildSystem fault => "build system error: " ++ fault.message
  | transport fault => "HTTP error: " ++ fault.message
  | timeout limit => "remote call timed out after " ++ limit.text
  | cancelled => "operation cancelled"
  | treeTooDeep c n =>
    "component tree below '" ++ c ++ "' is deeper than " ++ Number.text n ++ " levels"
  | unwritable t => "serialisation error: " ++ t
  | unreadable t => "parse error: " ++ t
  | store t => "store error: " ++ t
  | partialSubmission ids cause =>
    "submission failed after " ++ Number.text ids.length ++ " request(s): " ++ cause.message

def isNotFound : Failure → Bool
  | projectNotFound _ | environmentNotFound _ | componentNotFound _ => true
  | _ => false

end Failure

end DeployPlan
