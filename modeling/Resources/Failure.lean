import Resources.Fault

/-! Why an operation on a resource failed. Each failure carries the description of the resource. -/
namespace Resources

inductive FailureKind where
  | notFound
  | unresolvableLocator
  | resolution
  | io
  deriving DecidableEq, Repr

def FailureKind.text : FailureKind → String
  | notFound => "not found"
  | unresolvableLocator => "unresolvable locator"
  | resolution => "resolution"
  | io => "io"

inductive Failure where
  | notFound (description : String)
  | unresolvableLocator (description form : String)
  | resolution (description reason : String)
  | notSupported (operation description : String)
  | alreadyConsumed (description : String)
  | io (operation description : String) (fault : Fault)
  | http (description reason : String)
  deriving DecidableEq, Repr

namespace Failure

def kind : Failure → FailureKind
  | notFound _ => .notFound
  | unresolvableLocator _ _ => .unresolvableLocator
  | resolution _ _ | notSupported _ _ => .resolution
  | alreadyConsumed _ | io _ _ _ | http _ _ => .io

def description : Failure → String
  | notFound d | unresolvableLocator d _ | resolution d _ | notSupported _ d | alreadyConsumed d
  | io _ d _ | http d _ => d

def message : Failure → String
  | notFound d => s!"not found: {d}"
  | unresolvableLocator d form => s!"{d} cannot be resolved to {form}"
  | resolution d reason => s!"cannot resolve {d}: {reason}"
  | notSupported op d => s!"{op} not supported by {d}"
  | alreadyConsumed d => s!"stream already consumed: {d}"
  | io op d fault => s!"{op} failed for {d}: {fault.text}"
  | http d reason => s!"http request failed for {d}: {reason}"

/-- Does another failure stand behind it? -/
def hasSource : Failure → Bool
  | io _ _ _ | http _ _ => true
  | _ => false

def fault? : Failure → Option Fault
  | io _ _ fault => some fault
  | _ => none

/-- A fault met during an operation. That something is absent is a failure of its own. -/
def ofFault (operation description : String) (fault : Fault) : Failure :=
  if fault.kind = .notFound then .notFound description else .io operation description fault

end Failure

end Resources
