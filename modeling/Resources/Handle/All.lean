import Resources.Handle.Bytes
import Resources.Handle.ClassPath
import Resources.Handle.File
import Resources.Handle.Stream
import Resources.Handle.Url

/-! Any handle as a resource. -/
namespace Resources.Handle

def resource : Handle → Resource
  | file h => h.resource
  | classPath h => h.resource
  | url h => h.resource
  | bytes h => h.resource
  | stream h => h.resource

def kind (h : Handle) : Kind := h.resource.kind

def description (h : Handle) : String := h.resource.description

end Resources.Handle
