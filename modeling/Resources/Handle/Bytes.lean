import Resources.Resource

/-! Resources in memory. -/
namespace Resources.BytesHandle

def description (h : BytesHandle) : String := s!"byte array resource [{h.label}]"

def resource (h : BytesHandle) : Resource where
  kind := .byteArray
  description := h.description
  present := pure true
  url := throw (.unresolvableLocator h.description "URL")
  openStream := pure (.ofBytes h.data)
  openChannel := pure (.ofBytes h.data)
  contentLength := pure h.data.length
  lastModified := throw (.resolution h.description "in-memory content has no modification time")

end Resources.BytesHandle
