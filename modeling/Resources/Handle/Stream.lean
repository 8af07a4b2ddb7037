import Resources.Resource

/-! Resources over a stream that is open already. It is handed out once. -/
namespace Resources.StreamHandle

def description (h : StreamHandle) : String := s!"InputStream resource [{h.label}]"

def isTaken (h : StreamHandle) (w : World) : Bool := h.id ∈ w.taken

def take (h : StreamHandle) : Attempt Stream := do
  if h.isTaken (← get) then throw (.alreadyConsumed h.description)
  modify fun w => { w with taken := h.id :: w.taken }
  pure (.source h.source)

/-- A stream as diagnostics show it. -/
def shown (h : StreamHandle) (w : World) : String :=
  "InputStreamResource \x7b label: " ++ quoted h.label ++ s!", consumed: {h.isTaken w} \x7d"

def resource (h : StreamHandle) : Resource where
  kind := .inputStream
  description := h.description
  present := pure true
  isOpen := true
  url := throw (.unresolvableLocator h.description "URL")
  openStream := h.take
  contentLength := throw
    (.resolution h.description "length of an open stream is unknown without consuming it")
  lastModified := throw (.resolution h.description "an open stream has no modification time")

end Resources.StreamHandle
