import NativeVariants.Bindings
import NativeVariants.Header.Collection
import NativeVariants.Machine

set_option autoImplicit false

/-!
The generation of bindings from a wrapper header. The module that an earlier run wrote is replaced
in one step, and only once the new one is complete.
-/

namespace NativeVariants
open Header

structure BindingRequest where
  header : Path
  includeDirs : List Path
  target : Path
  allow : Allowlist
  extra : List String

def readHeader (request : BindingRequest) : Run Surface := do
  let header := request.header.display
  let arguments := readerArguments (request.includeDirs.map (·.display)) request.extra
  Run.note .header ("libclang parse " ++ " ".intercalate (header :: arguments))
  let u ← Run.nextUnit header arguments
  let outcome := collectUnit request.allow .empty header u
  outcome.unmapped.forM fun spelling => Run.warn .header (unmappedWarning spelling)
  let surface ← ofExcept outcome.surface
  Run.note .header s!"Parsed {header}: {surface.summary}"
  return surface

def generateBindings (request : BindingRequest) : Run Surface := do
  let header := request.header
  if !(← Run.isFile header) then throw (.problem (.missingHeader header.display))
  Run.print s!"🔗 Generating bindings from {header.name}..."
  let surface ← readHeader request
  if surface.isEmpty then
    throw (.problem (.noDeclarations header.display (request.includeDirs.map (·.display))))
  if !Bindings.isRenderable surface then throw .badValue
  Run.writeWhole request.target (Bindings.render surface header.name)
  Run.print s!"✅ Bindings written to {request.target.display} ({surface.summary})"
  return surface

end NativeVariants
