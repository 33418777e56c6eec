import Quire.Converter.Basic
import Quire.Options.Basic

/-!
# Registered converters

Converters that take the place of what would be made for a backend. The key is the backend's name
as it is given, not the canonical one.
-/

namespace Quire

/-- A registered converter, or a way to make one for each request. -/
inductive Registration (μ : Type) where
  | ready (converter : Converter μ)
  | maker (make : String → Options → Converter μ)

/-- The converter for a request. -/
def Registration.converterFor {μ : Type} (registration : Registration μ) (backend : String)
    (options : Options) : Converter μ :=
  match registration with
  | ready converter => converter
  | maker make => make backend options

/-- Registrations by backend name. -/
abbrev Registry (μ : Type) := Dictionary (Registration μ)

end Quire
