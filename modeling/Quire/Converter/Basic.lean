import Quire.Converter.Error
import Quire.Node.Basic

/-!
# Converters

A converter turns single nodes into output for one backend. It may keep a memory from call to call
and look at the files, which it never changes.
-/

namespace Quire

/-- A converter over memories of type `μ`. -/
structure Converter (μ : Type) where
  /-- The backend that the output is for. -/
  backend : String
  /-- Whether nodes of a name can be converted. -/
  handles : FileTree → String → StateM μ Bool
  /-- Converts a node. -/
  convert : FileTree → Task → StateM μ (Except ConvertError String)
  /-- Converts a node, or declines it. -/
  tryConvert : FileTree → Task → StateM μ (Except ConvertError (Option String))

namespace Converter

variable {μ : Type}

/-- A converter that declines exactly what it does not handle. -/
def ofHandles (backend : String) (handles : FileTree → String → StateM μ Bool)
    (convert : FileTree → Task → StateM μ (Except ConvertError String)) : Converter μ where
  backend := backend
  handles := handles
  convert := convert
  tryConvert files task := do
    if ← handles files task.name then
      let output ← convert files task
      return output.map some
    else return .ok none

/-- The stand-in for a backend without converter: every conversion fails. -/
def unsupported (backend : String) : Converter μ :=
  ofHandles backend (fun _ _ => return false)
    (fun _ task => return .error (.noConverter backend task.name))

/-- Tries `overrides` first and leaves what it declines to `base`, which may be absent. -/
def composite (backend : String) (overrides : Converter μ) (base : Option (Converter μ)) :
    Converter μ :=
  ofHandles backend
    (fun files name => do
      if ← overrides.handles files name then return true
      else
        match base with
        | some base => base.handles files name
        | none => return false)
    (fun files task => do
      match ← overrides.tryConvert files task with
      | .error e => return .error e
      | .ok (some output) => return .ok output
      | .ok none =>
        match base with
        | some base => base.convert files task
        | none => return .error (.noConverter backend task.name))

end Converter

end Quire
