import Nv12Jpeg.Params

/-!
# Encoder implementations

The description by which an application chooses among encoders.
-/

namespace Nv12Jpeg

/-- What carries out the encoding. -/
inductive ImplementationKind where
  | software
  | hardware
  deriving DecidableEq, Repr

/-- The short name of a kind in messages. -/
def ImplementationKind.text : ImplementationKind → String
  | .software => "SW"
  | .hardware => "HW"

/-- The device interface an implementation works through. -/
inductive Acceleration where
  | none
  | vaapi
  deriving DecidableEq, Repr

/-- The name of a device interface in messages. -/
def Acceleration.text : Acceleration → String
  | .none => "NA"
  | .vaapi => "VAAPI"

/-- An encoder implementation, described. -/
structure Implementation where
  name : String
  version : String
  kind : ImplementationKind
  acceleration : Acceleration
  codecs : List Codec
  /-- The file it was loaded from; an implementation without one is built in. -/
  path : Option String
  deriving DecidableEq, Repr

namespace Implementation

/-- A description as it is written in messages. -/
def text (impl : Implementation) : String :=
  let codecs := ",".intercalate (impl.codecs.map Codec.text)
  let path := impl.path.getD "builtin"
  s!"implementation={impl.name} version={impl.version} type={impl.kind.text} "
    ++ s!"accel={impl.acceleration.text} codecs=[{codecs}] path={path}"

/-- The built-in software encoder. -/
def cpu : Implementation where
  name := "hw-jpeg cpu"
  version := "0.1.0"
  kind := .software
  acceleration := .none
  codecs := [.jpeg]
  path := none

/-- The implementations at hand, in the order in which they are found. -/
def available : List Implementation := [cpu]

end Implementation

/-- Which implementations an application is ready to use. -/
inductive BackendChoice where
  | auto
  | software
  | hardware
  deriving DecidableEq, Repr

namespace BackendChoice

/-- The name of a choice in messages. -/
def text : BackendChoice → String
  | .auto => "Auto"
  | .software => "Software"
  | .hardware => "Hardware"

/-- Whether a choice admits implementations of a kind. -/
def accepts : BackendChoice → ImplementationKind → Bool
  | .auto, _ => true
  | .software, kind => kind == .software
  | .hardware, kind => kind == .hardware

end BackendChoice

end Nv12Jpeg
