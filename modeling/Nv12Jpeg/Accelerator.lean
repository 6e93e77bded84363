import Nv12Jpeg.Encoder.Reply
import Nv12Jpeg.FileStore
import Nv12Jpeg.Implementation

/-!
# Accelerator handles

Some implementations work through a device that the application opens for them.

* `Accelerator.openFor` opens what a device interface asks for, which may be nothing;
* `Accelerator.openRenderNode` opens a render node under a path.
-/

namespace Nv12Jpeg

/-- An open device. -/
structure Accelerator where
  mode : Acceleration
  path : String
  device : Location
  deriving DecidableEq, Repr

namespace Accelerator

/-- The render node used where no other is named. -/
def defaultRenderNode : String := "/dev/dri/renderD128"

/-- Opens a render node for reading and writing. -/
def openRenderNode (store : FileStore) (path : String) : Except EncoderError Accelerator :=
  match store.openDevice path with
  | .ok device => .ok ⟨.vaapi, path, device⟩
  | .error error =>
    .error (.unsupportedConfig s!"failed to open render node {path}: {error.message}")

/-- Opens what a device interface asks for. -/
def openFor (store : FileStore) : Acceleration → Except EncoderError (Option Accelerator)
  | .none => .ok none
  | .vaapi => some <$> openRenderNode store defaultRenderNode

/-- Whether the device is a regular file of the store. -/
def isFile (accelerator : Accelerator) (store : FileStore) : Bool :=
  match store.find? accelerator.device with
  | some (.file _) => true
  | _ => false

end Accelerator

end Nv12Jpeg
