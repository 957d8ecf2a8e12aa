import Rustation.Lib.Word

/-!
The width of a memory access (`Addressable` of `memory/mod.rs` and its three
marker types).
-/

namespace Rustation

/-- The marker types `Byte`, `HalfWord` and `Word`. -/
inductive Width where
  | byte | halfWord | word
  deriving DecidableEq, Repr

/-- The size of the access in bytes. -/
def Width.size : Width → ℕ
  | byte => 1
  | halfWord => 2
  | word => 4

end Rustation
