import Microbatch.Fault.Basic
import Microbatch.Graph

set_option relaxedAutoImplicit false
set_option autoImplicit false

/-!
# Devices and backends

A device holds a compiled graph. It is attached before use, takes weights and an optimizer from the
host, runs micro-batches, and hands its weights back. Every operation returns the device as it is
afterwards, also when it fails.

## Main definitions

* `Microbatch.Device` — the operations of a device.
* `Microbatch.Backend` — what compiles graphs for devices of one type.
-/

namespace Microbatch

/-- **The operations of a device.** -/
class Device (D : Type) where
  /-- Where the device runs. -/
  target : D → Target
  /-- What its graph takes and gives. -/
  signature : D → Signature
  /-- Attaches the hardware. -/
  acquire : D → Except DeviceFault Unit × D
  /-- Detaches the hardware. -/
  release : D → D
  /-- Takes the weights of the host. -/
  writeWeights : WeightStore → D → Except DeviceFault Unit × D
  /-- Hands the weights back. -/
  readWeights : D → Except DeviceFault WeightStore × D
  /-- Takes the optimizer of the host. -/
  writeOptimizer : Optimizer → D → Except DeviceFault Unit × D
  /-- Runs one micro-batch on named inputs and returns the wanted tensors in order. -/
  execute : List (String × Tensor) → List String → D → Except DeviceFault (List Tensor) × D

/-- **What compiles graphs** for devices of one type. -/
structure Backend (D : Type) where
  /-- The name of the backend. -/
  name : String
  /-- Whether its devices can train. -/
  supportsTraining : Bool
  /-- Into how many parts its simulator can be split. -/
  maxPartitions : Nat
  /-- Compiles a graph for a target. -/
  compile : Graph → Kind → Target → Except ModelFault D

end Microbatch
