import Cmp50Unlock.Verify.Probe
import Cmp50Unlock.Verify.Verdict

/-!
# A card that passes
-/

namespace Cmp50Unlock.Verify

open Lib

/-- The `ioctl` did not fail, and RM returned success. -/
def Reply.Succeeded {α : Type} (r : Reply α) : Prop := r.error = none ∧ r.status = 0

/-- The value of an entry that was asked for. -/
def infoValue {n : Nat} (items : Vector Info n) (index : NvU32) : Option NvU32 :=
  ((items.toList.take 4).find? (·.index = index)).map Info.data

/-- What RM answers to the controls of one card. -/
abbrev Answers := (c : Control) → Reply c.Params

namespace Answers

variable (answers : Answers)

def gpuInfo : Reply GpuInfo := answers (.gpuInfo gpuInfoRequest)

def grInfo : Reply GrInfo := answers (.grInfo grInfoRequest)

/-- RM keeps the indices of the entries that it is asked for. -/
structure KeepsIndices : Prop where
  gpu : (answers.gpuInfo.value.list.toList.take 4).map Info.index = (gpuInfoRequest.list.toList.take 4).map Info.index
  gr : (answers.grInfo.value.toList.take 4).map Info.index = (grInfoRequest.toList.take 4).map Info.index

/-- All controls that count succeeded, with the values of an unlocked card. -/
structure Passes : Prop where
  v1 : (answers .issueRate).Succeeded
  v1_full : ∀ value ∈ (answers .issueRate).value.values.toList, value = 0
  v2 : (answers .issueRateV2).Succeeded
  v2_count : (answers .issueRateV2).value.listSize = 8
  v2_full : ∀ item ∈ (answers .issueRateV2).value.list.toList.take 8, item.data = 0
  gpu : answers.gpuInfo.Succeeded
  cmp_sku : infoValue answers.gpuInfo.value.list 0x3c = some 1
  display_enabled : infoValue answers.gpuInfo.value.list 0x34 = some 0
  gr : answers.grInfo.Succeeded
  gpu_cores : infoValue answers.grInfo.value 0x1d = some 3584
  rt_cores : infoValue answers.grInfo.value 0x22 = some 56
  tensor_cores : infoValue answers.grInfo.value 0x23 = some 448

/-- Every control is answered by `answers`. -/
def Step : (o : RmOp) → Unit → o.Ans → Unit → Prop
  | .control _ _ _ c, _, a, _ => a = answers c
  | _, _, _, _ => True

end Answers

end Cmp50Unlock.Verify
