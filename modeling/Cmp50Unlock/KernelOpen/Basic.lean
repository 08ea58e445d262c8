/-!
# PCI devices

What the patches of the kernel module read of a `pci_dev`.
-/

namespace Cmp50Unlock.KernelOpen

/-- The identity of a `pci_dev`. -/
structure PciDev where
  vendor : BitVec 16
  device : BitVec 16
  subsystemVendor : BitVec 16
  subsystemDevice : BitVec 16
  deriving DecidableEq

/-- `PCI_VENDOR_ID_NVIDIA` -/
def pciVendorIdNvidia : BitVec 16 := 0x10DE

/-- `nv_cmp50hx_is_supported`, for a device that is there; the two other patches test the same identities. -/
def cmp50hxIsSupported (gpu : PciDev) : Bool :=
  gpu.vendor == pciVendorIdNvidia &&
    gpu.device == 0x1E09 &&
    ((gpu.subsystemVendor == pciVendorIdNvidia && gpu.subsystemDevice == 0x1554) ||
      (gpu.subsystemVendor == 0x1462 && gpu.subsystemDevice == 0x371F))

end Cmp50Unlock.KernelOpen
