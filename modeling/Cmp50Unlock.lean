import Cmp50Unlock.CudaSmoke.Theorems
import Cmp50Unlock.IdleGovernor.Publication
import Cmp50Unlock.IdleGovernor.Service
import Cmp50Unlock.IdleGovernor.Startup
import Cmp50Unlock.IdleGovernor.Theorems
import Cmp50Unlock.Install.All.Theorems
import Cmp50Unlock.Install.Governor.Theorems
import Cmp50Unlock.Install.Theorems
import Cmp50Unlock.KernelOpen.Theorems
import Cmp50Unlock.Nvidia.Theorems
import Cmp50Unlock.Scripts.Live
import Cmp50Unlock.Scripts.Reset
import Cmp50Unlock.Scripts.Theorems
import Cmp50Unlock.Scripts.Udev
import Cmp50Unlock.Stockflow.Ownership
import Cmp50Unlock.Stockflow.Theorems
import Cmp50Unlock.Verify.Theorems
import Cmp50Unlock.Lib.Masked
import Cmp50Unlock.Lib.Cost
import Cmp50Unlock.Lib.Script
import Cmp50Unlock.Scripts.SecondPass
import Cmp50Unlock.Scripts.Units
