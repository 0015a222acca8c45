import Sysal.Model.Values

/-!
# The software stack

Drivers, runtimes, compilers, libraries and the accelerator and communication stacks.
-/

namespace Sysal

structure Driver where
  id : DriverId := 0
  name : Bytes := []
  version : Bytes := []
  loaded : Bool := false
  path : Bytes := []
  deriving DecidableEq, Inhabited

structure Runtime where
  name : Bytes := []
  version : Bytes := []
  path : Bytes := []
  envVar : Bytes := []
  deriving DecidableEq, Inhabited

structure Compiler where
  name : Bytes := []
  version : Bytes := []
  path : Bytes := []
  target : Bytes := []
  deriving DecidableEq, Inhabited

structure Library where
  name : Bytes := []
  version : Bytes := []
  path : Bytes := []
  kind : Bytes := []
  deriving DecidableEq, Inhabited

structure Cuda where
  version : Bytes := []
  driverVersion : Bytes := []
  nvccPath : Bytes := []
  home : Bytes := []
  deriving DecidableEq, Inhabited

structure Rocm where
  version : Bytes := []
  hipPath : Bytes := []
  rocmPath : Bytes := []
  deriving DecidableEq, Inhabited

structure LevelZero where
  version : Bytes := []
  loaderPath : Bytes := []
  deriving DecidableEq, Inhabited

structure Mpi where
  implementation : Bytes := []
  version : Bytes := []
  path : Bytes := []
  deriving DecidableEq, Inhabited

structure RdmaStack where
  rdmaCoreVersion : Bytes := []
  ibverbsPath : Bytes := []
  ucxVersion : Bytes := []
  deriving DecidableEq, Inhabited

structure SoftwareStack where
  drivers : List Driver := []
  runtimes : List Runtime := []
  compilers : List Compiler := []
  libraries : List Library := []
  cuda : Option Cuda := none
  rocm : Option Rocm := none
  levelZero : Option LevelZero := none
  mpi : Option Mpi := none
  rdma : Option RdmaStack := none
  deriving DecidableEq, Inhabited

end Sysal
