/-!
# Platforms, capability groups and builds

A platform is one of eight known targets, numbered from 0; any other number is printed as
`platform(n)`. The capability groups of a build are seven flags. A build is selected by tags:
`ifxos_drv` picks the Linux driver-space platform, whose defaults leave terminal control out, and
each `ifxos_no…` tag removes one group. Removing device access also removes device select;
removing sockets also removes shutdown and IPv6.
-/
namespace PlatformLayer

inductive Platform where
  | unknown
  | linuxDriver
  | linuxApplication
  | win32
  | ecos
  | nucleus
  | xapi
  | generic
  deriving DecidableEq, Repr

namespace Platform

def code : Platform → Int
  | .unknown => 0
  | .linuxDriver => 1
  | .linuxApplication => 2
  | .win32 => 3
  | .ecos => 4
  | .nucleus => 5
  | .xapi => 6
  | .generic => 7

def ofCode? : Int → Option Platform
  | 0 => some .unknown
  | 1 => some .linuxDriver
  | 2 => some .linuxApplication
  | 3 => some .win32
  | 4 => some .ecos
  | 5 => some .nucleus
  | 6 => some .xapi
  | 7 => some .generic
  | _ => none

def name : Platform → String
  | .unknown => "unknown"
  | .linuxDriver => "linux-drv"
  | .linuxApplication => "linux-appl"
  | .win32 => "win32"
  | .ecos => "ecos"
  | .nucleus => "nucleus"
  | .xapi => "xapi"
  | .generic => "generic"

def hasVirtualMemory : Platform → Bool
  | .linuxDriver | .linuxApplication | .win32 | .generic => true
  | _ => false

end Platform

/-- The printed name of a platform number: known numbers by name, others as `platform(n)`. -/
def platformName (n : Int) : String :=
  match Platform.ofCode? n with
  | some p => p.name
  | none => "platform(" ++ toString n ++ ")"

def platformHasVirtualMemory (n : Int) : Bool :=
  match Platform.ofCode? n with
  | some p => p.hasVirtualMemory
  | none => false

structure Features where
  device : Bool := true
  deviceSelect : Bool := true
  socket : Bool := true
  socketShutdown : Bool := true
  ipv6 : Bool := true
  termios : Bool := true
  misc : Bool := true
  deriving DecidableEq, Repr

namespace Features

def all : Features := {}

/-- The printed form `device=… device-select=… socket=… socket-shutdown=… ipv6=… termios=… misc=…`. -/
def render (f : Features) : String :=
  "device=" ++ toString f.device ++ " device-select=" ++ toString f.deviceSelect ++
  " socket=" ++ toString f.socket ++ " socket-shutdown=" ++ toString f.socketShutdown ++
  " ipv6=" ++ toString f.ipv6 ++ " termios=" ++ toString f.termios ++ " misc=" ++ toString f.misc

end Features

inductive BuildTag where
  | driverSpace
  | noDevice
  | noDeviceSelect
  | noSocket
  | noShutdown
  | noIpv6
  deriving DecidableEq, Repr

namespace BuildTag

def spelling : BuildTag → String
  | .driverSpace => "ifxos_drv"
  | .noDevice => "ifxos_nodevice"
  | .noDeviceSelect => "ifxos_nodevselect"
  | .noSocket => "ifxos_nosocket"
  | .noShutdown => "ifxos_noshutdown"
  | .noIpv6 => "ifxos_noipv6"

def all : List BuildTag := [.driverSpace, .noDevice, .noDeviceSelect, .noSocket, .noShutdown, .noIpv6]

def ofSpelling? (s : String) : Option BuildTag := all.find? (·.spelling == s)

end BuildTag

structure Build where
  tags : List BuildTag := []
  deriving DecidableEq, Repr

namespace Build

def standard : Build := {}

def has (b : Build) (t : BuildTag) : Bool := b.tags.contains t

def platform (b : Build) : Platform :=
  if b.has .driverSpace then .linuxDriver else .linuxApplication

def defaults : Platform → Features
  | .linuxDriver => { termios := false }
  | _ => {}

/-- The groups of the build: the platform's defaults less what its tags remove. -/
def features (b : Build) : Features :=
  let d := defaults b.platform
  let device := d.device && !b.has .noDevice
  let socket := d.socket && !b.has .noSocket
  { device := device
    deviceSelect := d.deviceSelect && !b.has .noDeviceSelect && device
    socket := socket
    socketShutdown := d.socketShutdown && !b.has .noShutdown && socket
    ipv6 := d.ipv6 && !b.has .noIpv6 && socket
    termios := d.termios
    misc := d.misc }

def copiesThroughProcess (b : Build) : Bool := b.has .driverSpace

def published : List (List BuildTag) :=
  [[.driverSpace], [.noDevice], [.noDeviceSelect], [.noSocket], [.noShutdown], [.noIpv6],
   [.driverSpace, .noIpv6], [.noDevice, .noDeviceSelect, .noSocket, .noShutdown, .noIpv6]]

/-- Why a tag list names no build: a word that is no tag, or tags that no build was made
with. -/
inductive TagListError where
  | unknownTag
  | notBuilt
  deriving DecidableEq, Repr

/-- The published build named by a comma-separated tag list. The tags must be written in the
order the build was made with. -/
def ofTagList (text : String) : Except TagListError Build :=
  match (text.splitOn ",").mapM BuildTag.ofSpelling? with
  | some tags => if published.contains tags then .ok ⟨tags⟩ else .error .notBuilt
  | none => .error .unknownTag

theorem features_standard : standard.features = Features.all := rfl

end Build

end PlatformLayer
