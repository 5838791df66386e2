import Honeypot.Persona.Basic

/-!
# The personas that are shipped

Three devices: a single-board computer, a server and a camera. An unknown name stands for the
first of them.
-/

namespace Honeypot.Persona

def raspbianRelease : String := Text.block [
  "PRETTY_NAME=\"Raspbian GNU/Linux 11 (bullseye)\"",
  "NAME=\"Raspbian GNU/Linux\"",
  "VERSION_ID=\"11\"",
  "VERSION=\"11 (bullseye)\"",
  "VERSION_CODENAME=bullseye",
  "ID=raspbian",
  "ID_LIKE=debian",
  "HOME_URL=\"http://www.raspbian.org/\"",
  "SUPPORT_URL=\"http://www.raspbian.org/RaspbianForums\"",
  "BUG_REPORT_URL=\"http://www.raspbian.org/RaspbianBugs\""]

def ubuntuRelease : String := Text.block [
  "NAME=\"Ubuntu\"",
  "VERSION=\"20.04.3 LTS (Focal Fossa)\"",
  "ID=ubuntu",
  "ID_LIKE=debian",
  "PRETTY_NAME=\"Ubuntu 20.04.3 LTS\"",
  "VERSION_ID=\"20.04\"",
  "HOME_URL=\"https://www.ubuntu.com/\"",
  "SUPPORT_URL=\"https://help.ubuntu.com/\"",
  "BUG_REPORT_URL=\"https://bugs.launchpad.net/ubuntu/\"",
  "PRIVACY_POLICY_URL=\"https://www.ubuntu.com/legal/terms-and-policies/privacy-policy\"",
  "VERSION_CODENAME=focal",
  "UBUNTU_CODENAME=focal"]

def openWrtRelease : String := Text.block [
  "NAME=\"OpenWrt\"",
  "VERSION=\"19.07.7\"",
  "ID=\"openwrt\"",
  "ID_LIKE=\"lede openwrt\"",
  "PRETTY_NAME=\"OpenWrt 19.07.7\"",
  "VERSION_ID=\"19.07.7\"",
  "HOME_URL=\"https://openwrt.org/\"",
  "BUG_URL=\"https://bugs.openwrt.org/\"",
  "SUPPORT_URL=\"https://forum.openwrt.org/\"",
  "BUILD_ID=\"r11306-c4a6851c72\"",
  "OPENWRT_BOARD=\"ramips/mt7621\"",
  "OPENWRT_ARCH=\"mipsel_24kc\""]

/-- A single-board computer. -/
def raspberryPi : Persona where
  name := "raspberry-pi"
  hostname := "raspberrypi"
  defaultUser := "root"
  homeUser := "pi"
  architecture := "armv7l"
  kernel :=
    "Linux raspberrypi 5.10.63-v7l+ #1459 SMP Wed Oct 6 16:41:57 BST 2021 armv7l GNU/Linux"
  ipAddress := "192.168.1.47"
  macAddress := "b8:27:eb:3a:12:34"
  osName := "Raspbian GNU/Linux 11 (bullseye)"
  osRelease := raspbianRelease
  cpuModel := "ARMv7 Processor rev 4 (v7l)"
  cpuCores := 4
  hardware := "BCM2835"
  model := "Raspberry Pi 3 Model B Rev 1.2"
  vendor := "Raspberry Pi Foundation"
  memTotalKb := 949248
  swapTotalKb := 102396
  diskRootKb := 30185472
  rootDevice := "/dev/root"
  bootDevice? := some "/dev/mmcblk0p1"
  biosVendor? := none
  pciDevices := []

/-- A server with a PCI bus. -/
def ubuntuServer : Persona where
  name := "ubuntu-server"
  hostname := "ubuntu-server"
  defaultUser := "admin"
  homeUser := "admin"
  architecture := "x86_64"
  kernel :=
    "Linux ubuntu-server 5.4.0-84-generic #94-Ubuntu SMP Thu Aug 26 20:27:37 UTC 2021 x86_64 " ++
    "x86_64 x86_64 GNU/Linux"
  ipAddress := "192.168.1.152"
  macAddress := "d8:9e:f3:4a:7c:21"
  osName := "Ubuntu 20.04.3 LTS"
  osRelease := ubuntuRelease
  cpuModel := "Intel(R) Core(TM) i5-8500 CPU @ 3.00GHz"
  cpuCores := 6
  hardware := "Intel Q370"
  model := "OptiPlex 7060"
  vendor := "Dell Inc."
  memTotalKb := 16318412
  swapTotalKb := 2097148
  diskRootKb := 479152840
  rootDevice := "/dev/sda2"
  bootDevice? := some "/dev/sda1"
  biosVendor? := some "Dell Inc."
  pciDevices := [
    "00:00.0 Host bridge: Intel Corporation 8th Gen Core Processor Host Bridge/DRAM " ++
      "Registers (rev 07)",
    "00:02.0 VGA compatible controller: Intel Corporation UHD Graphics 630 (Desktop)",
    "00:14.0 USB controller: Intel Corporation Cannon Lake PCH USB 3.1 xHCI Host " ++
      "Controller (rev 10)",
    "00:14.2 RAM memory: Intel Corporation Cannon Lake PCH Shared SRAM (rev 10)",
    "00:16.0 Communication controller: Intel Corporation Cannon Lake PCH HECI Controller " ++
      "(rev 10)",
    "00:17.0 SATA controller: Intel Corporation Cannon Lake PCH SATA AHCI Controller (rev " ++
      "10)",
    "00:1f.0 ISA bridge: Intel Corporation Q370 Chipset LPC/eSPI Controller (rev 10)",
    "00:1f.3 Audio device: Intel Corporation Cannon Lake PCH cAVS (rev 10)",
    "00:1f.4 SMBus: Intel Corporation Cannon Lake PCH SMBus Controller (rev 10)",
    "00:1f.5 Serial bus controller [0c80]: Intel Corporation Cannon Lake PCH SPI " ++
      "Controller (rev 10)",
    "00:1f.6 Ethernet controller: Intel Corporation Ethernet Connection (7) I219-LM (rev " ++
      "10)"]

/-- A camera. -/
def genericIot : Persona where
  name := "generic-iot"
  hostname := "camera01"
  defaultUser := "admin"
  homeUser := "admin"
  architecture := "mips"
  kernel := "Linux camera01 4.9.140 #1 SMP PREEMPT Mon Jul 15 10:23:45 CST 2019 mips GNU/Linux"
  ipAddress := "192.168.1.198"
  macAddress := "c0:56:e3:5b:1e:08"
  osName := "OpenWrt 19.07.7"
  osRelease := openWrtRelease
  cpuModel := "MIPS 1004Kc V2.15"
  cpuCores := 2
  hardware := "MediaTek MT7621"
  model := "Generic IoT Device"
  vendor := "MediaTek"
  memTotalKb := 250880
  swapTotalKb := 0
  diskRootKb := 14336
  rootDevice := "/dev/root"
  bootDevice? := none
  biosVendor? := none
  pciDevices := []

def catalogue : List Persona := [raspberryPi, ubuntuServer, genericIot]

/-- The persona that stands in for an unknown one. -/
def standard : Persona := raspberryPi

def ofName (name : String) : Persona := (catalogue.find? (·.name == name)).getD standard

end Honeypot.Persona
