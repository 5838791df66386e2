import Honeypot.Shell.Context

/-!
# Probes of the machine

The commands that people run to find out whether the device is a virtual machine. They answer as
a real device does. Devices without a PCI bus do not have the programs that read its tables.
-/

namespace Honeypot.Shell

/-- Prints that the device is no virtual machine. -/
def detectVirt : String := "none\n"

/-- Prints the cards on the PCI bus. -/
def lspci (c : Context) (inv : Invocation) : String :=
  if c.device.hasPciBus then Text.block c.device.pciDevices else commandNotFound inv.name

/-! ## The tables of the firmware -/

def biosVersion : String := "1.20.0"

/-- The day on which the firmware was made. -/
def biosDate : String := "06/01/2021"

def systemSerial : String := "7XK2Q52"

def boardName : String := "0C96W1"

def systemUuid : String := "4c4c4544-0058-4b10-8032-b7c04f513532"

/-- The entries of the tables that can be asked for by a keyword. -/
def firmwareEntries (p : Persona) : List (String × String) := [
  ("bios-vendor", p.firmwareVendor),
  ("bios-version", biosVersion),
  ("bios-release-date", biosDate),
  ("system-manufacturer", p.vendor),
  ("system-product-name", p.model),
  ("system-version", "Not Specified"),
  ("system-serial-number", systemSerial),
  ("system-uuid", systemUuid),
  ("baseboard-manufacturer", p.vendor),
  ("baseboard-product-name", boardName),
  ("chassis-type", "Mini Tower")]

/-- The entry of a keyword. -/
def firmwareValue? (p : Persona) (keyword : String) : Option String :=
  (firmwareEntries p).lookup keyword

/-- The list of the keywords under a heading that calls them by a given name. -/
def keywordHelp (p : Persona) (label : String) : String :=
  "Valid " ++ label ++ " keywords are:\n" ++
    Text.block ((firmwareEntries p).map fun (keyword, _) => "  " ++ keyword)

/-- The tables of the firmware in full. -/
def firmwareTables (p : Persona) : String := Text.block [
  "# dmidecode 3.2",
  "Getting SMBIOS data from sysfs.",
  "SMBIOS 3.1.1 present.",
  "Table at 0x000E0000.",
  "",
  "Handle 0x0000, DMI type 0, 26 bytes",
  "BIOS Information",
  "\tVendor: " ++ p.firmwareVendor,
  "\tVersion: " ++ biosVersion,
  "\tRelease Date: " ++ biosDate,
  "\tAddress: 0xF0000",
  "\tRuntime Size: 64 kB",
  "\tROM Size: 16 MB",
  "\tCharacteristics:",
  "\t\tPCI is supported",
  "\t\tPNP is supported",
  "\t\tBIOS is upgradeable",
  "\t\tBIOS shadowing is allowed",
  "\t\tBoot from CD is supported",
  "\t\tSelectable boot is supported",
  "\t\tACPI is supported",
  "\t\tUSB legacy is supported",
  "\t\tUEFI is supported",
  "\tBIOS Revision: 1.20",
  "",
  "Handle 0x0001, DMI type 1, 27 bytes",
  "System Information",
  "\tManufacturer: " ++ p.vendor,
  "\tProduct Name: " ++ p.model,
  "\tVersion: Not Specified",
  "\tSerial Number: " ++ systemSerial,
  "\tUUID: " ++ systemUuid,
  "\tWake-up Type: Power Switch",
  "\tSKU Number: 085A",
  "\tFamily: OptiPlex",
  "",
  "Handle 0x0002, DMI type 2, 15 bytes",
  "Base Board Information",
  "\tManufacturer: " ++ p.vendor,
  "\tProduct Name: " ++ boardName,
  "\tVersion: A00",
  "\tSerial Number: /" ++ systemSerial ++ "/CNWS20089D00LC/",
  "\tFeatures:",
  "\t\tBoard is a hosting board",
  "\t\tBoard is replaceable",
  "\tType: Motherboard",
  "",
  "Handle 0x0003, DMI type 3, 22 bytes",
  "Chassis Information",
  "\tManufacturer: " ++ p.vendor,
  "\tType: Mini Tower",
  "\tLock: Not Present",
  "\tSerial Number: " ++ systemSerial,
  "\tBoot-up State: Safe",
  "\tPower Supply State: Safe",
  "\tThermal State: Safe",
  "",
  "Handle 0x0004, DMI type 4, 48 bytes",
  "Processor Information",
  "\tSocket Designation: CPU 1",
  "\tType: Central Processor",
  "\tFamily: Core i5",
  "\tManufacturer: Intel(R) Corporation",
  "\tVersion: " ++ p.cpuModel,
  "\tMax Speed: 4100 MHz",
  "\tCurrent Speed: 3000 MHz",
  "\tCore Count: " ++ Text.ofInt p.cpuCores,
  "\tThread Count: " ++ Text.ofInt p.cpuCores]

/-- Prints the tables of the firmware or one of their entries. -/
def dmidecode (c : Context) (inv : Invocation) : String :=
  let p := c.device
  if !p.hasPciBus then commandNotFound inv.name
  else if !c.isRoot then
    Text.block [
      "/sys/firmware/dmi/tables/smbios_entry_point: Permission denied",
      "Scanning /dev/mem for entry point.",
      "/dev/mem: Permission denied"]
  else if inv.hasFlag "-s" || inv.hasFlag "--string" then
    match (optionValue? "-s" inv.tokens).or (optionValue? "--string" inv.tokens) with
    | none => "dmidecode: option requires an argument -- 's'\n" ++ keywordHelp p "String"
    | some keyword =>
      match firmwareValue? p keyword with
      | none => "Invalid string keyword: " ++ keyword ++ "\n" ++ keywordHelp p "string"
      | some value => value ++ "\n"
  else firmwareTables p

/-! ## The messages of the kernel -/

/-- The messages of a device with a PCI bus. -/
def pciMessages (p : Persona) (release : String) : List String := [
  "Command line: BOOT_IMAGE=/vmlinuz-" ++ release ++ " root=" ++ p.rootDevice ++ " ro quiet splash",
  "x86/fpu: Supporting XSAVE feature 0x001: 'x87 floating point registers'",
  "BIOS-provided physical RAM map:",
  "BIOS-e820: [mem 0x0000000000000000-0x0000000000057fff] usable",
  "DMI: " ++ p.vendor ++ " " ++ p.model ++ "/" ++ boardName ++ ", BIOS " ++ biosVersion ++ " " ++
    biosDate,
  "tsc: Detected 3000.000 MHz processor",
  "ACPI: RSDP 0x00000000000F0490 000024 (v02 DELL  )",
  "smpboot: CPU0: " ++ p.cpuModel ++ " (family: 0x6, model: 0x9e, stepping: 0xa)",
  "smp: Brought up 1 node, " ++ Text.ofInt p.cpuCores ++ " CPUs",
  "PCI: Using configuration type 1 for base access",
  "e1000e 0000:00:1f.6 eth0: (PCI Express:2.5GT/s:Width x1) " ++ p.macAddress,
  "EXT4-fs (" ++ Path.nameText p.rootDevice ++
    "): mounted filesystem with ordered data mode. Opts: (null)",
  "e1000e 0000:00:1f.6 eth0: NIC Link is Up 1000 Mbps Full Duplex, Flow Control: Rx/Tx"]

def mipsMessages (p : Persona) : List String := [
  "SoC Type: " ++ p.hardware ++ " ver:1 eco:3",
  "bootconsole [early0] enabled",
  "CPU0 revision is: 0001992f (" ++ p.cpuModel ++ ")",
  "MIPS: machine is " ++ p.model,
  "Determined physical RAM map:",
  "Primary instruction cache 32kB, VIPT, 4-way, linesize 32 bytes.",
  "mtk_soc_eth 1e100000.ethernet eth0: mediatek frame engine at 0xbe100000, irq 21",
  "mtk_soc_eth 1e100000.ethernet eth0: port 0 link up"]

def armMessages (p : Persona) : List String := [
  "Booting Linux on physical CPU 0x0",
  "CPU: " ++ p.cpuModel,
  "OF: fdt: Machine model: " ++ p.model,
  "Memory policy: Data cache writealloc",
  "smp: Brought up 1 node, " ++ Text.ofInt p.cpuCores ++ " CPUs",
  "bcm2835-dma 3f007000.dma: DMA legacy API manager, dmachans=0x1",
  "mmc0: host does not support reading read-only switch, assuming write-enable",
  "EXT4-fs (mmcblk0p2): mounted filesystem with ordered data mode. Opts: (null)",
  "smsc95xx 1-1.1:1.0 eth0: register 'smsc95xx' at usb-3f980000.usb-1.1, " ++
    "smsc95xx USB 2.0 Ethernet, " ++ p.macAddress,
  "smsc95xx 1-1.1:1.0 eth0: link up, 100Mbps, full-duplex, lpa 0xCDE1"]

/-- The seconds from the start of the device to a message. -/
def messageSeconds (index : Nat) : Float :=
  if index < 4 then 0.0
  else Float.ofNat index * 0.731 + Float.ofNat (index * index) * 0.113

/-- The messages of the kernel with their times. -/
def kernelMessages (p : Persona) : Except Fault (List String) :=
  match p.kernelRelease? with
  | none => .error .shortKernel
  | some release =>
    let first :=
      "Linux version " ++ release ++ " (gcc version 10.2.1 20210110) " ++ p.kernelVersion
    let rest :=
      if p.hasPciBus then pciMessages p release
      else if p.isMips then mipsMessages p
      else armMessages p
    .ok ((first :: rest).mapIdx fun index message =>
      "[" ++ Text.padLeft 12 (Number.fixed 6 (messageSeconds index)) ++ "] " ++ message)

/-- Prints the messages of the kernel. -/
def dmesg (c : Context) : Except Fault String :=
  if c.isRoot then (kernelMessages c.device).map Text.block
  else .ok "dmesg: read kernel buffer failed: Operation not permitted\n"

end Honeypot.Shell
