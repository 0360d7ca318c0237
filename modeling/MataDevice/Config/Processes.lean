import MataDevice.Config.Items

/-!
# The processes of a configuration file

A configuration file describes processes, each by a block of parameters that begins with its name.
`loc_read_process_conf` reads the file three times: for the modes of the location features, to count
the names, and for the parameters of each process. The values of all these reads go to one static
structure, `conf`, which is not cleared between them.

`conf` is modelled by the tables of parameters that point to its members.
-/

namespace MataDevice.Config

open MataDevice.Format (bytes)

/-! ## The tables -/

section

variable (F : Type)

def stringParam (name : String) : LocParam F :=
  ⟨bytes name.toList, some (.string []), none, 's'⟩

def numberParam (name : String) : LocParam F :=
  ⟨bytes name.toList, some (.number 0), none, 'n'⟩

/-- `gps_conf_parameter_table` for a structure `conf` that is all zero -/
def gpsConfParameterTable : List (LocParam F) := [numberParam F "SGLTE_TARGET"]

/-- `loc_feature_conf_table` -/
def locFeatureConfTable : List (LocParam F) :=
  [stringParam F "GTP_MODE", stringParam F "GTP_WAA", stringParam F "SAP", stringParam F "ODCPI",
    stringParam F "FREE_WIFI_SCAN_INJECT", stringParam F "SUPL_WIFI",
    stringParam F "WIFI_SUPPLICANT_INFO"]

/-- `loc_process_conf_parameter_table` -/
def locProcessConfParameterTable : List (LocParam F) :=
  [stringParam F "PROCESS_NAME", stringParam F "PROCESS_ARGUMENT", stringParam F "PROCESS_STATE",
    stringParam F "PROCESS_GROUPS", numberParam F "PREMIUM_FEATURE",
    numberParam F "IZAT_FEATURE_MASK", stringParam F "PLATFORMS", stringParam F "SOC_IDS",
    stringParam F "BASEBAND", stringParam F "LOW_RAM_TARGETS", stringParam F "HARDWARE_TYPE",
    numberParam F "VENDOR_ENHANCED_PROCESS"]

/-- The members of `conf`, by table -/
structure LocLauncherConf where
  gps : List (LocParam F)
  feature : List (LocParam F)
  process : List (LocParam F)

end

section

variable {F : Type}

/-- The string that the parameter of a name points to -/
def stringOf (table : List (LocParam F)) (name : String) : List UInt8 :=
  match table.find? fun entry ↦ entry.paramName = bytes name.toList with
  | some ⟨_, some (.string value), _, _⟩ => value
  | _ => []

/-- The number that the parameter of a name points to -/
def numberOf (table : List (LocParam F)) (name : String) : Int32 :=
  match table.find? fun entry ↦ entry.paramName = bytes name.toList with
  | some ⟨_, some (.number value), _, _⟩ => value
  | _ => 0

/-- Ends the strings of some parameters as `f` says. -/
def mapStrings (f : List UInt8 → List UInt8) (names : List String) (table : List (LocParam F)) :
    List (LocParam F) :=
  table.map fun entry ↦
    if entry.paramName ∈ names.map fun name ↦ bytes name.toList then
      { entry with paramPtr := entry.paramPtr.map fun
        | .string value => .string (f value)
        | var => var }
    else entry

end

/-! ## The features -/

section

variable {F : Type} (feature : List (LocParam F))

/-- The mode of a feature is this text. -/
def hasMode (name mode : String) : Bool := stringOf feature name = bytes mode.toList

/-- The mask for a feature that is basic whenever it is on -/
def basicMask (name : String) (mask : UInt32) : UInt32 :=
  if hasMode feature name "BASIC" then mask
  else if hasMode feature name "DISABLED" then 0
  else if hasMode feature name "PREMIUM" then mask
  else 0

/-- `loc_service_mask` -/
def locServiceMask : UInt32 :=
  (if hasMode feature "GTP_MODE" "DISABLED" then 0
    else if hasMode feature "GTP_MODE" "LEGACY_WWAN" then 0x400
    else if hasMode feature "GTP_MODE" "SDK" then 0x01
    else if hasMode feature "GTP_MODE" "SDK_WIFI" then 0x01
    else 0) |||
  (if hasMode feature "GTP_WAA" "BASIC" then 0x100 else 0) |||
  (if hasMode feature "SAP" "PREMIUM" || hasMode feature "SAP" "PREMIUM_ENV_AIDING" then 0x80
    else if hasMode feature "SAP" "BASIC" then 0x40
    else if hasMode feature "SAP" "MODEM_DEFAULT" then 0x40
    else if hasMode feature "SAP" "DISABLED" then 0
    -- a garbage value
    else 0x40) |||
  basicMask feature "ODCPI" 0x1000 |||
  basicMask feature "FREE_WIFI_SCAN_INJECT" 0x2000 |||
  basicMask feature "SUPL_WIFI" 0x4000 |||
  basicMask feature "WIFI_SUPPLICANT_INFO" 0x8000

end

/-! ## A process -/

/-- `loc_process_e_status` -/
inductive LocProcessStatus
  | enabled
  | running
  | disabled
  | disabledFromConf
  | disabledViaVendorEnhancedCheck
  deriving DecidableEq, Repr

/-- `loc_process_info_s_type`, as far as it is filled: the strings of `args` after the last one here
are empty. -/
structure LocProcessInfo where
  procStatus : LocProcessStatus
  name : List UInt8
  groupList : List UInt32
  args : List (List UInt8)
  argumentString : List UInt8
  deriving DecidableEq, Repr

/-- What the system says of itself -/
structure Device where
  platformName : List UInt8
  basebandName : List UInt8
  autoplatformName : List UInt8
  socidValue : List UInt8
  lowRamTarget : Bool
  isXtraDaemonEnabled : Bool
  isVendorEnhanced : Bool
  getgrnam : List UInt8 → Option UInt32

/-- `loc_util_split_string` for at least one string: the strings, of which the first is what becomes
of the one that is split. -/
def locUtilSplitString (rawString : List UInt8) (maxNumSubstrings : ℕ) (delimiter : UInt8) :
    List (List UInt8) :=
  (rawString.splitOn delimiter).take maxNumSubstrings

/-- The bits that a list of targets sets in `config_mask`: of `all` with exceptions, or of single
ones -/
def targetMask (all found : UInt8) (strings : List (List UInt8)) (isTarget : List UInt8 → Bool)
    (isExcluded : List UInt8 → Bool) : UInt8 :=
  if strings[0]? = some (bytes "all".toList) then
    let exclude := strings[1]? = some (bytes "exclude".toList)
    if strings.length = 1 ∨ strings.length = 2 ∧ exclude then all
    else if 2 < strings.length ∧ exclude then
      if (strings.drop 2).any isExcluded then 0 else found
    else 0
  else if strings.any isTarget then found
  else 0

/-- The arguments for a feature of a process, by its mode -/
def featureArgs (locFeatureMask locServiceMask : UInt32) (arg : String)
    (feature basic premium : UInt32) : List (List UInt8) :=
  if locFeatureMask &&& feature ≠ 0 then
    [bytes "--".toList ++ bytes arg.toList,
      if locServiceMask &&& basic ≠ 0 then bytes "BASIC".toList
      else if locServiceMask &&& premium ≠ 0 then bytes "PREMIUM".toList
      else bytes "DISABLED".toList]
  else []

section

variable {F : Type} (device : Device) (sglteTarget : Int32) (locServiceMask : UInt32)

/-- `config_mask` -/
def configMask (conf : List (LocParam F)) : UInt8 :=
  let strings (name : String) : List (List UInt8) := locUtilSplitString (stringOf conf name) 20 32
  let autoPlatform := strings "HARDWARE_TYPE"
  targetMask 0x01 0x02 (strings "PLATFORMS") (· == device.platformName)
      (· == device.platformName) |||
    targetMask 0x40 0x80 (strings "SOC_IDS") (· == device.socidValue) (· == device.socidValue) |||
    targetMask 0x04 0x08 (strings "BASEBAND")
      (fun string ↦ string == device.basebandName ||
        string == bytes "sglte".toList && sglteTarget != 0)
      (· == device.basebandName) |||
    -- there are no exceptions here
    (if autoPlatform[0]? = some (bytes "all".toList) then 0x10
      else if autoPlatform.any (· == device.autoplatformName) then 0x20
      else 0)

/-- The arguments before those of the configuration file -/
def firstArgs (conf : List (LocParam F)) (name : List UInt8) (isEnabled : Bool) :
    List (List UInt8) :=
  let locFeatureMask := (numberOf conf "IZAT_FEATURE_MASK").toUInt32
  let tempArg := if name[0]? = some 47 then name.rtakeWhile (· ≠ 47) else name
  tempArg.take 31 ::
    if numberOf conf "PREMIUM_FEATURE" ≠ 0 ∧ isEnabled then
      featureArgs locFeatureMask locServiceMask "gtp-wifi" 0x03 0x01 0x02 ++
        featureArgs locFeatureMask locServiceMask "gtp-modem-cell" 0x0c 0x400 0 ++
        featureArgs locFeatureMask locServiceMask "sap" 0xc0 0x40 0x80 ++
        featureArgs locFeatureMask locServiceMask "gtp-waa" 0x100 0x100 0
    else []

/-- The names of the parameters that have to be there -/
def requiredNames : List String :=
  ["PROCESS_NAME", "PROCESS_GROUPS", "PLATFORMS", "BASEBAND", "PROCESS_STATE", "HARDWARE_TYPE",
    "SOC_IDS"]

/-- The names of the parameters that are split where they are -/
def splitNames : List String :=
  ["PROCESS_GROUPS", "PLATFORMS", "SOC_IDS", "BASEBAND", "HARDWARE_TYPE", "LOW_RAM_TARGETS"]

/-- The body of the loop of `loc_read_process_conf` after a block has been read: the entry, and the
parameters after it -/
def fillProcessInfo (conf : List (LocParam F)) : LocProcessInfo × List (LocParam F) :=
  let childProc : LocProcessInfo := ⟨.disabled, [], [], [], []⟩
  let procName := stringOf conf "PROCESS_NAME"
  if requiredNames.any fun name ↦ stringOf conf name = [] then (childProc, conf)
  else if procName = bytes "xtra-daemon".toList ∧ !device.isXtraDaemonEnabled then
    ({ childProc with procStatus := .disabledFromConf }, conf)
  else if !device.isVendorEnhanced ∧ numberOf conf "VENDOR_ENHANCED_PROCESS" ≠ 0 then
    ({ childProc with procStatus := .disabledViaVendorEnhancedCheck }, conf)
  else if hasMode conf "PROCESS_STATE" "DISABLED" then
    ({ childProc with procStatus := .disabledFromConf }, conf)
  else if 172 < procName.length + 1 then (childProc, conf)
  else
    let childProc := { childProc with
      name := procName
      groupList := (locUtilSplitString (stringOf conf "PROCESS_GROUPS") 20 32).filterMap
        device.getgrnam }
    let conf' := mapStrings (·.takeWhile (· ≠ 32)) splitNames conf
    if hasMode conf' "LOW_RAM_TARGETS" "DISABLED" ∧ device.lowRamTarget then (childProc, conf')
    else
      let mask := configMask device sglteTarget conf
      if mask &&& 0x03 ≠ 0 ∧ mask &&& 0x0c ≠ 0 ∧ mask &&& 0x30 ≠ 0 ∧ mask &&& 0xc0 ≠ 0 then
        let isEnabled := numberOf conf "PREMIUM_FEATURE" = 0 ∨
          (numberOf conf "IZAT_FEATURE_MASK").toUInt32 &&& locServiceMask ≠ 0
        let args := firstArgs locServiceMask conf procName isEnabled
        let procArgument := stringOf conf "PROCESS_ARGUMENT"
        let childProc := { childProc with
          procStatus := if isEnabled then .enabled else .disabled
          args := args }
        if procArgument = [] then (childProc, conf')
        else
          let argumentString := procArgument.take 171
          let tempArgs := locUtilSplitString argumentString (25 - args.length) 32
          ({ childProc with
            args := args ++ tempArgs.map (·.take 31)
            argumentString := argumentString.takeWhile (· ≠ 32) }, conf')
      else (childProc, conf')

end

/-! ## The file -/

section

variable {F : Type} (atof : List UInt8 → F) (zero : F)

/-- `loc_read_conf_r` -/
def locReadConfR (confFp : List UInt8) (configTable : List (LocParam F)) :
    Option (List UInt8 × List (LocParam F)) :=
  locReadConfRLong atof zero confFp configTable 172

/-- `UTIL_READ_CONF`, apart from the table of the module -/
def utilReadConf (filename : Option (List UInt8)) (configTable : List (LocParam F)) :
    Option (List (LocParam F)) :=
  match filename with
  | none => some configTable
  | some file => (locReadConfR atof zero file configTable).map Prod.snd

/-- The loop that counts the processes: with one parameter of the table, the name -/
def countProcesses : ℕ → UInt8 → List UInt8 → List (LocParam F) →
    Option (UInt8 × List (LocParam F))
  | 0, _, _, _ => none
  | fuel + 1, procListLength, confFp, process => do
    let process := mapStrings (fun _ ↦ []) ["PROCESS_NAME"] process
    let read ← locReadConfR atof zero confFp (process.take 1)
    let process := read.2 ++ process.drop 1
    if stringOf process "PROCESS_NAME" = [] then some (procListLength, process)
    else countProcesses fuel (procListLength + 1) read.1 process

variable (device : Device) (sglteTarget : Int32) (locServiceMask : UInt32)

/-- The loop that reads the processes -/
def readProcesses : ℕ → List UInt8 → List (LocParam F) →
    Option (List LocProcessInfo × List (LocParam F))
  | 0, _, process => some ([], process)
  | k + 1, confFp, process => do
    let read ← locReadConfR atof zero confFp process
    let filled := fillProcessInfo device sglteTarget locServiceMask read.2
    let rest ← readProcesses k read.1 filled.2
    some (filled.1 :: rest.1, rest.2)

end

/-- `loc_read_process_conf`: the entries, or `none` for a file that cannot be opened, and the
parameters after it. There is no result at all if it does not come to an end. -/
def locReadProcessConf {F : Type} (atof : List UInt8 → F) (zero : F) (device : Device)
    (gpsConf confFile : Option (List UInt8)) (conf : LocLauncherConf F) :
    Option (Option (List LocProcessInfo) × LocLauncherConf F) := do
  let gps ← utilReadConf atof zero gpsConf conf.gps
  let feature ← utilReadConf atof zero confFile conf.feature
  match confFile with
  | none => some (none, ⟨gps, feature, conf.process⟩)
  | some file =>
    let counted ← countProcesses atof zero (file.length + 1) 0 file conf.process
    let read ← readProcesses atof zero device (numberOf gps "SGLTE_TARGET")
      (locServiceMask feature) counted.1.toNat file counted.2
    some (some read.1, ⟨gps, feature, read.2⟩)

end MataDevice.Config
