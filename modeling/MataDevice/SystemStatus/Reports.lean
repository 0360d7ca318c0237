import MataDevice.SystemStatus.NetworkInfo

/-!
# The reports of the system status

`SystemStatus` has a list of reports for each kind of data item it records. `eventDataItemNotify`
makes a report of the item it is given and hands it to the list for the id of the item, which drops
it when `equals` does not tell it from the newest one. Only the reports of networks are collated
with the newest one before, and no kind ignores reports.

A report is made of a copy of the item, and what the list keeps is another copy, of the report. For
most kinds the copies are the same as what is copied. The items of the radio interface have a
pointer to their data, which `setPeerData` of the item copies. Items of the library do that, but a
report has the function of the base class, which does nothing. What the library puts into the
pointer of the copy is a parameter, `setPeerData`.

The type of a network is one of its enumerators here.
-/

namespace MataDevice.SystemStatus

/-! ## Data items -/

structure AirplaneModeDataItemBase where
  mMode : Bool
  deriving DecidableEq, Repr

/-- The items of which there is a setting. -/
structure EnabledDataItemBase where
  mEnabled : Bool
  deriving DecidableEq, Repr

/-- The items of which there is a state. -/
structure StateDataItemBase where
  mState : Bool
  deriving DecidableEq, Repr

/-- `TimeZoneChangeDataItemBase` and `TimeChangeDataItemBase`. -/
structure TimeDataItemBase where
  mCurrTimeMillis : Int64
  mRawOffsetTZ : Int32
  mDstOffsetTZ : Int32
  deriving DecidableEq, Repr

structure NetworkInfoDataItemBase extends SystemStatusNetworkInfo where
  mTypeName : String
  mSubTypeName : String
  deriving DecidableEq, Repr

structure ServiceStatusDataItemBase where
  mServiceState : Int32
  deriving DecidableEq, Repr

structure ModelDataItemBase where
  mModel : String
  deriving DecidableEq, Repr

structure ManufacturerDataItemBase where
  mManufacturer : String
  deriving DecidableEq, Repr

/-- `RilServiceInfoDataItemBase` and `RilCellInfoDataItemBase`. -/
structure RilDataItemBase where
  mData : Option ℕ
  deriving DecidableEq, Repr

inductive WifiSupplicantState
  | disconnected
  | interfaceDisabled
  | inactive
  | scanning
  | authenticating
  | associating
  | associated
  | fourWayHandshake
  | groupHandshake
  | completed
  | dormant
  | uninitialized
  | invalid
  deriving DecidableEq, Repr

structure WifiSupplicantStatusDataItemBase where
  mState : WifiSupplicantState
  mApMacAddressValid : Bool
  mApMacAddress : Vector UInt8 6
  mWifiApSsidValid : Bool
  mWifiApSsid : String
  deriving DecidableEq, Repr

/-- `TacDataItemBase` and `MccmncDataItemBase`. -/
structure ValueDataItemBase where
  mValue : String
  deriving DecidableEq, Repr

structure SrnDeviceScanDetailsDataItemBase where
  mValidSrnData : Bool
  mApSrnRssi : Int32
  mApSrnMacAddress : Vector UInt8 6
  mApSrnTimestamp : Int64
  mRequestTimestamp : Int64
  mReceiveTimestamp : Int64
  mErrorCause : Int32
  deriving DecidableEq, Repr

/-- The kinds of items that are recorded, named by their ids. -/
inductive Kind
  | airplaneMode
  | enh
  | gpsState
  | nlpStatus
  | wifiHardwareState
  | networkInfo
  | rilServiceInfo
  | rilCellInfo
  | serviceStatus
  | model
  | manufacturer
  | assistedGps
  | screenState
  | powerConnectedState
  | timezoneChange
  | timeChange
  | wifiSupplicantStatus
  | shutdownState
  | tac
  | mccmnc
  | btleScan
  | btScan
  deriving DecidableEq, Repr

/-- What an item of a kind has in it. -/
abbrev Kind.Data : Kind → Type
  | airplaneMode => AirplaneModeDataItemBase
  | enh | gpsState | nlpStatus | wifiHardwareState | assistedGps => EnabledDataItemBase
  | networkInfo => NetworkInfoDataItemBase
  | rilServiceInfo | rilCellInfo => RilDataItemBase
  | serviceStatus => ServiceStatusDataItemBase
  | model => ModelDataItemBase
  | manufacturer => ManufacturerDataItemBase
  | screenState | powerConnectedState | shutdownState => StateDataItemBase
  | timezoneChange | timeChange => TimeDataItemBase
  | wifiSupplicantStatus => WifiSupplicantStatusDataItemBase
  | tac | mccmnc => ValueDataItemBase
  | btleScan | btScan => SrnDeviceScanDetailsDataItemBase

/-- A data item: of a kind that is recorded, or with another id. -/
inductive DataItem
  | recorded (k : Kind) (data : k.Data)
  | other

/-! ## Reports -/

/-- A report of an item, with the id of the item. -/
structure SystemStatusItem (α : Type) where
  mUtcTime : ℕ
  mUtcReported : ℕ
  mId : Kind
  data : α

namespace Kind

/-- `equals` of the reports. -/
def equals : (k : Kind) → k.Data → k.Data → Bool
  | airplaneMode, s, peer => s.mMode == peer.mMode
  | enh, s, peer | gpsState, s, peer | nlpStatus, s, peer | wifiHardwareState, s, peer
  | assistedGps, s, peer => s.mEnabled == peer.mEnabled
  | networkInfo, s, peer => s.toSystemStatusNetworkInfo.equals peer.toSystemStatusNetworkInfo
  | rilServiceInfo, s, peer | rilCellInfo, s, peer => s.mData == peer.mData
  | serviceStatus, s, peer => s.mServiceState == peer.mServiceState
  | model, s, peer => s.mModel == peer.mModel
  | manufacturer, s, peer => s.mManufacturer == peer.mManufacturer
  | screenState, s, peer | powerConnectedState, s, peer | shutdownState, s, peer =>
    s.mState == peer.mState
  | timezoneChange, s, peer | timeChange, s, peer =>
    s.mCurrTimeMillis == peer.mCurrTimeMillis && s.mRawOffsetTZ == peer.mRawOffsetTZ &&
      s.mDstOffsetTZ == peer.mDstOffsetTZ
  | wifiSupplicantStatus, s, peer =>
    s.mState == peer.mState && s.mApMacAddressValid == peer.mApMacAddressValid &&
      s.mWifiApSsidValid == peer.mWifiApSsidValid && s.mWifiApSsid == peer.mWifiApSsid
  | tac, s, peer | mccmnc, s, peer => s.mValue == peer.mValue
  | btleScan, s, peer | btScan, s, peer =>
    s.mApSrnRssi == peer.mApSrnRssi && s.mApSrnMacAddress == peer.mApSrnMacAddress &&
      s.mApSrnTimestamp == peer.mApSrnTimestamp && s.mRequestTimestamp == peer.mRequestTimestamp &&
      s.mReceiveTimestamp == peer.mReceiveTimestamp

/-- `collate` with the newest report. -/
def collate : (k : Kind) → k.Data → k.Data → k.Data
  | networkInfo, s, curInfo =>
    { s with toSystemStatusNetworkInfo :=
        s.toSystemStatusNetworkInfo.collate curInfo.toSystemStatusNetworkInfo }
  | _, s, _ => s

/-- The copy that the report is made of. -/
def construct (setPeerData : ℕ → Option ℕ) : (k : Kind) → k.Data → k.Data
  | rilServiceInfo, itemBase | rilCellInfo, itemBase => ⟨itemBase.mData.bind setPeerData⟩
  | _, itemBase => itemBase

/-- The copy of a report that is put into the list. -/
def copied : (k : Kind) → k.Data → k.Data
  | rilServiceInfo, _ | rilCellInfo, _ => ⟨none⟩
  | _, s => s

/-- A report at the end of the list, from the front of which one goes when there are too many. -/
def push {k : Kind} (report : List (SystemStatusItem k.Data)) (s : SystemStatusItem k.Data) :
    List (SystemStatusItem k.Data) :=
  let report := report ++ [{ s with data := k.copied s.data }]
  if report.length > maxItem then report.tail else report

/-- `setIteminReport`. -/
def setIteminReport {k : Kind} (report : List (SystemStatusItem k.Data))
    (s : SystemStatusItem k.Data) : List (SystemStatusItem k.Data) × Bool :=
  match report.getLast? with
  | none => (push report s, true)
  | some back =>
    let s := { s with data := k.collate s.data back.data }
    if k.equals back.data s.data then
      (report.dropLast ++ [{ back with mUtcReported := s.mUtcReported }], false)
    else (push report s, true)

/-- The kind of the list that an item is put into: the scans of the two kinds of devices are put
into each other's. -/
def reportOf : Kind → Kind
  | btleScan => btScan
  | btScan => btleScan
  | k => k

/-- The item as an item of the kind of the list. -/
def cast : (k : Kind) → k.Data → k.reportOf.Data
  | airplaneMode, s => s | enh, s => s | gpsState, s => s | nlpStatus, s => s
  | wifiHardwareState, s => s | networkInfo, s => s | rilServiceInfo, s => s | rilCellInfo, s => s
  | serviceStatus, s => s | model, s => s | manufacturer, s => s | assistedGps, s => s
  | screenState, s => s | powerConnectedState, s => s | timezoneChange, s => s | timeChange, s => s
  | wifiSupplicantStatus, s => s | shutdownState, s => s | tac, s => s | mccmnc, s => s
  | btleScan, s => s | btScan, s => s

end Kind

/-- The lists `SystemStatus` keeps in `mCache`. -/
abbrev SystemStatusReports := (k : Kind) → List (SystemStatusItem k.Data)

/-- A call of `eventDataItemNotify`, at a time. -/
structure Notification where
  dataitem : DataItem
  now : ℕ

/-- The report of an item. -/
def Kind.report (setPeerData : ℕ → Option ℕ) (k : Kind) (data : k.Data) (now : ℕ) :
    SystemStatusItem k.reportOf.Data where
  mUtcTime := now
  mUtcReported := now
  mId := k
  data := k.cast (k.construct setPeerData data)

def eventDataItemNotify (setPeerData : ℕ → Option ℕ) (mCache : SystemStatusReports)
    (n : Notification) : SystemStatusReports × Bool :=
  match n.dataitem with
  | .recorded k data =>
    let (report, ret) :=
      Kind.setIteminReport (mCache k.reportOf) (k.report setPeerData data n.now)
    (Function.update mCache k.reportOf report, ret)
  | .other => (mCache, false)

end MataDevice.SystemStatus
