import MataDevice.Lib.History

/-!
# The network items of the system status

`SystemStatus` keeps the last few network items it was notified of. An item is about one network,
but it also carries a table of all the networks that are connected, and a mask of their types.
`collate` makes them from the newest item of the cache before the item is put there; the first item
is put there as it comes. An item that changes nothing is dropped.

The table is an array of `MAX_NETWORK_HANDLES` slots. Its used slots come first: a new handle is put
into the first free one, and a handle that goes is replaced by the last one.
-/

namespace MataDevice.SystemStatus

inductive NetworkType
  | mobile
  | wifi
  | ethernet
  | bluetooth
  | mms
  | supl
  | dun
  | hipri
  | wimax
  | proxy
  | unknown
  deriving DecidableEq, Repr

/-- The value of the enumerator. -/
def NetworkType.index : NetworkType → ℕ
  | mobile => 0
  | wifi => 1
  | ethernet => 2
  | bluetooth => 3
  | mms => 4
  | supl => 5
  | dun => 6
  | hipri => 7
  | wimax => 8
  | proxy => 9
  | unknown => 10

theorem NetworkType.index_injective : Function.Injective NetworkType.index := by
  intro t t' h
  cases t <;> cases t' <;> first | rfl | cases h

abbrev NetworkHandle := UInt64

/-- `NETWORK_HANDLE_UNKNOWN`. -/
def networkHandleUnknown : NetworkHandle := 0xFFFFFFFFFFFFFFFF

/-- `MAX_NETWORK_HANDLES`. -/
def maxNetworkHandles : ℕ := 10

structure NetworkInfoType where
  networkHandle : NetworkHandle
  networkType : NetworkType
  deriving DecidableEq, Repr

/-- A free slot. -/
def NetworkInfoType.free : NetworkInfoType := ⟨networkHandleUnknown, .unknown⟩

@[simp] theorem NetworkInfoType.networkHandle_free :
    NetworkInfoType.free.networkHandle = networkHandleUnknown := rfl

/-- A network event, with which `eventConnectionStatus` is called. -/
structure NetworkEvent where
  connected : Bool
  type : NetworkType
  roaming : Bool
  networkHandle : NetworkHandle
  apn : String
  deriving DecidableEq, Repr

structure SystemStatusNetworkInfo where
  mAllTypes : BitVec 64
  mType : NetworkType
  mAvailable : Bool
  mConnected : Bool
  mRoaming : Bool
  mAllNetworkHandles : List NetworkInfoType
  mNetworkHandle : NetworkHandle
  mApn : String
  deriving DecidableEq, Repr

def typeToAllTypes (type : NetworkType) : BitVec 64 :=
  match type with
  | .unknown => 0
  | type => 1#64 <<< type.index

/-- The item `eventConnectionStatus` makes of an event. -/
def NetworkEvent.item (e : NetworkEvent) : SystemStatusNetworkInfo where
  mAllTypes := typeToAllTypes e.type
  mType := e.type
  mAvailable := e.connected && !e.roaming
  mConnected := e.connected
  mRoaming := e.roaming
  mAllNetworkHandles := ⟨e.networkHandle, e.type⟩ :: List.replicate (maxNetworkHandles - 1) .free
  mNetworkHandle := e.networkHandle
  mApn := e.apn

/-- The loop of `collate` for a connected network: the handle is put into the first free slot,
unless it comes before. -/
def connect (info : NetworkInfoType) : List NetworkInfoType → List NetworkInfoType
  | [] => []
  | slot :: slots =>
    if info.networkHandle = slot.networkHandle then slot :: slots
    else if networkHandleUnknown = slot.networkHandle then info :: slots
    else slot :: connect info slots

/-- What the loop of `collate` for a disconnected network finds. -/
structure Scan where
  deletedIndex : ℕ
  lastValidIndex : ℕ
  typeCount : ℕ
  deriving DecidableEq, Repr

/-- The loop of `collate` for a disconnected network, over the slots that are left. -/
def scan (info : NetworkInfoType) : List NetworkInfoType → Scan → Scan
  | [], found => found
  | slot :: slots, found =>
    if networkHandleUnknown = slot.networkHandle then found
    else
      let found' :=
        if info.networkType = slot.networkType then
          if info.networkHandle = slot.networkHandle then
            { found with deletedIndex := found.lastValidIndex }
          else { found with typeCount := found.typeCount + 1 }
        else found
      scan info slots { found' with lastValidIndex := found.lastValidIndex + 1 }

namespace SystemStatusNetworkInfo

def equals (s peer : SystemStatusNetworkInfo) : Bool :=
  peer.mConnected = s.mConnected ∧ s.mAllNetworkHandles = peer.mAllNetworkHandles ∧
    peer.mApn = s.mApn

/-- `collate` with the newest item of the cache. -/
def collate (s curInfo : SystemStatusNetworkInfo) : SystemStatusNetworkInfo :=
  let allTypes := curInfo.mAllTypes
  let slots := curInfo.mAllNetworkHandles
  let s := { s with mApn := if s.mType ≠ NetworkType.mobile ∧ curInfo.mApn ≠ ""
    then curInfo.mApn else s.mApn }
  if s.mConnected then
    { s with
      mAllTypes := s.mAllTypes ||| allTypes
      mAllNetworkHandles := connect ⟨s.mNetworkHandle, s.mType⟩ slots }
  else if s.mAllTypes ≠ 0 then
    let found := scan ⟨s.mNetworkHandle, s.mType⟩ slots ⟨maxNetworkHandles, 0, 0⟩
    let lastValidIndex := found.lastValidIndex - 1
    { s with
      mAllTypes := if found.typeCount = 0 then allTypes &&& ~~~s.mAllTypes else s.mAllTypes
      mAllNetworkHandles :=
        if found.deletedIndex ≠ maxNetworkHandles then
          (slots.set found.deletedIndex (slots.getD lastValidIndex .free)).set lastValidIndex .free
        else slots }
  else { s with mAllNetworkHandles := slots }

end SystemStatusNetworkInfo

/-- `maxItem`. -/
def maxItem : ℕ := 5

/-- `setIteminReport` for the network items. -/
def setIteminReport (report : List SystemStatusNetworkInfo) (s : SystemStatusNetworkInfo) :
    List SystemStatusNetworkInfo :=
  let push (s : SystemStatusNetworkInfo) :=
    if (report ++ [s]).length > maxItem then (report ++ [s]).tail else report ++ [s]
  match report.getLast? with
  | none => push s
  | some back => if back.equals (s.collate back) then report else push (s.collate back)

/-- The cache `mNetworkInfo` after some events. -/
def report (events : List NetworkEvent) : List SystemStatusNetworkInfo :=
  events.foldl (fun r e ↦ setIteminReport r e.item) []

end MataDevice.SystemStatus
