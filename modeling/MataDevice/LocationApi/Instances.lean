import MataDevice.Lib.OrderedMap
import MataDevice.Lib.History
import Mathlib.Tactic

/-!
# Instances of the location API

An instance is told to the adapters that its callbacks need, which are loaded when the first one
needs them. Destroying it removes it from every adapter that is loaded, and each of them tells when
it has. The instance is kept in the maps under its address, and a new instance may get the address
of one that was deleted.

A completion callback is a number, or missing. What becomes of the instances in a run is in
`LocationApi.Ends`.
-/

namespace MataDevice.LocationApi

/-! ## Data -/

/-- An adapter, and the interface through which it is reached -/
inductive Adapter
  | gnss
  | batching
  | geofence
  deriving DecidableEq, Repr

/-- `LOCATION_ADAPTER_..._TYPE_BIT` -/
def Adapter.bit : Adapter → UInt32
  | gnss => 1
  | batching => 2
  | geofence => 4

/-- Which of the callbacks are given -/
structure LocationCallbacks where
  capabilitiesCb : Bool
  responseCb : Bool
  collectiveResponseCb : Bool
  trackingCb : Bool
  batchingCb : Bool
  geofenceBreachCb : Bool
  geofenceStatusCb : Bool
  gnssLocationInfoCb : Bool
  gnssNiCb : Bool
  gnssSvCb : Bool
  gnssNmeaCb : Bool
  gnssDataCb : Bool
  gnssMeasurementsCb : Bool
  locationSystemInfoCb : Bool
  engineLocationsInfoCb : Bool
  deriving DecidableEq, Repr

namespace LocationCallbacks

def isGnssClient (cbs : LocationCallbacks) : Bool :=
  cbs.gnssNiCb || cbs.trackingCb || cbs.gnssLocationInfoCb || cbs.engineLocationsInfoCb ||
    cbs.gnssSvCb || cbs.gnssNmeaCb || cbs.gnssDataCb || cbs.gnssMeasurementsCb ||
    cbs.locationSystemInfoCb

def isBatchingClient (cbs : LocationCallbacks) : Bool := cbs.batchingCb

def isGeofenceClient (cbs : LocationCallbacks) : Bool :=
  cbs.geofenceBreachCb || cbs.geofenceStatusCb

/-- The callbacks need the adapter. -/
def needs (cbs : LocationCallbacks) : Adapter → Bool
  | .gnss => cbs.isGnssClient
  | .batching => cbs.isBatchingClient
  | .geofence => cbs.isGeofenceClient

/-- The callbacks without which there is no instance -/
def mandatory (cbs : LocationCallbacks) : Bool :=
  cbs.capabilitiesCb && cbs.responseCb && cbs.collectiveResponseCb

end LocationCallbacks

structure LocationAPIDestroyCbData where
  waitAdapterMask : UInt32
  destroyCompleteCb : ℕ

/-- `gData`, with the flags of the interfaces that could not be loaded and the count -/
structure LocationAPIData where
  clientData : OrderedMap ℕ LocationCallbacks
  destroyClientData : OrderedMap ℕ LocationAPIDestroyCbData
  interfaces : Adapter → Bool
  loadFailed : Adapter → Bool
  gOSFrameworkRefCount : UInt32

/-- What the functions do to the outside -/
inductive Output
  | createOSFramework
  | destroyOSFramework
  | initializeInterface (ad : Adapter)
  | addClient (ad : Adapter) (client : ℕ)
  | requestCapabilities (ad : Adapter) (client : ℕ)
  | removeClient (ad : Adapter) (client : ℕ)
  | invoke (destroyCompleteCb : ℕ)
  /-- Calling a function that is not there throws an exception. -/
  | badFunctionCall
  | delete (client : ℕ)
  deriving DecidableEq, Repr

/-! ## Functions -/

namespace LocationAPIData

/-- Load the interface of an adapter unless that was done or has failed. `available` says whether
the library is there. -/
def loadInterface (ad : Adapter) (available : Adapter → Bool) (gData : LocationAPIData) :
    LocationAPIData × List Output :=
  if !gData.interfaces ad && !gData.loadFailed ad then
    if available ad then
      ({ gData with interfaces := Function.update gData.interfaces ad true }, [.initializeInterface ad])
    else ({ gData with loadFailed := Function.update gData.loadFailed ad true }, [])
  else (gData, [])

/-- Add the client to the adapter if its callbacks need it. The result says whether the capabilities
were requested. -/
def addToAdapter (ad : Adapter) (available : Adapter → Bool) (cbs : LocationCallbacks) (client : ℕ)
    (requestedCapabilities : Bool) (gData : LocationAPIData) :
    LocationAPIData × List Output × Bool :=
  if cbs.needs ad then
    let (gData, outs) := loadInterface ad available gData
    if gData.interfaces ad then
      (gData, outs ++ .addClient ad client ::
        (if requestedCapabilities then [] else [.requestCapabilities ad client]), true)
    else (gData, outs, requestedCapabilities)
  else (gData, [], requestedCapabilities)

/-- The three adapters one after the other -/
def addToAdapters (available : Adapter → Bool) (cbs : LocationCallbacks) (client : ℕ)
    (requestedCapabilities : Bool) (gData : LocationAPIData) : LocationAPIData × List Output :=
  let (gData, outs, requested) :=
    addToAdapter .gnss available cbs client requestedCapabilities gData
  let (gData, outs', requested) := addToAdapter .batching available cbs client requested gData
  let (gData, outs'', _) := addToAdapter .geofence available cbs client requested gData
  (gData, outs ++ outs' ++ outs'')

/-- `client` is the address of the new instance. -/
def createInstance (available : Adapter → Bool) (cbs : LocationCallbacks) (client : ℕ)
    (gData : LocationAPIData) : LocationAPIData × List Output :=
  if !cbs.mandatory then (gData, [])
  else
    let gData := { gData with gOSFrameworkRefCount := gData.gOSFrameworkRefCount + 1 }
    let outs := if gData.gOSFrameworkRefCount = 1 then [.createOSFramework] else []
    let (gData, outs') := addToAdapters available cbs client false gData
    ({ gData with clientData := gData.clientData.insert client cbs }, outs ++ outs')

/-- No capabilities are requested. -/
def updateCallbacks (available : Adapter → Bool) (cbs : LocationCallbacks) (client : ℕ)
    (gData : LocationAPIData) : LocationAPIData × List Output :=
  if !cbs.mandatory then (gData, [])
  else
    let (gData, outs) := addToAdapters available cbs client true gData
    ({ gData with clientData := gData.clientData.insert client cbs }, outs)

/-- The bits of the adapters that satisfy `p` -/
def maskOf (p : Adapter → Bool) : UInt32 :=
  (if p .gnss then Adapter.gnss.bit else 0) ||| (if p .batching then Adapter.batching.bit else 0) |||
    if p .geofence then Adapter.geofence.bit else 0

/-- The call of the completion callback is guarded the wrong way round. -/
def invokeAndDelete (destroyCompleteCb : Option ℕ) (client : ℕ) : List Output :=
  match destroyCompleteCb with
  -- the exception leaves the function before the instance is deleted
  | none => [.badFunctionCall]
  | some _ => [.delete client]

/-- An adapter is loaded, and will acknowledge. -/
def needToWait (gData : LocationAPIData) : Bool :=
  gData.interfaces .gnss || gData.interfaces .batching || gData.interfaces .geofence

/-- `client` is no longer valid after the call. -/
def destroy (destroyCompleteCb : Option ℕ) (client : ℕ) (gData : LocationAPIData) :
    LocationAPIData × List Output :=
  let found := (gData.clientData.find? client).isSome
  let destroyClientData := match destroyCompleteCb with
    | none => gData.destroyClientData
    | some cb =>
      if found && gData.needToWait then
        gData.destroyClientData.insert client ⟨maskOf gData.interfaces, cb⟩
      else gData.destroyClientData
  let removes := if found then
      ([.gnss, .batching, .geofence] : List Adapter).filterMap fun ad ↦
        if gData.interfaces ad then some (.removeClient ad client) else none
    else []
  let framework := if gData.gOSFrameworkRefCount = 1 then [.destroyOSFramework] else []
  let ends := if found && !gData.needToWait then invokeAndDelete destroyCompleteCb client else []
  ({ gData with
      clientData := gData.clientData.erase client
      destroyClientData := destroyClientData
      gOSFrameworkRefCount := gData.gOSFrameworkRefCount - 1 }, removes ++ framework ++ ends)

def onRemoveClientCompleteCb (adapterType : Adapter) (client : ℕ) (gData : LocationAPIData) :
    LocationAPIData × List Output :=
  match gData.destroyClientData.find? client with
  | none => (gData, [])
  | some data =>
    let waitAdapterMask := data.waitAdapterMask &&& ~~~adapterType.bit
    if waitAdapterMask = 0 then
      ({ gData with destroyClientData := gData.destroyClientData.erase client },
        invokeAndDelete (some data.destroyCompleteCb) client)
    else
      ({ gData with
        destroyClientData := gData.destroyClientData.insert client
          { data with waitAdapterMask := waitAdapterMask } }, [])

end LocationAPIData

end MataDevice.LocationApi
